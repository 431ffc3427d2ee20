-- SUMMARY: The operations of package dl among other goroutines: the error each returns is the one its own call caused.
import Nvfm.Dl.Threads
import Mathlib.Data.List.Nodup

/-!
# Attribution of Loader Errors

`Open`, `Close` and `Lookup` on any libraries, run by goroutines that share
threads with each other and with programs that use the loader directly. A failed
operation returns the message its own loader call set, `Open` and `Close` return nil
only after a success, and `Lookup` returns nil exactly when it has found the symbol.
-/

namespace Nvfm

open Go Interaction Prog DynamicLibrary

/-! ## Operations -/

/-- The operations of package `dl`, on the library `d`. -/
inductive LoaderOp (D : Type) where
  | Open (d : D)
  | Close (d : D)
  | Lookup (d : D) (symbol : GoString)

namespace LoaderOp

variable {D : Type} [DecidableEq D]

/-- One library among all. -/
def library (d : D) : Lens (D → DynamicLibrary) DynamicLibrary where
  get m := m d
  set dl m := Function.update m d dl
  get_set _ _ := Function.update_self ..
  set_get _ := Function.update_eq_self ..
  set_set _ _ _ := Function.update_idem ..

def prog : LoaderOp D → Prog (D → DynamicLibrary) (Call.Answer Message) (GoError Message)
  | Open d => DynamicLibrary.Open.zoom (library d)
  | Close d => DynamicLibrary.Close.zoom (library d)
  | Lookup d symbol => (DynamicLibrary.Lookup symbol).zoom (library d)

/-- The error of an operation whose loader call set the message `m`. -/
def fault : LoaderOp D → Message → GoError Message
  | Open _, m => .new m
  | Close _, m => .new m
  | Lookup _ symbol, m => .errorf "symbol %q not found: %w" symbol (.new m)

end LoaderOp

/-- What a goroutine does: an operation of package `dl`, or any program of its own. -/
inductive ThreadOp (D : Type) where
  | loader (op : LoaderOp D)
  | other (p : Prog (D → DynamicLibrary) (Call.Answer Message) (GoError Message))

/-- The goroutines `G` on the threads `T`. -/
def threads (G T D : Type) [DecidableEq G] [DecidableEq T] [DecidableEq D] :
    System G (D → DynamicLibrary) (Threads G T D) (Call.Answer Message) (ThreadOp D) (GoError Message)
    where
  prog _ op :=
    match op with
    | .loader op => op.prog
    | .other p => p
  env := Threads.env

/-! ## One operation -/

section Operations

variable {G T D : Type}

/-- The loader calls of an operation. -/
def loaderCalls (t : Trace (D → DynamicLibrary) (Threads G T D) (Call.Answer Message)) :
    List (Action (Threads G T D) (Call.Answer Message)) :=
  t.actions.filter (·.call.isLoader)

/-- What an operation of package `dl` promises about its error: a message set by a
    call of its own is the message it returns, and `Open` and `Close` return nil
    only when their loader call succeeded, or when there was no handle to close.
    `Lookup` returns nil exactly when `dlsym` answers a pointer, and wraps no error
    when `dlsym` answers nil without a message, whatever was left over on the thread. -/
structure LoaderOp.Correct (op : LoaderOp D) (err : GoError Message)
    (t : Trace (D → DynamicLibrary) (Threads G T D) (Call.Answer Message)) : Prop where
  attributed : ∀ x ∈ t.actions, ∀ m, Threads.raised x = some m → err = op.fault m
  opened : ∀ d, op = .Open d → err = .nil →
    ∃ x, loaderCalls t = [x] ∧ Threads.succeeded x = true
  closed : ∀ d, op = .Close d → err = .nil →
    (∃ x, loaderCalls t = [x] ∧ Threads.succeeded x = true) ∨
      (t.actions = [] ∧ ∃ mem ∈ t.reads, (mem d).handle = none)
  looked : ∀ d symbol, op = .Lookup d symbol →
    ∃ x, loaderCalls t = [x] ∧ (err = .nil ↔ Threads.succeeded x = true) ∧
      (Threads.succeeded x = false → Threads.raised x = none →
        err = .errorf "symbol %q not found: %w" symbol .nil)

namespace LoaderOp

open Threads

variable {g : G} {k : Option (Option Message)} {op : LoaderOp D} {err : GoError Message} {m : Message}
  {t : Trace (D → DynamicLibrary) (Threads G T D) (Call.Answer Message)}
  {y : Action (Threads G T D) (Call.Answer Message)}

theorem fault_ne_nil (op : LoaderOp D) (m : Message) : op.fault m ≠ .nil := by
  cases op <;> nofun

/-- The loader call succeeded, and no call set a message. -/
theorem Correct.of_succeeded (hquiet : ∀ x ∈ t.actions, raised x = none)
    (hy : loaderCalls t = [y]) (hsucceeded : succeeded y = true) : op.Correct .nil t where
  attributed x hx _ hm := nomatch (hquiet x hx).symm.trans hm
  opened _ _ _ := ⟨y, hy, hsucceeded⟩
  closed _ _ _ := .inl ⟨y, hy, hsucceeded⟩
  looked _ _ _ := ⟨y, hy, iff_of_true rfl hsucceeded, fun hfailed =>
    absurd (hsucceeded.symm.trans hfailed) Bool.false_ne_true.symm⟩

/-- The loader call failed, and the only message set is the one returned. -/
theorem Correct.of_raised (hraised : ∀ x ∈ t.actions, raised x = none ∨ raised x = some m)
    (hy : loaderCalls t = [y]) (hfails : Raises y m) : op.Correct (op.fault m) t where
  attributed x hx m' hm' := by
    rcases hraised x hx with hnone | hsome
    · cases hnone.symm.trans hm'
    · rw [Option.some.inj (hsome.symm.trans hm')]
  opened _ _ hnil := absurd hnil (fault_ne_nil op m)
  closed _ _ hnil := absurd hnil (fault_ne_nil op m)
  looked _ _ _ := by
    refine ⟨y, hy, iff_of_false (fault_ne_nil op m) (Bool.eq_false_iff.1 hfails.failed), ?_⟩
    intro _ hnone
    cases hnone.symm.trans hfails.raised

/-- A `Lookup` that finds nil, and whose calls set no message. -/
theorem Correct.of_nil {d : D} {symbol : GoString} (hquiet : ∀ x ∈ t.actions, raised x = none)
    (hy : loaderCalls t = [y]) (hnil : AnswersNil y) :
    (Lookup d symbol).Correct (.errorf "symbol %q not found: %w" symbol .nil) t where
  attributed x hx _ hm := nomatch (hquiet x hx).symm.trans hm
  opened _ hop := nomatch hop
  closed _ hop := nomatch hop
  looked _ _ hop := by
    cases hop
    exact ⟨y, hy, iff_of_false nofun (Bool.eq_false_iff.1 hnil.failed), fun _ _ => rfl⟩

variable [DecidableEq G] [DecidableEq T] [DecidableEq D]

theorem wp_Open (d : D) :
    (Open d).prog.wp (own g) (fun err l => (Open d).Correct err l.trace)
      (⟨k, .empty⟩ : Threads.Known G T D) := by
  simp only [prog, DynamicLibrary.Open, withOSLock, dlError, load_bind, invoke_bind, bind_get,
    bind_call, zoom_get, zoom_call]
  apply wp_get
  intro mem
  apply wp_lockOSThread
  intro m x hx
  apply wp_get
  intro mem'
  apply wp_dlopen rfl
  · intro h y hy
    simp only [update_bind, pure_eq, bind_modify, bind_ret, zoom_modify, zoom_call, zoom_ret]
    apply wp_modify
    apply wp_unlockOSThread
    intro k z hz
    apply Correct.of_succeeded (y := y)
    · simp [hx.raised, hy.raised, hz.raised]
    · simp [loaderCalls, hx.noLoader, hy.loader, hz.noLoader]
    · exact hy.succeeded
  · intro m' y hy
    simp only [bind_call, pure_eq, bind_ret, zoom_call, zoom_ret]
    apply wp_dlerror rfl
    intro z hz
    apply wp_unlockOSThread
    intro k u hu
    refine Correct.of_raised ?_ ?_ hy
    · simp [hx.raised, hy.raised, hz.raised, hu.raised]
    · simp [loaderCalls, hx.noLoader, hy.loader, hz.noLoader, hu.noLoader]

theorem wp_Close (d : D) :
    (Close d).prog.wp (own g) (fun err l => (Close d).Correct err l.trace)
      (⟨k, .empty⟩ : Threads.Known G T D) := by
  simp only [prog, DynamicLibrary.Close, withOSLock, dlError, load_bind, invoke_bind, bind_get,
    zoom_get]
  apply wp_get
  intro mem
  split
  · next hnil =>
      refine ⟨fun x hx => absurd hx List.not_mem_nil, ?_, ?_, ?_⟩
      · intro _ hop
        cases hop
      · intro _ hop _
        cases hop
        exact .inr ⟨rfl, mem, List.mem_singleton_self mem, hnil⟩
      · intro _ _ hop
        cases hop
  · next hh =>
      simp only [bind_call, zoom_call, zoom_get]
      apply wp_lockOSThread
      intro m x hx
      apply wp_get
      intro mem'
      apply wp_dlclose rfl
      · intro y hy
        simp only [ne_eq, not_true_eq_false, if_false, update_bind, pure_eq, bind_modify, bind_ret,
          zoom_modify, zoom_call, zoom_ret]
        apply wp_modify
        apply wp_unlockOSThread
        intro k z hz
        apply Correct.of_succeeded (y := y)
        · simp [hx.raised, hy.raised, hz.raised]
        · simp [loaderCalls, hx.noLoader, hy.loader, hz.noLoader]
        · exact hy.succeeded
      · intro status m' y hst hy
        simp only [ne_eq, hst, not_false_eq_true, if_true, bind_call, pure_eq, bind_ret, zoom_call,
          zoom_ret]
        apply wp_dlerror rfl
        intro z hz
        apply wp_unlockOSThread
        intro k u hu
        refine Correct.of_raised ?_ ?_ hy
        · simp [hx.raised, hy.raised, hz.raised, hu.raised]
        · simp [loaderCalls, hx.noLoader, hy.loader, hz.noLoader, hu.noLoader]

theorem wp_Lookup (d : D) (symbol : GoString) :
    (Lookup d symbol).prog.wp (own g) (fun err l => (Lookup d symbol).Correct err l.trace)
      (⟨k, .empty⟩ : Threads.Known G T D) := by
  simp only [prog, DynamicLibrary.Lookup, withOSLock, dlError, load_bind, invoke_bind, bind_get,
    bind_call, pure_eq, bind_ret, zoom_get, zoom_call]
  apply wp_lockOSThread
  intro m x hx
  -- The message left over on the thread goes away before the search.
  apply wp_dlerror rfl
  intro y hy
  apply wp_get
  intro mem
  apply wp_dlsym rfl
  · intro q z hz
    simp only [bind_ret, zoom_call, zoom_ret]
    apply wp_unlockOSThread
    intro k v hv
    apply Correct.of_succeeded (y := z)
    · simp [hx.raised, hy.raised, hz.raised, hv.raised]
    · simp [loaderCalls, hx.noLoader, hy.noLoader, hz.loader, hv.noLoader]
    · exact hz.succeeded
  · intro z hz
    simp only [bind_call, bind_ret, zoom_call, zoom_ret]
    apply wp_dlerror rfl
    intro u hu
    apply wp_unlockOSThread
    intro k v hv
    refine Correct.of_nil ?_ ?_ hz
    · simp [hx.raised, hy.raised, hz.raised, hu.raised, hv.raised]
    · simp [loaderCalls, hx.noLoader, hy.noLoader, hz.loader, hu.noLoader, hv.noLoader]
  · intro m' z hz
    simp only [bind_call, bind_ret, zoom_call, zoom_ret]
    apply wp_dlerror rfl
    intro u hu
    apply wp_unlockOSThread
    intro k v hv
    refine (Correct.of_raised ?_ ?_ hz : (Lookup d symbol).Correct ((Lookup d symbol).fault m') _)
    · simp [hx.raised, hy.raised, hz.raised, hu.raised, hv.raised]
    · simp [loaderCalls, hx.noLoader, hy.noLoader, hz.loader, hu.noLoader, hv.noLoader]

theorem wp_prog (op : LoaderOp D) :
    op.prog.wp (own g) (fun err l => op.Correct err l.trace) (⟨k, .empty⟩ : Threads.Known G T D) := by
  cases op with
  | Open d => exact wp_Open d
  | Close d => exact wp_Close d
  | Lookup d symbol => exact wp_Lookup d symbol

end LoaderOp

end Operations

/-! ## All goroutines -/

section Goroutines

variable {G T D : Type}

/-- What holds of a goroutine after the operations `past`. -/
def Attributed (past : List (Finished (D → DynamicLibrary) (Threads G T D) (Call.Answer Message)
    (ThreadOp D) (GoError Message))) : Prop :=
  ∀ f ∈ past, ∀ op, f.op = .loader op → op.Correct f.result f.trace

theorem Attributed.concat {past : List (Finished (D → DynamicLibrary) (Threads G T D)
    (Call.Answer Message) (ThreadOp D) (GoError Message))}
    {f : Finished (D → DynamicLibrary) (Threads G T D) (Call.Answer Message) (ThreadOp D)
      (GoError Message)} (h : Attributed past)
    (hf : ∀ op, f.op = .loader op → op.Correct f.result f.trace) : Attributed (past ++ [f]) := by
  intro x hx op hop
  rcases List.mem_append.1 hx with hx | hx
  · exact h x hx op hop
  · obtain rfl := List.mem_singleton.1 hx
    exact hf op hop

variable [DecidableEq G] [DecidableEq T] [DecidableEq D]

/-- No goroutine changes what another sees of its own thread. -/
theorem threads_isolates : (threads G T D).Isolates Threads.Sound Threads.view where
  get := by
    rintro g s _ _ hs ⟨rfl, rfl⟩
    exact ⟨hs, fun _ _ => rfl⟩
  modify := by
    rintro g s f _ hs rfl
    exact ⟨⟨hs.exclusive, hs.numbered⟩, fun _ _ => rfl⟩
  call := by
    rintro g s e r s' hs _ ⟨t, ht, hcall⟩
    cases hcall with
    | lockOSThread =>
        refine ⟨⟨hs.exclusive.lock ht, hs.numbered⟩, ?_⟩
        intro h hne
        apply Threads.view_congr
        · simp [Threads.lock, hne]
        · simp [Threads.lock, hne]
    | unlockOSThread =>
        refine ⟨⟨hs.exclusive.unlock g, hs.numbered⟩, ?_⟩
        intro h hne
        apply Threads.view_congr
        · simp [Threads.unlock, hne]
        · simp [Threads.unlock]
    | dlopen h => exact ⟨hs, fun _ _ => rfl⟩
    | dlopenFailed text =>
        exact ⟨hs.fail t text, fun _ hne => Threads.view_update_slot ht hs.exclusive hne ..⟩
    | dlclose => exact ⟨hs, fun _ _ => rfl⟩
    | dlcloseFailed hst text =>
        exact ⟨hs.fail t text, fun _ hne => Threads.view_update_slot ht hs.exclusive hne ..⟩
    | dlsym p => exact ⟨hs, fun _ _ => rfl⟩
    | dlsymNil => exact ⟨hs, fun _ _ => rfl⟩
    | dlsymFailed text =>
        exact ⟨hs.fail t text, fun _ hne => Threads.view_update_slot ht hs.exclusive hne ..⟩
    | dlerror =>
        refine ⟨⟨hs.exclusive, hs.numbered⟩, ?_⟩
        exact fun _ hne => Threads.view_update_slot ht hs.exclusive hne ..
    | fm hfm r => exact ⟨hs, fun _ _ => rfl⟩

theorem threads_restores :
    (threads G T D).Restores Threads.Sound Threads.view (fun _ _ past => Attributed past) := by
  intro g op k past h
  cases op with
  | loader op =>
      apply wp_mono _ (LoaderOp.wp_prog op)
      intro err l hl
      apply h.concat
      rintro _ ⟨rfl⟩
      exact hl
  | other p =>
      apply wp_of_ready (fun _ _ _ _ _ => trivial)
      intro err l
      apply h.concat
      rintro _ ⟨⟩

/-- In every interleaving of goroutines that use package `dl`, or the loader
    directly, no two calls set the same message, and every finished operation
    returns the message its own loader call set, if it set one. -/
theorem loader_errors_attributed (mem : D → DynamicLibrary) (thread : G → T)
    {c : Config G (D → DynamicLibrary) (Threads G T D) (Call.Answer Message) (ThreadOp D)
      (GoError Message)}
    (hc : (threads G T D).Reachable (Threads.start mem thread) c) :
    c.shared.messages.Nodup ∧
    ∀ g, ∀ f ∈ c.finished g, ∀ op, f.op = .loader op → op.Correct f.result f.trace := by
  have h := System.keeps_of_reachable threads_isolates threads_restores
    (Threads.sound_start mem thread) (fun _ _ hf => absurd hf List.not_mem_nil) hc
  refine ⟨?_, ?_⟩
  · apply List.Nodup.of_map (·.number)
    rw [h.shared.numbered, List.nodup_reverse]
    exact List.nodup_range
  · intro g
    obtain ⟨_, hg⟩ := (h.agents g).past
    exact hg

end Goroutines

/-- A message of another goroutine is left over on the thread of an `Open` that
    fails: the `Open` returns its own. -/
theorem loader_errors_attributed_stale :
    ∃ c : Config Bool (Unit → DynamicLibrary) (Threads Bool Unit Unit) (Call.Answer Message)
        (ThreadOp Unit) (GoError Message),
      ((c.finished false).map (·.result) = [.new ⟨ascii "no such file", 1⟩] ∧
        c.shared.messages = [⟨ascii "no such file", 1⟩, ⟨ascii "undefined symbol", 0⟩]) ∧
      c.shared.messages.Nodup ∧
      ∀ g, ∀ f ∈ c.finished g, ∀ op, f.op = .loader op → op.Correct f.result f.trace := by
  have h0 : (threads Bool Unit Unit).Reachable
      (Threads.start (fun _ => DynamicLibrary.New (ascii "libnvfm.so") 0) fun _ => ()) _ := .refl
  have h1 := h0.tail (.begin (a := true) (.other (.call (.dlsym none []) fun _ => .ret .nil)) rfl)
  have h2 := h1.tail (.call (a := true) rfl
    ⟨(), fun _ hpin => absurd rfl hpin, .dlsymFailed (ascii "undefined symbol")⟩)
  have h3 := h2.tail (.begin (a := false) (.loader (.Open ())) rfl)
  have h4 := h3.tail (.get (a := false) rfl ⟨rfl, rfl⟩)
  have h5 := h4.tail (.call (a := false) rfl ⟨(), fun _ hpin => absurd rfl hpin, .lockOSThread⟩)
  have h6 := h5.tail (.get (a := false) rfl ⟨rfl, rfl⟩)
  have h7 := h6.tail (.call (a := false) rfl ⟨(), rfl, .dlopenFailed (ascii "no such file")⟩)
  have h8 := h7.tail (.call (a := false) rfl ⟨(), rfl, .dlerror⟩)
  have h9 := h8.tail (.call (a := false) rfl ⟨(), rfl, .unlockOSThread⟩)
  have h10 := h9.tail (.finish (a := false) rfl)
  exact ⟨_, ⟨rfl, rfl⟩, loader_errors_attributed _ _ h10⟩

end Nvfm
