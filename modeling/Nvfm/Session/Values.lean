-- SUMMARY: Library values that share one loader count and one Fabric Manager session, interleaved call by call.
import Nvfm.Session.Refinement
import Nvfm.Interaction.Interleaving
import Mathlib.Data.Multiset.AddSub

/-!
# Independent Library Values

The package-level library and the values of `New` each have a mutex of their
own, so their calls overlap. They name the same shared library: its loader count
and the session of the C library belong to the whole process. A value ends only
the session it began, and gives back only references it obtained.
-/

namespace Nvfm

open Go Interaction Prog DynamicLibrary Return

/-! ## The process -/

/-- The state of the process: the library values, the value that began the running
    session, the loader count of the shared library, the values its references
    were obtained by, and the values whose last `dlopen` failed with its message
    not yet read. -/
structure Process (V : Type) where
  lib : V → Library
  session : Option V
  loader : ℕ
  refs : Multiset V
  failed : V → Bool

namespace Process

variable {V : Type}

/-- Fresh values, and a shared library nobody has loaded. -/
def start (opts : V → List LibraryOption) : Process V where
  lib v := Library.newLibrary (opts v)
  session := none
  loader := 0
  refs := 0
  failed _ := false

variable [DecidableEq V]

/-- One call of the value `v`. The C library keeps to `nv_fm_agent.h`, a failed
    `dlopen` has a message, and `dlclose` succeeds. -/
inductive Called (v : V) (p : Process V) : (e : Call) → Answer e → Process V → Prop where
  | lockOSThread : Called v p .lockOSThread () p
  | unlockOSThread : Called v p .unlockOSThread () p
  | dlopen {name : CharBlock} {flags : Int32} (h : Pointer) :
      Called v p (.dlopen name flags) (some h) { p with loader := p.loader + 1, refs := v ::ₘ p.refs }
  | dlopenFailed {name : CharBlock} {flags : Int32} :
      Called v p (.dlopen name flags) none { p with failed := Function.update p.failed v true }
  | dlerror {m : Option GoString} (hm : p.failed v = true → m ≠ none) :
      Called v p .dlerror m { p with failed := Function.update p.failed v false }
  | dlclose {handle : Option Pointer} :
      Called v p (.dlclose handle) (0 : Int32) { p with loader := p.loader - 1, refs := p.refs.erase v }
  | fmLibInitInUse (hup : p.session ≠ none) : Called v p .fmLibInit IN_USE p
  | fmLibInit (hdown : p.session = none) : Called v p .fmLibInit SUCCESS { p with session := some v }
  | fmLibInitFailed (hdown : p.session = none) {ret : Return} (hret : ret ≠ SUCCESS) :
      Called v p .fmLibInit ret p
  | fmLibShutdownUninitialized (hdown : p.session = none) :
      Called v p .fmLibShutdown UNINITIALIZED p
  | fmLibShutdown (hup : p.session ≠ none) :
      Called v p .fmLibShutdown SUCCESS { p with session := none }
  | fmLibShutdownFailed (hup : p.session ≠ none) {ret : Return} (hret : ret ≠ SUCCESS) :
      Called v p .fmLibShutdown ret p

/-- What has to hold for a call of `v` to leave the other values alone: it gives
    back a reference of its own, and not the last one under its session; it enters
    the library while it holds a reference; and it ends a session it began. -/
def Ready (v : V) (p : Process V) : Call → Prop
  | .dlclose _ => v ∈ p.refs ∧ (p.session = some v → 1 < p.refs.count v)
  | .fmLibInit => v ∈ p.refs
  | .fmLibShutdown => v ∈ p.refs ∧ p.session = some v
  | _ => True

def env (v : V) : Env Library Answer (Process V) where
  get p s p' := s = p.lib v ∧ p' = p
  modify p f p' := p' = { p with lib := Function.update p.lib v (f (p.lib v)) }
  ready := Ready v
  call := Called v

/-- Every reference is counted, and the value that began the session holds one. -/
structure Sound (p : Process V) : Prop where
  counted : p.loader = p.refs.card
  loaded : ∀ v, p.session = some v → v ∈ p.refs

end Process

theorem Process.sound_start {V : Type} (opts : V → List LibraryOption) : (start opts).Sound := by
  refine ⟨rfl, ?_⟩
  intro v hv
  cases hv

/-- The library values as agents. The mutex of a value makes its own calls follow
    one another. -/
def values (V : Type) [DecidableEq V] : System V Library (Process V) Answer LifecycleOp Return where
  prog _ := LifecycleOp.prog
  env := Process.env

/-! ## What one value sees -/

/-- The process as one value sees it. -/
structure Standing where
  lib : Library
  owns : Bool
  refs : ℕ
  failed : Bool

namespace Standing

variable {V : Type} [DecidableEq V]

/-- What the value `v` sees of the process. -/
def view (v : V) (p : Process V) : Standing where
  lib := p.lib v
  owns := p.session = some v
  refs := p.refs.count v
  failed := p.failed v

/-- One call of the value, in its own eyes. -/
inductive Called (k : Standing) : (e : Call) → Answer e → Standing → Prop where
  | lockOSThread : Called k .lockOSThread () k
  | unlockOSThread : Called k .unlockOSThread () k
  | dlopen {name : CharBlock} {flags : Int32} (h : Pointer) :
      Called k (.dlopen name flags) (some h) { k with refs := k.refs + 1 }
  | dlopenFailed {name : CharBlock} {flags : Int32} :
      Called k (.dlopen name flags) none { k with failed := true }
  | dlerror {m : Option GoString} (hm : k.failed = true → m ≠ none) :
      Called k .dlerror m { k with failed := false }
  | dlclose {handle : Option Pointer} :
      Called k (.dlclose handle) (0 : Int32) { k with refs := k.refs - 1 }
  | fmLibInit (hdown : k.owns = false) : Called k .fmLibInit SUCCESS { k with owns := true }
  | fmLibInitFailed {ret : Return} (hret : ret ≠ SUCCESS) : Called k .fmLibInit ret k
  | fmLibShutdown : Called k .fmLibShutdown SUCCESS { k with owns := false }
  | fmLibShutdownFailed {ret : Return} (hret : ret ≠ SUCCESS) : Called k .fmLibShutdown ret k

def Ready (k : Standing) : Call → Prop
  | .dlclose _ => 0 < k.refs ∧ (k.owns = true → 1 < k.refs)
  | .fmLibInit => 0 < k.refs
  | .fmLibShutdown => 0 < k.refs ∧ k.owns = true
  | _ => True

def env : Env Library Answer Standing where
  get k s k' := s = k.lib ∧ k' = k
  modify k f k' := k' = { k with lib := f k.lib }
  ready := Ready
  call := Called

theorem ready_view {v : V} {p : Process V} {e : Call} (h : (view v p).Ready e) :
    Process.Ready v p e := by
  have hrefs : 0 < (view v p).refs ↔ v ∈ p.refs := Multiset.count_pos
  cases e with
  | dlclose handle => exact ⟨hrefs.1 h.1, fun howns => h.2 (decide_eq_true howns)⟩
  | fmLibInit => exact hrefs.1 h
  | fmLibShutdown => exact ⟨hrefs.1 h.1, of_decide_eq_true h.2⟩
  | _ => trivial

theorem called_view {v : V} {p p' : Process V} {e : Call} {r : Answer e}
    (h : Process.Called v p e r p') : (view v p).Called e r (view v p') := by
  cases h with
  | lockOSThread => exact .lockOSThread
  | unlockOSThread => exact .unlockOSThread
  | dlopen h => simpa [view] using Called.dlopen h
  | dlopenFailed => simpa [view] using Called.dlopenFailed
  | dlerror hm => simpa [view] using Called.dlerror hm
  | dlclose => simpa [view] using Called.dlclose
  | fmLibInitInUse hup => exact .fmLibInitFailed (by decide)
  | fmLibInit hdown => simpa [view] using Called.fmLibInit (k := view v p) (by simp [view, hdown])
  | fmLibInitFailed hdown hret => exact .fmLibInitFailed hret
  | fmLibShutdownUninitialized hdown => exact .fmLibShutdownFailed (by decide)
  | fmLibShutdown hup => simpa [view] using Called.fmLibShutdown
  | fmLibShutdownFailed hup hret => exact .fmLibShutdownFailed hret

/-- A value runs as if it saw nothing but its own standing. -/
theorem simulates (v : V) : ((Process.env v).seen Process.Sound (view v)).Simulates env
    (fun l k => l.view = k) where
  get := by
    rintro l _ s _ rfl ⟨p, _, _, hview, ⟨rfl, rfl⟩, rfl⟩
    exact ⟨_, ⟨hview ▸ rfl, rfl⟩, hview⟩
  modify := by
    rintro l _ f _ rfl ⟨p, _, _, hview, rfl, rfl⟩
    refine ⟨_, rfl, ?_⟩
    simp [← hview, view]
  ready := by
    rintro l _ e rfl hready p _ hview
    exact ready_view (hview ▸ hready)
  call := by
    rintro l _ e r _ rfl _ ⟨p, p', _, hview, hcall, rfl⟩
    exact ⟨_, hview ▸ called_view hcall, rfl⟩

/-! ## The operations of one value -/

/-- A value between two calls: its counter says whether it began the session, and
    it holds a reference when it has a handle or began the session. -/
structure Settled (k : Standing) : Prop where
  counted : k.lib.refcount ≠ 0 ↔ k.owns = true
  held : k.lib.dl.handle ≠ none → 0 < k.refs
  live : k.owns = true → 0 < k.refs

/-- A value between two calls whose counter is exactly `n`. -/
structure Exact (k : Standing) (n : ℕ) : Prop where
  counts : Counts k.lib n
  held : k.lib.dl.handle ≠ none ↔ 0 < n
  refs : k.refs = if 0 < n then 1 else 0

section Operations

variable {α : Type} {k : Standing} {n : ℕ}

/-! ### One step -/

section Steps

variable {Q : α → Standing → Prop}

@[simp] theorem wp_get {p : Library → Prog Library Answer α} :
    (Prog.get p).wp env Q k ↔ (p k.lib).wp env Q k := by
  simp [wp, env]

@[simp] theorem wp_modify {f : Library → Library} {p : Prog Library Answer α} :
    (Prog.modify f p).wp env Q k ↔ p.wp env Q { k with lib := f k.lib } := by
  simp [wp, env]

@[simp] theorem wp_lockOSThread {p : Unit → Prog Library Answer α} :
    (Prog.call Call.lockOSThread p).wp env Q k ↔ (p ()).wp env Q k := by
  refine ⟨fun h => h.2 () k .lockOSThread, fun h => ⟨trivial, ?_⟩⟩
  rintro _ _ ⟨⟩
  exact h

@[simp] theorem wp_unlockOSThread {p : Unit → Prog Library Answer α} :
    (Prog.call Call.unlockOSThread p).wp env Q k ↔ (p ()).wp env Q k := by
  refine ⟨fun h => h.2 () k .unlockOSThread, fun h => ⟨trivial, ?_⟩⟩
  rintro _ _ ⟨⟩
  exact h

theorem wp_dlopen {name : CharBlock} {flags : Int32} {p : Option Pointer → Prog Library Answer α}
    (hopened : ∀ h, (p (some h)).wp env Q { k with refs := k.refs + 1 })
    (hfailed : (p none).wp env Q { k with failed := true }) :
    (Prog.call (Call.dlopen name flags) p).wp env Q k := by
  refine ⟨trivial, ?_⟩
  intro handle k' hcall
  cases hcall with
  | dlopen h => exact hopened h
  | dlopenFailed => exact hfailed

/-- After a failed `dlopen` there is a message. -/
theorem wp_dlerror {p : Option GoString → Prog Library Answer α} (hfailed : k.failed = true)
    (h : ∀ m, (p (some m)).wp env Q { k with failed := false }) :
    (Prog.call Call.dlerror p).wp env Q k := by
  refine ⟨trivial, ?_⟩
  intro m k' hcall
  cases hcall with
  | dlerror hm =>
      cases m with
      | none => exact absurd rfl (hm hfailed)
      | some m => exact h m

theorem wp_dlclose {handle : Option Pointer} {p : Int32 → Prog Library Answer α}
    (hready : 0 < k.refs ∧ (k.owns = true → 1 < k.refs))
    (h : (p 0).wp env Q { k with refs := k.refs - 1 }) :
    (Prog.call (Call.dlclose handle) p).wp env Q k := by
  refine ⟨hready, ?_⟩
  intro status k' hcall
  cases hcall with
  | dlclose => exact h

theorem wp_fmLibInit {p : Return → Prog Library Answer α} (hready : 0 < k.refs)
    (hinit : k.owns = false → (p SUCCESS).wp env Q { k with owns := true })
    (hfailed : ∀ ret, ret ≠ SUCCESS → (p ret).wp env Q k) :
    (Prog.call Call.fmLibInit p).wp env Q k := by
  refine ⟨hready, ?_⟩
  intro ret k' hcall
  cases hcall with
  | fmLibInit hdown => exact hinit hdown
  | fmLibInitFailed hret => exact hfailed ret hret

theorem wp_fmLibShutdown {p : Return → Prog Library Answer α}
    (hready : 0 < k.refs ∧ k.owns = true)
    (hended : (p SUCCESS).wp env Q { k with owns := false })
    (hfailed : ∀ ret, ret ≠ SUCCESS → (p ret).wp env Q k) :
    (Prog.call Call.fmLibShutdown p).wp env Q k := by
  refine ⟨hready, ?_⟩
  intro ret k' hcall
  cases hcall with
  | fmLibShutdown => exact hended
  | fmLibShutdownFailed hret => exact hfailed ret hret

end Steps

/-! ### One operation of the loader -/

section Loader

variable {Q : GoError GoString → Standing → Prop}

theorem wp_Open (hfailed : ∀ m, Q (.new m) { k with failed := false })
    (hopened : ∀ h, Q .nil { k with lib := k.lib.setHandle (some h), refs := k.refs + 1 }) :
    (Open.zoom Library.dlLens).wp env Q k := by
  simp only [Open, withOSLock, dlError, load_bind, invoke_bind, bind_get, bind_call, zoom_get,
    zoom_call, wp_get, wp_lockOSThread]
  apply wp_dlopen
  · intro h
    simp only [update_bind, pure_eq, bind_modify, bind_ret, zoom_modify, zoom_call, zoom_ret,
      wp_modify, wp_unlockOSThread]
    exact hopened h
  · simp only [bind_call, pure_eq, bind_ret, zoom_call, zoom_ret]
    apply wp_dlerror rfl
    intro m
    rw [wp_unlockOSThread]
    exact hfailed m

theorem wp_Close (hready : k.lib.dl.handle ≠ none → 0 < k.refs ∧ (k.owns = true → 1 < k.refs))
    (hnil : k.lib.dl.handle = none → Q .nil k)
    (hclosed : k.lib.dl.handle ≠ none →
      Q .nil { k with lib := k.lib.setHandle none, refs := k.refs - 1 }) :
    (Close.zoom Library.dlLens).wp env Q k := by
  simp only [Close, withOSLock, dlError, load_bind, invoke_bind, bind_get, zoom_get, wp_get]
  split
  · next hh => exact hnil hh
  · next hh =>
      simp only [bind_call, zoom_call, zoom_get, wp_lockOSThread, wp_get]
      apply wp_dlclose (hready hh)
      simp only [ne_eq, not_true_eq_false, if_false, update_bind, pure_eq, bind_modify, bind_ret,
        zoom_modify, zoom_call, zoom_ret, wp_modify, wp_unlockOSThread]
      exact hclosed hh

end Loader

/-! ### One operation of the lifecycle -/

/-- An operation leads from `k` to a settled value, and counts by one at most. -/
structure Advances (k k' : Standing) : Prop where
  settled : Settled k'
  exact : ∀ n, n + 1 < 2 ^ 63 → Exact k n → ∃ n', n' ≤ n + 1 ∧ Exact k' n'

/-- An operation that leaves the value as it was, but for the message it read. -/
theorem Settled.advances (hk : Settled k) (failed : Bool) :
    Advances k { k with failed := failed } := by
  refine ⟨⟨hk.counted, hk.held, hk.live⟩, ?_⟩
  intro n _ hn
  exact ⟨n, Nat.le_succ n, ⟨hn.counts, hn.held, hn.refs⟩⟩

theorem wp_Init (hk : Settled k) : Library.Init.wp env (fun _ => Advances k) k := by
  simp only [Library.Init, load_bind, wp_get]
  split
  · next hpos =>
      simp only [update_bind, pure_eq, wp_modify]
      have howns : k.owns = true := hk.counted.1 (Refcount.ne_zero_of_pos hpos)
      refine ⟨⟨?_, hk.held, hk.live⟩, ?_⟩
      · exact iff_of_true (Refcount.add_one_ne_zero hpos) howns
      · intro n hlt hn
        have hpos' : 0 < n := hn.counts.pos_iff.1 hpos
        refine ⟨n + 1, Nat.le_refl _, hn.counts.add_one hlt, ?_, ?_⟩
        · exact iff_of_true (hn.held.2 hpos') (Nat.succ_pos n)
        · rw [hn.refs, if_pos hpos', if_pos (Nat.succ_pos n)]
  · next hpos =>
      rw [wp_bind]
      apply wp_Open
      · intro m
        simp only [ne_eq, reduceCtorEq, not_false_eq_true, if_true]
        exact hk.advances false
      · intro h
        simp only [ne_eq, not_true_eq_false, if_false, invoke_bind]
        apply wp_fmLibInit (Nat.succ_pos k.refs)
        · intro hdown
          simp only [not_true_eq_false, if_false, update_bind, pure_eq, wp_modify]
          have hone : (1 : Refcount) ≠ 0 := by decide
          refine ⟨⟨iff_of_true hone rfl, ?_, ?_⟩, ?_⟩
          · exact fun _ => Nat.succ_pos k.refs
          · exact fun _ => Nat.succ_pos k.refs
          · intro n hlt hn
            obtain rfl := hn.counts.eq_zero hpos
            refine ⟨1, Nat.le_refl 1, rfl, ?_, ?_⟩
            · exact iff_of_true (Option.some_ne_none h) Nat.one_pos
            · simp [hn.refs]
        · intro ret hret
          simp only [hret, not_false_eq_true, if_true]
          rw [wp_bind]
          apply wp_Close
          · intro _
            exact ⟨Nat.succ_pos k.refs, fun howns => Nat.succ_lt_succ (hk.live howns)⟩
          · exact fun hnil => absurd hnil (Option.some_ne_none h)
          · intro _
            refine ⟨⟨hk.counted, fun hh => absurd rfl hh, hk.live⟩, ?_⟩
            intro n hlt hn
            obtain rfl := hn.counts.eq_zero hpos
            refine ⟨0, Nat.zero_le _, hn.counts, ?_, ?_⟩
            · exact iff_of_false (fun hh => hh rfl) (Nat.lt_irrefl 0)
            · exact hn.refs

theorem wp_Shutdown (hk : Settled k) : Library.Shutdown.wp env (fun _ => Advances k) k := by
  simp only [Library.Shutdown, load_bind, wp_get]
  split
  · exact hk.advances k.failed
  · next hzero =>
      have howns : k.owns = true := hk.counted.1 hzero
      rw [wp_get]
      split
      · next hone =>
          simp only [update_bind, pure_eq, wp_modify]
          refine ⟨⟨?_, hk.held, hk.live⟩, ?_⟩
          · exact iff_of_true (Refcount.sub_one_ne_zero hone) howns
          · intro n hlt hn
            obtain ⟨n, rfl⟩ : ∃ m, n = m + 1 :=
              Nat.exists_eq_succ_of_ne_zero (Nat.ne_zero_of_lt (hn.counts.one_lt_iff.1 hone))
            have hpos : 0 < n := Nat.lt_of_succ_lt_succ (hn.counts.one_lt_iff.1 hone)
            refine ⟨n, Nat.le_succ_of_le (Nat.le_succ n), hn.counts.sub_one, ?_, ?_⟩
            · exact iff_of_true (hn.held.2 (Nat.succ_pos n)) hpos
            · rw [hn.refs, if_pos hpos, if_pos (Nat.succ_pos n)]
      · next hone =>
          -- The value began the session: it may end it.
          simp only [invoke_bind]
          apply wp_fmLibShutdown ⟨hk.live howns, howns⟩
          · simp only [ne_eq, not_true_eq_false, if_false]
            rw [wp_bind]
            apply wp_Close
            · exact fun hh => ⟨hk.held hh, fun h => absurd h Bool.false_ne_true⟩
            · intro hnil
              simp only [not_true_eq_false, if_false, update_bind, pure_eq, wp_modify]
              refine ⟨⟨iff_of_false (fun h => h rfl) Bool.false_ne_true, hk.held,
                fun h => absurd h Bool.false_ne_true⟩, ?_⟩
              intro n _ hn
              obtain rfl := hn.counts.eq_one hzero hone
              exact absurd hnil (hn.held.2 Nat.one_pos)
            · intro hh
              simp only [not_true_eq_false, if_false, update_bind, pure_eq, wp_modify]
              refine ⟨⟨iff_of_false (fun h => h rfl) Bool.false_ne_true, fun h => absurd rfl h,
                fun h => absurd h Bool.false_ne_true⟩, ?_⟩
              · intro n _ hn
                obtain rfl := hn.counts.eq_one hzero hone
                refine ⟨0, Nat.zero_le _, rfl, iff_of_false (fun h => h rfl) (Nat.lt_irrefl 0), ?_⟩
                simp [hn.refs]
          · intro ret hret
            simp only [ne_eq, hret, not_false_eq_true, if_true]
            exact hk.advances k.failed

theorem wp_prog (op : LifecycleOp) (hk : Settled k) : op.prog.wp env (fun _ => Advances k) k := by
  cases op with
  | Init => exact wp_Init hk
  | Shutdown => exact wp_Shutdown hk

end Operations

end Standing

/-! ## All values -/

section Values

variable {V : Type}

/-- What holds of a value between two calls, after the calls `past`. -/
structure Rested (k : Standing) (past : List (Finished Library (Process V) Answer LifecycleOp Return)) :
    Prop where
  settled : k.Settled
  exact : past.length < 2 ^ 63 → ∃ n, n ≤ past.length ∧ k.Exact n

/-- While the counter has not wrapped around, a value between two calls counts, has
    a handle and holds a reference exactly when it began the session. -/
theorem Rested.exactly {k : Standing}
    {past : List (Finished Library (Process V) Answer LifecycleOp Return)} (h : Rested k past)
    (hlen : past.length < 2 ^ 63) :
    (0 < k.lib.refcount ↔ k.owns = true) ∧ (k.lib.dl.handle ≠ none ↔ k.owns = true) ∧
      k.refs = if k.owns = true then 1 else 0 := by
  obtain ⟨n, _, hn⟩ := h.exact hlen
  have hpos : 0 < n ↔ k.owns = true := by
    rw [Nat.pos_iff_ne_zero, Ne, ← hn.counts.eq_zero_iff]
    exact h.settled.counted
  refine ⟨hn.counts.pos_iff.trans hpos, hn.held.trans hpos, ?_⟩
  rw [← if_congr hpos rfl rfl]
  exact hn.refs

variable [DecidableEq V]

/-- No value changes what another sees. -/
theorem values_isolates : (values V).Isolates Process.Sound Standing.view where
  get := by
    rintro v p _ _ hp ⟨rfl, rfl⟩
    exact ⟨hp, fun _ _ => rfl⟩
  modify := by
    rintro v p f _ hp rfl
    refine ⟨⟨hp.counted, hp.loaded⟩, ?_⟩
    intro w hw
    simp [Standing.view, Function.update_of_ne hw]
  call := by
    intro v p e r p' hp hready hcall
    cases hcall with
    | lockOSThread => exact ⟨hp, fun _ _ => rfl⟩
    | unlockOSThread => exact ⟨hp, fun _ _ => rfl⟩
    | dlopen h =>
        refine ⟨⟨?_, ?_⟩, ?_⟩
        · rw [Multiset.card_cons, hp.counted]
        · exact fun w hw => Multiset.mem_cons_of_mem (hp.loaded w hw)
        · intro w hw
          simp [Standing.view, Multiset.count_cons_of_ne hw]
    | dlopenFailed =>
        refine ⟨⟨hp.counted, hp.loaded⟩, ?_⟩
        intro w hw
        simp [Standing.view, Function.update_of_ne hw]
    | dlerror hm =>
        refine ⟨⟨hp.counted, hp.loaded⟩, ?_⟩
        intro w hw
        simp [Standing.view, Function.update_of_ne hw]
    | dlclose =>
        obtain ⟨hmem, hlast⟩ := hready
        refine ⟨⟨?_, ?_⟩, ?_⟩
        · rw [Multiset.card_erase_of_mem hmem, hp.counted]
          rfl
        · intro w hw
          rcases eq_or_ne w v with rfl | hne
          · rw [← Multiset.count_pos, Multiset.count_erase_self]
            exact Nat.sub_pos_of_lt (hlast hw)
          · exact (Multiset.mem_erase_of_ne hne).2 (hp.loaded w hw)
        · intro w hw
          simp [Standing.view, Multiset.count_erase_of_ne hw]
    | fmLibInitInUse hup => exact ⟨hp, fun _ _ => rfl⟩
    | fmLibInit hdown =>
        refine ⟨⟨hp.counted, ?_⟩, ?_⟩
        · intro w hw
          obtain rfl := Option.some.inj hw
          exact hready
        · intro w hw
          simp [Standing.view, hdown, hw.symm]
    | fmLibInitFailed hdown hret => exact ⟨hp, fun _ _ => rfl⟩
    | fmLibShutdownUninitialized hdown => exact ⟨hp, fun _ _ => rfl⟩
    | fmLibShutdown hup =>
        refine ⟨⟨hp.counted, fun _ hw => nomatch hw⟩, ?_⟩
        intro w hw
        simp [Standing.view, hready.2, hw.symm]
    | fmLibShutdownFailed hup hret => exact ⟨hp, fun _ _ => rfl⟩

theorem values_restores :
    (values V).Restores Process.Sound Standing.view (fun _ k past => Rested k past) := by
  intro v op k past h
  apply wp_simulates (Standing.simulates v) rfl
  apply wp_mono _ (Standing.wp_prog op h.settled)
  rintro r _ hk _ rfl
  refine ⟨hk.settled, ?_⟩
  intro hlen
  rw [List.length_append] at hlen ⊢
  obtain ⟨n, hn, hexact⟩ := h.exact (Nat.lt_of_succ_lt hlen)
  obtain ⟨n', hn', hexact'⟩ := hk.exact n (Nat.lt_of_le_of_lt (Nat.succ_le_succ hn) hlen) hexact
  exact ⟨n', hn'.trans (Nat.succ_le_succ hn), hexact'⟩

theorem rested_start (opts : V → List LibraryOption) (v : V) :
    Rested (V := V) (Standing.view v (Process.start opts)) [] := by
  refine ⟨⟨?_, fun h => absurd rfl h, fun h => absurd h Bool.false_ne_true⟩, fun _ =>
    ⟨0, Nat.le_refl 0, rfl, ?_, ?_⟩⟩
  · exact iff_of_false (fun h => h rfl) Bool.false_ne_true
  · exact iff_of_false (fun h => h rfl) (Nat.lt_irrefl 0)
  · rfl

/-- In every interleaving of the calls of any number of values, `fmLibShutdown` is
    only called by the value that began the session; the shared library stays
    loaded under a session; and between two of its calls a value counts, and has a
    handle, exactly when it began the running session. -/
theorem values_keep_sessions (opts : V → List LibraryOption)
    {c : Config V Library (Process V) Answer LifecycleOp Return}
    (hc : (values V).Reachable (Process.start opts) c) :
    (∀ v, ∀ x ∈ c.actions v, x.call = .fmLibShutdown → x.before.session = some v) ∧
    (∀ v, c.shared.session = some v → 0 < c.shared.loader) ∧
    (∀ v, c.running v = none →
      ((c.shared.lib v).refcount ≠ 0 ↔ c.shared.session = some v) ∧
      ((c.finished v).length < 2 ^ 63 →
        (0 < (c.shared.lib v).refcount ↔ c.shared.session = some v) ∧
        ((c.shared.lib v).dl.handle ≠ none ↔ c.shared.session = some v))) ∧
    ((∀ v, c.running v = none ∧ (c.finished v).length < 2 ^ 63) →
      c.shared.loader = if c.shared.session.isSome then 1 else 0) := by
  have h := System.keeps_of_reachable values_isolates values_restores
    (Process.sound_start opts) (rested_start opts) hc
  have howns : ∀ v, (Standing.view v c.shared).owns = true ↔ c.shared.session = some v :=
    fun v => decide_eq_true_iff
  refine ⟨?_, ?_, ?_, ?_⟩
  · intro v x hx hcall
    have hready : Process.Ready v x.before x.call := (h.agents v).ready x hx
    rw [hcall] at hready
    exact hready.2
  · intro v hv
    rw [h.shared.counted]
    exact Multiset.card_pos_iff_exists_mem.2 ⟨v, h.shared.loaded v hv⟩
  · intro v hidle
    have hv := (h.agents v).idle hidle
    refine ⟨hv.settled.counted.trans (howns v), ?_⟩
    intro hlen
    obtain ⟨hpos, hheld, _⟩ := hv.exactly hlen
    exact ⟨hpos.trans (howns v), hheld.trans (howns v)⟩
  · intro hidle
    have hrefs : ∀ v, c.shared.refs.count v = if c.shared.session = some v then 1 else 0 := by
      intro v
      obtain ⟨_, _, hcount⟩ := ((h.agents v).idle (hidle v).1).exactly (hidle v).2
      rw [← if_congr (howns v) rfl rfl]
      exact hcount
    rw [h.shared.counted]
    cases hsession : c.shared.session with
    | none =>
        have hnone : c.shared.refs = 0 := by
          ext v
          rw [hrefs, hsession]
          rfl
        rw [hnone]
        rfl
    | some w =>
        have hone : c.shared.refs = {w} := by
          ext v
          rw [hrefs, hsession, Multiset.count_singleton]
          simp [eq_comm]
        rw [hone]
        rfl

end Values

/-- The package-level library and another value: `Init` of the second falls
    between `dlopen` and `fmLibInit` of the first, which begins the session. -/
theorem values_keep_sessions_overlap :
    ∃ c : Config Bool Library (Process Bool) Answer LifecycleOp Return,
      (c.shared.session = some true ∧ c.shared.loader = 2 ∧ (c.running false).isSome = true) ∧
      (∀ v, ∀ x ∈ c.actions v, x.call = .fmLibShutdown → x.before.session = some v) ∧
      (∀ v, c.shared.session = some v → 0 < c.shared.loader) ∧
      (∀ v, c.running v = none →
        ((c.shared.lib v).refcount ≠ 0 ↔ c.shared.session = some v) ∧
        ((c.finished v).length < 2 ^ 63 →
          (0 < (c.shared.lib v).refcount ↔ c.shared.session = some v) ∧
          ((c.shared.lib v).dl.handle ≠ none ↔ c.shared.session = some v))) ∧
      ((∀ v, c.running v = none ∧ (c.finished v).length < 2 ^ 63) →
        c.shared.loader = if c.shared.session.isSome then 1 else 0) := by
  have h : Pointer := ⟨1, by decide⟩
  have h0 : (values Bool).Reachable (Process.start fun _ => []) _ := .refl
  have h1 := h0.tail (.begin (a := true) .Init rfl)
  have h2 := h1.tail (.get (a := true) rfl ⟨rfl, rfl⟩)
  have h3 := h2.tail (.get (a := true) rfl ⟨rfl, rfl⟩)
  have h4 := h3.tail (.call (a := true) rfl .lockOSThread)
  have h5 := h4.tail (.get (a := true) rfl ⟨rfl, rfl⟩)
  have h6 := h5.tail (.call (a := true) rfl (.dlopen h))
  have h7 := h6.tail (.modify (a := true) rfl rfl)
  have h8 := h7.tail (.call (a := true) rfl .unlockOSThread)
  have h9 := h8.tail (.begin (a := false) .Init rfl)
  have h10 := h9.tail (.get (a := false) rfl ⟨rfl, rfl⟩)
  have h11 := h10.tail (.get (a := false) rfl ⟨rfl, rfl⟩)
  have h12 := h11.tail (.call (a := false) rfl .lockOSThread)
  have h13 := h12.tail (.get (a := false) rfl ⟨rfl, rfl⟩)
  have h14 := h13.tail (.call (a := false) rfl (.dlopen h))
  have h15 := h14.tail (.call (a := true) rfl (.fmLibInit rfl))
  have h16 := h15.tail (.modify (a := true) rfl rfl)
  have h17 := h16.tail (.finish (a := true) rfl)
  exact ⟨_, ⟨rfl, rfl, rfl⟩, values_keep_sessions (fun _ => []) h17⟩

end Nvfm
