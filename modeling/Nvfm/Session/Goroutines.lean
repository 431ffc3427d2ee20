-- SUMMARY: Goroutines that call the operations of one library: their interleavings, and what each of them can rely on.
import Nvfm.Interaction.Locking
import Nvfm.Session.FabricManager
import Nvfm.Session.References

/-!
# Goroutines

`Init`, `Shutdown` and `SetLibraryOptions` lock the mutex of the library and run
step by step. The operations of any number of goroutines amount to a sequence of
them, and a goroutine that has not given its `Init` back keeps the library loaded
and initialised through every step of the others.
-/

namespace Nvfm

open Go Interaction DynamicLibrary Return

variable {G : Type} [DecidableEq G]

/-! ## Interleavings -/

/-- The operations on the package-level library, by any goroutines and in any
    interleaving of their steps, happen one after the other: what the goroutines see agrees
    at every moment with a sequence of them; the mutex is taken exactly while one goroutine
    is inside, only that one reads or changes the library or calls out, and it runs on from
    where the sequence ends. -/
theorem goroutines_linearize (o : Oracle Answer) (ts : List (Turn G PackageOp)) :
    let c := Concurrent.schedule PackageOp.code o libnvfm ts
    ∃ ops : List (G × PackageOp),
      let l := exec (fun x => x.2.prog) o libnvfm ops
      Linearizes c.history l.records ∧
      (c.taken = false → c.world = ⟨l.mem, l.events⟩) ∧
      (c.taken = true ↔ ∃ g, c.Inside g) ∧
      (∀ g b, c.Inside g → c.Inside b → b = g) ∧
      ∀ g op p, c.running g = some (op, p) → p.NeedsMutex →
        ∃ rest w, p = rest.unlocking ∧ Guarded.Running PackageOp.prog o l c.world op rest w := by
  obtain ⟨ops, h⟩ := Guarded.follows_schedule PackageOp.prog o libnvfm ts
  rw [Guarded.code_schedule PackageOp.code_eq]
  refine ⟨ops, h.linearizes, ?_, h.taken_iff, fun g b => h.exclusive, ?_⟩
  · intro hfree
    exact h.free (Option.isNone_iff_eq_none.1 (Option.isSome_eq_false_iff.1 hfree))
  · intro g op p hrunning hneeds
    obtain ⟨rest, hinside, rfl⟩ := Phase.inside_of_needsMutex hrunning hneeds
    obtain ⟨w, hw⟩ := h.running g op rest hinside
    exact ⟨rest, w, rfl, hw⟩

/-- Without their `Lock` two goroutines are in the middle of `Init` at once. -/
example :
    let c := Concurrent.schedule (fun _ : LifecycleOp => Library.Init.unlocking) (fun _ c => c.succeed)
      libnvfm [.call false .Init, .call true .Init, .go false, .go true]
    c.Inside false ∧ c.Inside true :=
  ⟨⟨_, _, rfl, trivial⟩, ⟨_, _, rfl, trivial⟩⟩

/-! ## Returning -/

/-- No call gets lost and none blocks for good: whatever the goroutines are in the middle
    of, when they call nothing more and each of them gets a turn again and again, every
    call returns, once, and leaves the mutex free. -/
theorem goroutines_return (o : Oracle Answer) (ts : List (Turn G PackageOp)) (turns : ℕ → G)
    (hfair : ∀ g, (Concurrent.schedule PackageOp.code o libnvfm ts).running g ≠ none →
      ∀ n, ∃ m, n ≤ m ∧ turns m = g) :
    ∃ n, ∀ m, n ≤ m →
      let c := (Concurrent.schedule PackageOp.code o libnvfm ts).play PackageOp.code o turns m
      c.taken = false ∧ ∀ g, c.running g = none ∧
        (returns g c.history).map Prod.fst = calls g c.history := by
  obtain ⟨ops, h⟩ := Guarded.follows_schedule PackageOp.prog o libnvfm ts
  rw [Guarded.code_schedule PackageOp.code_eq] at hfair ⊢
  obtain ⟨n, hidle⟩ := h.eventually_idle (Guarded.finite_active PackageOp.prog o libnvfm ts)
    fun g hactive => hfair g (Phase.code_eq_none.not.2 hactive)
  refine ⟨n, ?_⟩
  intro m hm
  obtain ⟨l, hfollows⟩ := h.play turns m
  rw [Guarded.code_play PackageOp.code_eq h]
  refine ⟨?_, fun g => ⟨Phase.code_eq_none.2 (hidle m hm g), ?_⟩⟩
  · refine Bool.eq_false_iff.2 ?_
    intro htaken
    obtain ⟨g, op, p, hrunning, _⟩ := hfollows.taken_iff.1 htaken
    rw [Guarded.code_running, Phase.code_eq_none.2 (hidle m hm g)] at hrunning
    cases hrunning
  · have hagrees := hfollows.agrees g
    rw [hidle m hm g] at hagrees
    obtain ⟨hreturned, hcalled⟩ := hagrees
    rw [Guarded.code_history, hreturned, hcalled]

/-- Two goroutines call `Init` at once. -/
theorem goroutines_return_contended : ∃ n, ∀ m, n ≤ m →
    let c := (Concurrent.schedule PackageOp.code (fun _ c => c.succeed) libnvfm
      [.call false (.lifecycle .Init), .call true (.lifecycle .Init), .go false]).play
      PackageOp.code (fun _ c => c.succeed) (fun n => n % 2 = 1) m
    c.taken = false ∧ ∀ g, c.running g = none ∧
      (returns g c.history).map Prod.fst = calls g c.history := by
  refine goroutines_return _ _ _ ?_
  intro g _ n
  cases g with
  | false => exact ⟨2 * n, by omega, decide_eq_false (by omega)⟩
  | true => exact ⟨2 * n + 1, by omega, decide_eq_true (by omega)⟩

/-! ## Sharing goroutines -/

/-- The `Init` calls that have returned `SUCCESS` to `g`, less the `Shutdown` calls that have. -/
def held (g : G) (h : List (Moment G LifecycleOp Return)) : ℤ :=
  Counted.total ((returns g h).map fun x => granting g x.1 x.2)

/-- Every goroutine calls `Shutdown` only for an `Init` of its own that has returned. -/
def Shares (h : List (Moment G LifecycleOp Return)) : Prop :=
  Log.EachAfter (fun past m => ∀ g, m = .called g .Shutdown → 0 < held g past) h

/-- A client's balance is what its own calls add up to. -/
theorem balance_requests (g : G) (rs : List (Record Library Answer (G × LifecycleOp) Return)) :
    Counted.balance g (requests rs) =
      Counted.total ((effects g rs).map fun x => granting g x.1 x.2) := by
  induction rs using List.reverseRecOn with
  | nil => rfl
  | append_singleton rs r ih =>
      obtain ⟨⟨b, op⟩, ret, s, w⟩ := r
      rw [requests_concat, Counted.balance_concat, effects_concat, ih]
      rcases eq_or_ne b g with rfl | hne
      · simp [granting, Counted.total_concat]
      · simp [granting, hne]

/-- The requests of the log are disciplined, and a goroutine on its way to a
    `Shutdown` holds something to give back. -/
structure Owns (c : Guarded G Library Answer LifecycleOp Return)
    (l : Log Library Answer (G × LifecycleOp) Return) : Prop where
  disciplined : Counted.Disciplined (requests l.records)
  pending : ∀ g, (c.phase g).pending = some .Shutdown → 0 < Counted.balance g (requests l.records)

section Owns

variable {c c' : Guarded G Library Answer LifecycleOp Return}
  {l l' : Log Library Answer (G × LifecycleOp) Return} {o : Oracle Answer}

/-- Between two operations a goroutine has seen all of its own. -/
theorem held_of_idle (h : Guarded.Follows LifecycleOp.prog o c l) {g : G}
    (hidle : c.phase g = .idle) : held g c.history = Counted.balance g (requests l.records) := by
  have hagrees := h.agrees g
  rw [hidle] at hagrees
  rw [held, balance_requests, hagrees.1]

theorem Owns.turn (h : Owns c l) (hfollows : Guarded.Follows LifecycleOp.prog o c l)
    (hturned : c.Turned LifecycleOp.prog o l c' l') (hshares : Shares c'.history) : Owns c' l' := by
  cases hturned with
  | stayed => exact h
  | @called a op hidle =>
      refine ⟨h.disciplined, ?_⟩
      intro g hg
      rcases eq_or_ne g a with rfl | hne
      · obtain rfl : op = .Shutdown := by simpa [Guarded.call, Phase.pending] using hg
        rw [← held_of_idle hfollows hidle]
        exact hshares _ _ [] rfl g rfl
      · exact h.pending g (by simpa [Guarded.call, hne] using hg)
  | @locked a op hwaiting hfree =>
      refine ⟨h.disciplined, ?_⟩
      intro g hg
      rcases eq_or_ne g a with rfl | hne
      · refine h.pending g ?_
        rw [hwaiting]
        simpa [Guarded.lock, Phase.pending] using hg
      · exact h.pending g (by simpa [Guarded.lock, hne] using hg)
  | @advanced a op rest rest' w hinside hstep =>
      refine ⟨h.disciplined, ?_⟩
      intro g hg
      rcases eq_or_ne g a with rfl | hne
      · refine h.pending g ?_
        rw [hinside]
        simpa [Guarded.advance, Phase.pending] using hg
      · exact h.pending g (by simpa [Guarded.advance, hne] using hg)
  | @unlocked a op rest r hinside hstep =>
      obtain ⟨ret, w, heq⟩ : ∃ ret w,
          l.perform (fun x => x.2.prog) o (a, op) = l.append (a, op) ret w := ⟨_, _, rfl⟩
      rw [heq]
      constructor
      case disciplined =>
        rw [Log.append_records, requests_concat, Counted.disciplined_concat]
        refine ⟨h.disciplined, ?_⟩
        intro hrelease
        have hop : op = .Shutdown := by
          cases op with
          | Init => cases hrelease
          | Shutdown => rfl
        refine h.pending a ?_
        rw [hinside, hop]
        rfl
      case pending =>
        intro g hg
        rcases eq_or_ne g a with rfl | hne
        · simp [Guarded.unlock, Phase.pending] at hg
        · rw [Log.append_records, requests_concat, Counted.balance_concat]
          have hpos := h.pending g (by simpa [Guarded.unlock, hne] using hg)
          simpa [granting, hne.symm] using hpos
  | @finished a op r hleaving =>
      refine ⟨h.disciplined, ?_⟩
      intro g hg
      rcases eq_or_ne g a with rfl | hne
      · simp [Guarded.finish, Phase.pending] at hg
      · exact h.pending g (by simpa [Guarded.finish, hne] using hg)

end Owns

/-! ## What the sequence keeps loaded -/

/-- The loader knows one reference while the library holds its handle, and the library
    holds it only while it is counted. -/
structure Loaded (l : Log Library Answer (G × LifecycleOp) Return) : Prop where
  counts : ∃ n : ℕ, Counts l.mem n ∧ n ≤ l.records.length ∧ (l.mem.dl.handle ≠ none → n ≠ 0)
  accounted : references l.events = known l.mem

section Loaded

variable {l : Log Library Answer (G × LifecycleOp) Return} {lib : Library} {ret : Return}
  {w : World Library Answer} {op : LifecycleOp} {n n' : ℕ}

/-- With a loader that closes, the handle of a library that is not counted is gone. -/
theorem LifecycleOp.Reported.uncounted (hr : op.Reported lib ret w)
    (hclose : w.events.any failsToClose = false) (hl : Counts lib n)
    (hheld : lib.dl.handle ≠ none → n ≠ 0) (hw : Counts w.mem n') (hzero : n' = 0) :
    w.mem.dl.handle = none := by
  subst hzero
  have hcount : w.mem.refcount = 0 := hw.eq_zero_iff.2 rfl
  have hsame : n = 0 → lib.dl.handle = none := by
    intro hn
    by_contra hh
    exact hheld hh hn
  cases op with
  | Init =>
    cases hr with
    | counted hpos => exact absurd hcount (Refcount.add_one_ne_zero hpos)
    | openFailed hpos m => exact hsame (hl.eq_zero hpos)
    | initFailed _ _ _ => rfl
    | closeFailed _ h _ hst m => simp [closeFailedEvents, failsToClose, hst] at hclose
    | initialised _ _ =>
      rw [Library.setRefcount_refcount] at hcount
      exact absurd hcount (by decide)
  | Shutdown =>
    cases hr with
    | uninitialized hzero => exact hsame (hl.eq_zero_iff.1 hzero)
    | counted hone => exact absurd hcount (Refcount.sub_one_ne_zero hone)
    | shutdownFailed hzero _ _ => exact absurd hcount hzero
    | closeFailed _ _ _ hst m => simp [closeFailedEvents, failsToClose, hst] at hclose
    | alreadyClosed _ _ hnil => exact hnil
    | closed _ _ _ => rfl

/-- A library that holds its handle only while it is counted drops no reference. -/
theorem LifecycleOp.not_overwrites (hl : Counts lib n) (hheld : lib.dl.handle ≠ none → n ≠ 0) :
    overwrites ⟨.lifecycle op, .inl ret, lib, w⟩ = false := by
  cases op with
  | Shutdown => simp [overwrites]
  | Init =>
      by_cases hh : lib.dl.handle = none
      · simp [overwrites, hh]
      · have hpos : 0 < lib.refcount := hl.pos_iff.2 (Nat.pos_of_ne_zero (hheld hh))
        simp [overwrites, hpos]

omit [DecidableEq G] in
theorem Loaded.append {g : G} (h : Loaded l) (ho : op.Outcome l.mem ret w)
    (hr : op.Reported l.mem ret w) (hclose : w.events.any failsToClose = false)
    (hlen : l.records.length + 1 < 2 ^ 63) : Loaded (l.append (g, op) ret w) := by
  obtain ⟨n, hl, hn, hheld⟩ := h.counts
  obtain ⟨n', hw, hstep⟩ := ho.step hl (Nat.lt_of_le_of_lt (Nat.succ_le_succ hn) hlen)
  constructor
  case counts =>
    refine ⟨n', hw, ?_, ?_⟩
    · rw [Log.append_records, List.length_append]
      exact hstep.le_succ.trans (Nat.succ_le_succ hn)
    · exact fun hh hzero => hh (hr.uncounted hclose hl hheld hw hzero)
  case accounted =>
    have hbalanced : Balanced ⟨.lifecycle op, .inl ret, l.mem, w⟩ :=
      PackageOp.Reported.balanced (.lifecycle hr)
    have hstep : references w.events = known w.mem - known l.mem := by
      rw [Balanced, LifecycleOp.not_overwrites hl hheld] at hbalanced
      simpa using hbalanced
    rw [Log.append_events, references_append, h.accounted, hstep, Log.append_mem]
    omega

omit [DecidableEq G] in
theorem loaded_of_accepts {o : Oracle Answer} {opts : List LibraryOption}
    {ops : List (G × LifecycleOp)} (hlen : ops.length < 2 ^ 63)
    (hrep : dlerrorReports.Accepts (clientsRun o opts ops).events)
    (hclose : (clientsRun o opts ops).events.any failsToClose = false) :
    Loaded (clientsRun o opts ops) := by
  obtain ⟨b, hb⟩ := Option.isSome_iff_exists.1 hrep
  refine (LifecycleOp.specifies.comap Prod.snd).protocol_induction_lt dlerrorReports
    (I := fun l _ => l.events.any failsToClose = false → Loaded l) ?_ ?_ hlen hb hclose
  · intro _
    exact ⟨⟨0, .newLibrary opts, Nat.le_refl 0, fun h => absurd rfl h⟩, rfl⟩
  · intro l b op ret w b' hlt ih ho hb hclose
    rw [Log.append_events, List.any_append, Bool.or_eq_false_iff] at hclose
    exact (ih hclose.1).append ho (ho.reported hb) hclose.2 hlt

end Loaded

/-! ## What a goroutine relies on -/

/-- The configuration after a schedule of goroutines on a library value of their own. -/
def goroutinesRun (o : Oracle Answer) (opts : List LibraryOption) (ts : List (Turn G LifecycleOp)) :
    Concurrent G Library Answer LifecycleOp Return :=
  Concurrent.schedule LifecycleOp.code o (Library.newLibrary opts) ts

theorem goroutinesRun_eq (o : Oracle Answer) (opts : List LibraryOption)
    (ts : List (Turn G LifecycleOp)) : goroutinesRun o opts ts =
      (Guarded.schedule LifecycleOp.prog o (Library.newLibrary opts) ts).code LifecycleOp.prog :=
  Guarded.code_schedule LifecycleOp.code_eq o _ ts

theorem stuck_of_closing {rs : List (Record Library Answer LifecycleOp Return)}
    (hclose : (rs.flatMap (·.after.events)).any failsToClose = false) : stuck rs = false := by
  induction rs using List.reverseRecOn with
  | nil => rfl
  | append_singleton rs r ih =>
      rw [List.flatMap_append, List.any_append, Bool.or_eq_false_iff] at hclose
      have hstranded : stranded r = false := by
        have hlast : r.after.events.any failsToClose = false := by simpa using hclose.2
        rw [stranded, hlast, Bool.and_false]
      rw [stuck_concat, ih hclose.1, hstranded]
      exact Bool.and_false _

section Sharing

variable {o : Oracle Answer} {opts : List LibraryOption} {ops : List (G × LifecycleOp)}

omit [DecidableEq G] in
/-- With a loader that closes, a library that is counted has a session. -/
theorem initialised_of_counted (hrep : dlerrorReports.Accepts (clientsRun o opts ops).events)
    (hdoc : fabricManager.Accepts (clientsRun o opts ops).events)
    (hclose : (clientsRun o opts ops).events.any failsToClose = false)
    (hcount : (clientsRun o opts ops).mem.refcount ≠ 0) :
    initialised (clientsRun o opts ops).events = true := by
  have hrun : lifecycleRun o opts (ops.map Prod.snd) = (clientsRun o opts ops).relabel Prod.snd :=
    exec_relabel Prod.snd LifecycleOp.prog o (Library.newLibrary opts) ops
  have hevents : (lifecycleRun o opts (ops.map Prod.snd)).events = (clientsRun o opts ops).events := by
    rw [hrun, Log.relabel_events]
  rw [← hevents] at hrep hdoc hclose ⊢
  obtain ⟨up, h⟩ := follows_of_accepts hrep hdoc
  have hcount' : (lifecycleRun o opts (ops.map Prod.snd)).mem.refcount ≠ 0 := by
    rw [hrun]
    exact hcount
  rcases h.counted.1 hcount' with rfl | hstuck
  · exact decide_eq_true h.state
  · rw [stuck_of_closing hclose] at hstuck
    cases hstuck

/-- While `g` has an `Init` to give back, the other clients only count. -/
theorem only_counts {l : Log Library Answer (G × LifecycleOp) Return} (h : Shared l)
    (hd : Counted.Disciplined (requests l.records)) {g a : G} (hne : g ≠ a)
    (hg : 0 < Counted.balance g (requests l.records)) {op : LifecycleOp}
    (ha : op = .Shutdown → 0 < Counted.balance a (requests l.records)) {ret : Return}
    {w : World Library Answer} (ho : op.Outcome l.mem ret w) : w.events = [] := by
  obtain ⟨n, hl, htotal, _⟩ := h.counts
  by_contra hevents
  have hle := ho.le_of_events hl hevents
  cases op with
  | Init =>
      have hbalance := Counted.balance_le_total hd g
      rw [htotal, hle] at hbalance
      exact absurd hg (Int.not_lt.2 hbalance)
  | Shutdown =>
      have hboth := Counted.balance_add_le_total hd hne
      have hmine := ha rfl
      rw [htotal, hle] at hboth
      omega

/-- While an idle goroutine has an `Init` to give back, no call is under way. -/
theorem events_of_held {c : Guarded G Library Answer LifecycleOp Return}
    (hfollows : Guarded.Follows LifecycleOp.prog o c (clientsRun o opts ops))
    (howns : Owns c (clientsRun o opts ops)) (hshared : Shared (clientsRun o opts ops)) {g : G}
    (hidle : c.phase g = .idle) (hheld : 0 < held g c.history) :
    c.world.events = (clientsRun o opts ops).events := by
  rcases hfollows.events with heq | ⟨a, op, rest, ha, es, heq, hes⟩
  · exact heq
  · have hne : g ≠ a := by
      rintro rfl
      cases hidle.symm.trans ha
    have hg : 0 < Counted.balance g (requests (clientsRun o opts ops).records) := by
      rw [← held_of_idle hfollows hidle]
      exact hheld
    have hrun := Prog.run_of_wp (LifecycleOp.specifies op (clientsRun o opts ops).mem)
      (o.drop (clientsRun o opts ops).events.length)
    have hnone := only_counts hshared howns.disciplined hne hg
      (fun hop => howns.pending a (by rw [ha, hop]; rfl)) hrun
    rw [hnone, List.prefix_nil] at hes
    rw [heq, hes, List.append_nil]

end Sharing

/-- A goroutine that has an `Init` to give back has the library loaded once and
    initialised, at every moment of what the other goroutines do, as long as each of
    them calls `Shutdown` only for an `Init` of its own. -/
theorem goroutines_keep_sessions (o : Oracle Answer) (opts : List LibraryOption)
    (ts : List (Turn G LifecycleOp)) (hlen : ts.length < 2 ^ 63)
    (hshares : Shares (goroutinesRun o opts ts).history)
    (hrep : dlerrorReports.Accepts (goroutinesRun o opts ts).world.events)
    (hdoc : fabricManager.Accepts (goroutinesRun o opts ts).world.events)
    (hclose : (goroutinesRun o opts ts).world.events.any failsToClose = false) (g : G)
    (hidle : (goroutinesRun o opts ts).running g = none)
    (hheld : 0 < held g (goroutinesRun o opts ts).history) :
    initialised (goroutinesRun o opts ts).world.events = true ∧
      references (goroutinesRun o opts ts).world.events = 1 := by
  rw [goroutinesRun_eq] at hshares hrep hdoc hclose hidle hheld ⊢
  obtain ⟨ops, hops, hfollows, howns⟩ : ∃ ops, ops.length ≤ ts.length ∧
      Guarded.Follows LifecycleOp.prog o
        (Guarded.schedule LifecycleOp.prog o (Library.newLibrary opts) ts) (clientsRun o opts ops) ∧
      (Shares (Guarded.schedule LifecycleOp.prog o (Library.newLibrary opts) ts).history →
        Owns (Guarded.schedule LifecycleOp.prog o (Library.newLibrary opts) ts)
          (clientsRun o opts ops)) := by
    refine Guarded.schedule_induction (I := fun c l => Shares c.history → Owns c l) ?_ ?_ ts
    · intro _
      exact ⟨trivial, fun _ hpending => nomatch hpending⟩
    · intro c l c' l' hfollows ih hturned hshares
      obtain ⟨ms, heq⟩ := hturned.history
      rw [← heq] at hshares
      exact (ih hshares.of_append).turn hfollows hturned (heq ▸ hshares)
  generalize Guarded.schedule LifecycleOp.prog o (Library.newLibrary opts) ts = c at *
  have hidle : c.phase g = .idle := Phase.code_eq_none.1 hidle
  simp only [Guarded.code_history, Guarded.code_world] at hshares hrep hdoc hclose hheld ⊢
  have howns := howns hshares
  have hlen' : ops.length < 2 ^ 63 := Nat.lt_of_le_of_lt hops hlen
  -- The calls of the log are the first of those made, so they keep to the promises too.
  obtain ⟨es, hfirst⟩ := hfollows.events_prefix
  rw [← hfirst] at hrep
  have hshared := shared_of_disciplined hlen' howns.disciplined hrep.of_append
  rw [events_of_held hfollows howns hshared hidle hheld] at hdoc hclose ⊢
  obtain ⟨n, hl, htotal, _⟩ := hshared.counts
  have hpos : 0 < n := by
    rw [held_of_idle hfollows hidle] at hheld
    have hle := Counted.balance_le_total howns.disciplined g
    omega
  refine ⟨?_, ?_⟩
  · refine initialised_of_counted hrep.of_append hdoc hclose ?_
    exact hl.eq_zero_iff.not.2 (Nat.ne_of_gt hpos)
  · have hhandle := hshared.held (hl.pos_iff.2 hpos)
    rw [(loaded_of_accepts hlen' hrep.of_append hclose).accounted, known, if_neg hhandle]

/-- One goroutine holds the library while another is in the middle of its `Shutdown`. -/
def sharedSchedule : List (Turn Bool LifecycleOp) :=
  .call false .Init :: List.replicate 16 (.go false) ++
    .call true .Init :: List.replicate 5 (.go true) ++ [.call true .Shutdown, .go true, .go true]

theorem goroutines_keep_sessions_shared :
    let c := goroutinesRun (fun _ c => c.succeed) [] sharedSchedule
    initialised c.world.events = true ∧ references c.world.events = 1 := by
  have hshares : Shares (goroutinesRun (fun _ c => c.succeed) [] sharedSchedule).history := by
    refine (((((Log.eachAfter_nil.concat ?_).concat ?_).concat ?_).concat ?_).concat ?_ :
      Log.EachAfter _ ([] ++ [_] ++ [_] ++ [_] ++ [_] ++ [_]))
    all_goals intro g hg; cases hg
    decide
  exact goroutines_keep_sessions _ _ _ (by decide) hshares (by decide) (by decide) (by decide) false
    rfl (by decide)

end Nvfm
