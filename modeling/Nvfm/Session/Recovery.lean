-- SUMMARY: Retrying after failed calls: when the loader and the C library work again, what a library can recover from.
import Nvfm.Session.FabricManager

/-!
# Recovery

After a history of failures the loader and the C library work again. A library
recovers when as many `Shutdown` calls as its counter says bring it down and the
next `Init` brings it up.
-/

namespace Nvfm

open Go Interaction DynamicLibrary Return

/-- The loader and the C library without failures, from an initialised or an
    uninitialised C library. -/
def working (up : Bool) : Protocol Library Answer Bool where
  start := up
  step up e :=
    match e with
    | ⟨_, .dlopen _ _, none⟩ => none
    | ⟨_, .dlclose _, status⟩ => if status = 0 then some up else none
    | ⟨_, .fmLibInit, ret⟩ =>
        if ret = (if up then IN_USE else SUCCESS) then some true else none
    | e => fabricManager.step up e

/-- The log of `refcount` calls of `Shutdown`. -/
def shutdowns (o : Oracle Answer) (l : Library) : Log Library Answer LifecycleOp Return :=
  exec LifecycleOp.prog o l (List.replicate l.refcount.toInt.toNat .Shutdown)

/-- With a loader and a C library that work from now on, `refcount` calls of
    `Shutdown` succeed and end the session, and the next `Init` begins a new one. -/
def Recovers (l : Library) (up : Bool) : Prop :=
  ∀ o, (working up).Accepts (shutdowns o l).events →
    (∀ r ∈ (shutdowns o l).records, r.result = SUCCESS) ∧
    (shutdowns o l).mem.refcount = 0 ∧
    (working up).after up (shutdowns o l).events = some false ∧
    ((working up).Accepts ((shutdowns o l).perform LifecycleOp.prog o .Init).events →
      (∀ r ∈ ((shutdowns o l).perform LifecycleOp.prog o .Init).records, r.result = SUCCESS) ∧
      ((shutdowns o l).perform LifecycleOp.prog o .Init).mem.refcount = 1 ∧
      (working up).after up ((shutdowns o l).perform LifecycleOp.prog o .Init).events = some true)

/-! ## One call of a working library -/

section Working

variable {l : Library} {ret : Return} {w : World Library Answer} {x y up : Bool} {n : ℕ}

/-- A `Shutdown` of a held library succeeds, and the last one ends the session. -/
theorem Library.Shutdown.Outcome.working (ho : Library.Shutdown.Outcome l ret w)
    (hn : Counts l (n + 1)) (hheld : Held l) (hx : (working up).after true w.events = some y) :
    ret = SUCCESS ∧ Counts w.mem n ∧ Held w.mem ∧ y = decide (0 < n) := by
  have hpos : 0 < l.refcount := hn.pos_iff.2 (Nat.succ_pos n)
  cases ho with
  | uninitialized hzero => exact absurd hzero (Refcount.ne_zero_of_pos hpos)
  | counted hone =>
      cases hx
      have hn' : 0 < n := Nat.lt_of_succ_lt_succ (hn.one_lt_iff.1 hone)
      exact ⟨rfl, hn.sub_one, fun _ => hheld hpos, (decide_eq_true hn').symm⟩
  | shutdownFailed _ _ hret => simp [Nvfm.working, fabricManager, hret] at hx
  | closeFailed _ _ hc herr =>
      cases hc with
      | alreadyClosed _ => exact absurd rfl herr
      | closed _ => exact absurd rfl herr
      | failed _ hst m => simp [Nvfm.working, fabricManager, closeFailedEvents, hst] at hx
      | unreported _ _ => exact absurd rfl herr
  | closed _ hone hc =>
      obtain rfl : n = 0 := Nat.eq_zero_of_not_pos fun h =>
        hone (hn.one_lt_iff.2 (Nat.succ_lt_succ h))
      refine ⟨rfl, rfl, fun h => absurd h Int64.lt_irrefl, ?_⟩
      cases hc with
      | alreadyClosed hnil => exact absurd hnil (hheld hpos)
      | closed _ => simpa [Nvfm.working, fabricManager, closedEvents, eq_comm] using hx
      | unreported _ hst => simp [Nvfm.working, fabricManager, closeFailedEvents, hst] at hx

/-- The first `Init` begins a session. -/
theorem Library.Init.Outcome.working (ho : Library.Init.Outcome l ret w) (hn : Counts l 0)
    (hx : (working up).after false w.events = some y) :
    ret = SUCCESS ∧ w.mem.refcount = 1 ∧ y = true := by
  have hpos : ¬ 0 < l.refcount := hn.pos_iff.not.2 (Nat.lt_irrefl 0)
  cases ho with
  | counted h => exact absurd h hpos
  | openFailed _ ho herr =>
      cases ho with
      | opened _ => exact absurd rfl herr
      | failed m => simp [Nvfm.working, fabricManager, openFailedEvents] at hx
      | unreported => exact absurd rfl herr
  | initFailed _ ho hret hc =>
      cases ho with
      | opened h => simp [Nvfm.working, fabricManager, openedEvents, hret] at hx
      | unreported => simp [Nvfm.working, fabricManager, openFailedEvents] at hx
  | initialised _ ho =>
      refine ⟨rfl, rfl, ?_⟩
      cases ho with
      | opened h => simpa [Nvfm.working, fabricManager, openedEvents, eq_comm] using hx
      | unreported => simp [Nvfm.working, fabricManager, openFailedEvents] at hx

end Working

/-! ## Recovery -/

section Recovery

variable {o : Oracle Answer} {l : Library} {up y : Bool} {n : ℕ}

/-- As many `Shutdown` calls as the counter says all succeed. -/
theorem extend_shutdowns {L : Log Library Answer LifecycleOp Return} (hn : Counts L.mem n)
    (hheld : Held L.mem) (hres : ∀ r ∈ L.records, r.result = SUCCESS)
    (hx : (working up).after up L.events = some (decide (0 < n)))
    (hy : (working up).after up
      (L.extend LifecycleOp.prog o (List.replicate n .Shutdown)).events = some y) :
    (∀ r ∈ (L.extend LifecycleOp.prog o (List.replicate n .Shutdown)).records,
      r.result = SUCCESS) ∧
    Counts (L.extend LifecycleOp.prog o (List.replicate n .Shutdown)).mem 0 ∧ y = false := by
  induction n generalizing L with
  | zero =>
      rw [List.replicate_zero, Log.extend_nil] at hy ⊢
      rw [hx] at hy
      exact ⟨hres, hn, (Option.some.inj hy).symm⟩
  | succ n ih =>
      rw [List.replicate_succ, Log.extend_cons] at hy ⊢
      obtain ⟨ret, w, ho, heq⟩ := LifecycleOp.specifies.perform o L .Shutdown
      rw [heq] at hy ⊢
      -- The calls of the first `Shutdown` keep to the protocol too.
      obtain ⟨es, hes⟩ :=
        (L.append .Shutdown ret w).extend_events LifecycleOp.prog o (List.replicate n .Shutdown)
      have hrest := hy
      rw [hes] at hrest
      obtain ⟨x, hfirst, _⟩ := Protocol.after_of_append hrest
      have hlast := hfirst
      rw [Log.append_events, Protocol.after_append_of_eq hx] at hlast
      obtain ⟨rfl, hn', hheld', rfl⟩ := Library.Shutdown.Outcome.working ho hn hheld hlast
      exact ih hn' hheld' (Log.forall_mem_append hres rfl) hfirst hy

theorem recovers_of_counts (hn : Counts l n) (hheld : Held l) : Recovers l (decide (0 < n)) := by
  intro o hacc
  obtain ⟨y, hy⟩ := Option.isSome_iff_exists.1 hacc
  have hdown := hy
  rw [shutdowns, hn.toNat_eq, exec] at hdown
  obtain ⟨hres, hzero, rfl⟩ := extend_shutdowns (L := Log.start l) hn hheld nofun rfl hdown
  rw [← exec, ← hn.toNat_eq, ← shutdowns] at hres hzero
  refine ⟨hres, Refcount.toInt_eq_zero.2 hzero, hy, ?_⟩
  intro hacc'
  obtain ⟨ret, w, ho, heq⟩ := LifecycleOp.specifies.perform o (shutdowns o l) .Init
  rw [heq] at hacc' ⊢
  obtain ⟨z, hz⟩ := Option.isSome_iff_exists.1 hacc'
  have hlast := hz
  rw [Log.append_events, Protocol.after_append_of_eq hy] at hlast
  obtain ⟨rfl, hone, rfl⟩ := Library.Init.Outcome.working ho hzero hlast
  exact ⟨Log.forall_mem_append hres rfl, hone, hz⟩

/-- The answers of a working world with an uninitialised C library. -/
def idle : (c : Call) → Answer c
  | .fmLibShutdown => UNINITIALIZED
  | c => c.succeed

theorem Library.Shutdown_run_of_one_lt (hone : 1 < l.refcount) (o : Oracle Answer) :
    Library.Shutdown.run o ⟨l, []⟩ = (SUCCESS, ⟨l.setRefcount (l.refcount - 1), []⟩) := by
  have hzero : l.refcount ≠ 0 := Refcount.ne_zero_of_pos (Refcount.pos_of_one_lt hone)
  simp [Library.Shutdown, hone, hzero, Prog.run, World.update]

theorem Library.Shutdown_run_idle (hn : Counts l 1) :
    Library.Shutdown.run (fun _ => idle) ⟨l, []⟩ =
      (UNINITIALIZED, ⟨l, [⟨l, .fmLibShutdown, UNINITIALIZED⟩]⟩) := by
  have hzero : l.refcount ≠ 0 := hn.eq_zero_iff.not.2 Nat.one_ne_zero
  have hone : ¬ 1 < l.refcount := hn.one_lt_iff.not.2 (Nat.lt_irrefl 1)
  simp [Library.Shutdown, hone, hzero, Prog.run, World.record, idle, UNINITIALIZED_ne_SUCCESS]

/-- Without a session the last of these `Shutdown` calls is refused. -/
theorem extend_shutdowns_idle {L : Log Library Answer LifecycleOp Return}
    (hn : Counts L.mem (n + 1)) :
    ∃ r m, r ∈ (L.extend LifecycleOp.prog (fun _ => idle)
        (List.replicate (n + 1) .Shutdown)).records ∧ r.result = UNINITIALIZED ∧
      (L.extend LifecycleOp.prog (fun _ => idle) (List.replicate (n + 1) .Shutdown)).events =
        L.events ++ [⟨m, .fmLibShutdown, UNINITIALIZED⟩] := by
  induction n generalizing L with
  | zero =>
      have hrun : L.perform LifecycleOp.prog (fun _ => idle) .Shutdown =
          L.append .Shutdown UNINITIALIZED ⟨L.mem, [⟨L.mem, .fmLibShutdown, UNINITIALIZED⟩]⟩ :=
        Log.perform_of_run (Library.Shutdown_run_idle hn)
      rw [List.replicate_one, Log.extend_cons, Log.extend_nil, hrun]
      exact ⟨_, L.mem, List.mem_concat_self, rfl, Log.append_events ..⟩
  | succ n ih =>
      have hone : 1 < L.mem.refcount := hn.one_lt_iff.2 (Nat.succ_lt_succ (Nat.succ_pos n))
      have hrun : L.perform LifecycleOp.prog (fun _ => idle) .Shutdown =
          L.append .Shutdown SUCCESS ⟨L.mem.setRefcount (L.mem.refcount - 1), []⟩ :=
        Log.perform_of_run (Library.Shutdown_run_of_one_lt hone _)
      rw [List.replicate_succ, Log.extend_cons, hrun]
      obtain ⟨r, m, hr, hret, hevents⟩ := ih
        (L := L.append .Shutdown SUCCESS ⟨L.mem.setRefcount (L.mem.refcount - 1), []⟩) hn.sub_one
      refine ⟨r, m, hr, hret, ?_⟩
      rw [hevents, Log.append_events, List.append_nil]

theorem not_recovers_of_idle (hn : Counts l (n + 1)) : ¬ Recovers l false := by
  intro h
  obtain ⟨r, m, hr, hret, hevents⟩ := extend_shutdowns_idle (L := Log.start l) hn
  rw [← exec, ← hn.toNat_eq, ← shutdowns] at hr hevents
  have hacc : (working false).Accepts (shutdowns (fun _ => idle) l).events := by
    rw [hevents]
    rfl
  have hsuccess := (h _ hacc).1 r hr
  exact UNINITIALIZED_ne_SUCCESS (hret.symm.trans hsuccess)

/-- A counter that has wrapped around is not brought down. -/
theorem nonneg_of_recovers (h : Recovers l up) : 0 ≤ l.refcount := by
  by_contra hneg
  have htoNat : l.refcount.toInt.toNat = 0 :=
    Int.toNat_of_nonpos (Int.le_of_lt (Int.not_le.1 (Refcount.toInt_nonneg.not.1 hneg)))
  have hstart : shutdowns (fun _ => idle) l = Log.start l := by
    rw [shutdowns, htoNat]
    rfl
  have hdown := h (fun _ => idle) (by rw [hstart]; rfl)
  rw [hstart] at hdown
  exact hneg (hdown.2.1 ▸ Int64.le_refl _)

end Recovery

/-! ## Histories -/

section Histories

variable {o : Oracle Answer} {opts : List LibraryOption} {ops : List LifecycleOp}

/-- After a history of failures the library recovers exactly when its counter has not
    wrapped around and no `Shutdown` was stranded since the session last began. -/
theorem recovers_iff_not_stuck (hrep : dlerrorReports.Accepts (lifecycleRun o opts ops).events)
    (hdoc : fabricManager.Accepts (lifecycleRun o opts ops).events) :
    Recovers (lifecycleRun o opts ops).mem (initialised (lifecycleRun o opts ops).events) ↔
      0 ≤ (lifecycleRun o opts ops).mem.refcount ∧ stuck (lifecycleRun o opts ops).records = false := by
  obtain ⟨up, h⟩ := follows_of_accepts hrep hdoc
  have hup : initialised (lifecycleRun o opts ops).events = up := by
    rw [initialised, h.state]
    simp
  rw [hup]
  constructor
  · intro hrec
    refine ⟨nonneg_of_recovers hrec, ?_⟩
    by_contra hstuck
    have hdown : up = false := by
      by_contra hlive
      exact hstuck (h.fresh (Bool.eq_true_of_not_eq_false hlive))
    have hnonzero : (lifecycleRun o opts ops).mem.refcount ≠ 0 :=
      h.counted.2 (.inr (Bool.eq_true_of_not_eq_false hstuck))
    obtain ⟨n, hn⟩ := Int.eq_ofNat_of_zero_le (Refcount.toInt_nonneg.1 (nonneg_of_recovers hrec))
    cases n with
    | zero => exact hnonzero (Refcount.toInt_eq_zero.2 hn)
    | succ n => exact not_recovers_of_idle hn (hdown ▸ hrec)
  · rintro ⟨hnonneg, hfree⟩
    obtain ⟨n, hn⟩ := Int.eq_ofNat_of_zero_le (Refcount.toInt_nonneg.1 hnonneg)
    have hcounts : Counts (lifecycleRun o opts ops).mem n := hn
    have hlive : up = decide (0 < n) := by
      have hcounted := h.counted
      rw [hfree, Ne, hcounts.eq_zero_iff, ← Ne, ← Nat.pos_iff_ne_zero] at hcounted
      rw [Bool.eq_iff_iff, decide_eq_true_iff, hcounted]
      exact (or_iff_left Bool.false_ne_true).symm
    rw [hlive]
    exact recovers_of_counts hcounts h.held

end Histories

/-- The answers of a world without the library file. -/
def absent : (c : Call) → Answer c
  | .dlopen _ _ => none
  | .dlerror => some (ascii "no such file")
  | c => c.succeed

theorem recovers_after_absent :
    let l := lifecycleRun (fun n c => if n < 4 then absent c else c.succeed) []
      [.Init, .Init, .Init, .Shutdown]
    Recovers l.mem (initialised l.events) :=
  (recovers_iff_not_stuck (by decide) (by decide)).2 (by decide)

/-- A `Shutdown` whose `dlclose` fails once leaves a library that no number of retries
    brings down. -/
theorem stranded_never_recovers :
    let l := lifecycleRun (fun _ => busy) [] [.Init, .Shutdown]
    dlerrorReports.Accepts l.events ∧ fabricManager.Accepts l.events ∧
      l.mem.refcount = 1 ∧ initialised l.events = false ∧
      ¬ Recovers l.mem (initialised l.events) := by
  refine ⟨by decide, by decide, by decide, by decide, ?_⟩
  exact not_recovers_of_idle (n := 0) rfl

end Nvfm
