-- SUMMARY: The documented session of libnvfm.so, and how far the counter of a library follows it.
import Nvfm.Session.Clients

/-!
# The Fabric Manager Session

`nv_fm_agent.h` documents when `fmLibInit` and `fmLibShutdown` succeed. With a C
library that keeps to it, the counter of a library is zero exactly when there is
no session, until a `Shutdown` ends the session and then cannot close the
library.
-/

namespace Nvfm

open Go Interaction DynamicLibrary Return

section Protocol

variable {σ M : Type} {m : σ} {ret : Return} {up up' : Bool}

/-- The C library as its header documents it. The state says whether it is
    initialised; an `fmLibInit` of an uninitialised library may fail. -/
def fabricManager : Protocol σ (Call.Answer M) Bool where
  start := false
  step up e :=
    match e with
    | ⟨_, .fmLibInit, ret⟩ =>
        if up then if ret = IN_USE then some true else none else some (ret = SUCCESS)
    | ⟨_, .fmLibShutdown, ret⟩ =>
        if ret = (if up then SUCCESS else UNINITIALIZED) then some false else none
    | _ => some up

/-- Only calls of the C library move its state. -/
theorem fabricManager_fmEvents (es : List (Event σ (Call.Answer M))) :
    fabricManager.after up es = fabricManager.after up (fmEvents es) := by
  induction es generalizing up with
  | nil => rfl
  | cons e es ih =>
      cases hfm : e.call.isFm with
      | true =>
          rw [fmEvents_cons_of_fm hfm, Protocol.after_cons, Protocol.after_cons]
          exact congrArg _ (funext fun _ => ih)
      | false =>
          have hstep : fabricManager.step up e = some up := by
            obtain ⟨m, call, answer⟩ := e
            cases call <;> first | rfl | cases hfm
          rw [fmEvents_cons_of_not_fm hfm, Protocol.after_cons, hstep]
          exact ih

theorem fabricManager_fmLibInit :
    (fabricManager (M := M)).after up [⟨m, .fmLibInit, ret⟩] = some up' ↔
      if up then ret = IN_USE ∧ up' = true else up' = decide (ret = SUCCESS) := by
  cases up with
  | true => by_cases hret : ret = IN_USE <;> simp [fabricManager, hret, eq_comm]
  | false => simp [fabricManager, eq_comm]

theorem fabricManager_fmLibShutdown :
    (fabricManager (M := M)).after up [⟨m, .fmLibShutdown, ret⟩] = some up' ↔
      ret = (if up then SUCCESS else UNINITIALIZED) ∧ up' = false := by
  by_cases hret : ret = (if up then SUCCESS else UNINITIALIZED) <;>
    simp [fabricManager, hret, eq_comm]

end Protocol

/-- The C library is initialised after the calls `es`. -/
def initialised (es : List (Event Library Answer)) : Bool :=
  fabricManager.after false es = some true

/-! ## Sessions lost in `Shutdown` -/

/-- The call begins a session. -/
def beginsSession (e : Event Library Answer) : Bool :=
  match e with
  | ⟨_, .fmLibInit, ret⟩ => ret = SUCCESS
  | _ => false

/-- The call is a `dlclose` that fails. -/
def failsToClose (e : Event Library Answer) : Bool :=
  match e with
  | ⟨_, .dlclose _, status⟩ => status ≠ 0
  | _ => false

/-- A `Shutdown` that ended the session and then could not close the library. -/
def stranded (r : Record Library Answer LifecycleOp Return) : Bool :=
  r.op = .Shutdown && r.after.events.any failsToClose

/-- A `Shutdown` was stranded since a session was last begun. -/
def stuck (rs : List (Record Library Answer LifecycleOp Return)) : Bool :=
  rs.foldl (fun s r => !r.after.events.any beginsSession && (s || stranded r)) false

@[simp] theorem stuck_nil : stuck [] = false := rfl

@[simp] theorem stuck_concat (rs : List (Record Library Answer LifecycleOp Return))
    (r : Record Library Answer LifecycleOp Return) :
    stuck (rs ++ [r]) = (!r.after.events.any beginsSession && (stuck rs || stranded r)) := by
  simp [stuck]

/-- What one call does to the session: it keeps the session as it is, begins one,
    ends one, or ends one and keeps the counter. -/
inductive Moves (r : Record Library Answer LifecycleOp Return) : Bool → Bool → Prop where
  | kept {up : Bool} (hcount : r.after.mem.refcount ≠ 0 ↔ r.before.refcount ≠ 0)
      (hbegins : r.after.events.any beginsSession = false) (hstranded : stranded r = false) :
      Moves r up up
  | begun (hcount : r.after.mem.refcount = 1) (hbegins : r.after.events.any beginsSession = true) :
      Moves r false true
  | ended (hcount : r.after.mem.refcount = 0) (hbegins : r.after.events.any beginsSession = false)
      (hstranded : stranded r = false) : Moves r true false
  | lost (hcount : r.after.mem.refcount ≠ 0) (hbegins : r.after.events.any beginsSession = false)
      (hstranded : stranded r = true) : Moves r true false

section Moves

variable {l : Library} {ret : Return} {w : World Library Answer} {up up' : Bool}

/-- A C library that refuses `fmLibInit` stays as it is. -/
private theorem eq_of_fmLibInit_failed {m : Library} (hret : ret ≠ SUCCESS)
    (hup : (fabricManager (M := GoString)).after up [⟨m, .fmLibInit, ret⟩] = some up') :
    up' = up := by
  rw [fabricManager_fmLibInit] at hup
  cases up with
  | true => exact hup.2
  | false => simpa [hret] using hup

theorem Library.Init.Reported.moves (hr : Library.Init.Reported l ret w)
    (hup : fabricManager.after up w.events = some up') : Moves ⟨.Init, ret, l, w⟩ up up' := by
  rw [fabricManager_fmEvents] at hup
  cases hr with
  | counted hpos =>
      cases hup
      refine .kept ?_ rfl rfl
      have hsucc : l.refcount + 1 ≠ 0 := Refcount.add_one_ne_zero hpos
      exact iff_of_true hsucc (Refcount.ne_zero_of_pos hpos)
  | openFailed hpos m =>
      cases hup
      exact .kept Iff.rfl rfl rfl
  | initFailed hpos h hret =>
      obtain rfl := eq_of_fmLibInit_failed hret hup
      exact .kept Iff.rfl (by simp [openedEvents, closedEvents, beginsSession, hret]) rfl
  | closeFailed hpos h hret hst m =>
      obtain rfl := eq_of_fmLibInit_failed hret hup
      exact .kept Iff.rfl (by simp [openedEvents, closeFailedEvents, beginsSession, hret]) rfl
  | initialised hpos h =>
      have hinit := fabricManager_fmLibInit.1 hup
      cases up with
      | true => exact absurd hinit.1 (by decide)
      | false =>
          obtain rfl : up' = true := hinit
          exact .begun rfl (by simp [openedEvents, beginsSession])

theorem Library.Shutdown.Reported.moves (hr : Library.Shutdown.Reported l ret w)
    (hup : fabricManager.after up w.events = some up') : Moves ⟨.Shutdown, ret, l, w⟩ up up' := by
  rw [fabricManager_fmEvents] at hup
  cases hr with
  | uninitialized hzero =>
      cases hup
      exact .kept Iff.rfl rfl rfl
  | counted hone =>
      cases hup
      refine .kept ?_ rfl rfl
      exact iff_of_true (Refcount.sub_one_ne_zero hone) (Refcount.ne_zero_of_pos (Refcount.pos_of_one_lt hone))
  | shutdownFailed hzero hone hret =>
      obtain ⟨hret', rfl⟩ := fabricManager_fmLibShutdown.1 hup
      cases up with
      | true => exact absurd hret' hret
      | false => exact .kept Iff.rfl rfl rfl
  | closeFailed hzero hone hh hst m =>
      obtain ⟨hret, rfl⟩ := fabricManager_fmLibShutdown.1 hup
      cases up with
      | false => exact absurd hret (by decide)
      | true =>
          exact .lost hzero rfl (by simp [stranded, closeFailedEvents, failsToClose, hst])
  | alreadyClosed hzero hone hnil =>
      obtain ⟨hret, rfl⟩ := fabricManager_fmLibShutdown.1 hup
      cases up with
      | false => exact absurd hret (by decide)
      | true => exact .ended rfl rfl rfl
  | closed hzero hone hh =>
      obtain ⟨hret, rfl⟩ := fabricManager_fmLibShutdown.1 hup
      cases up with
      | false => exact absurd hret (by decide)
      | true => exact .ended rfl rfl rfl

theorem LifecycleOp.Reported.moves {op : LifecycleOp} (hr : op.Reported l ret w)
    (hup : fabricManager.after up w.events = some up') : Moves ⟨op, ret, l, w⟩ up up' := by
  cases op with
  | Init => exact Library.Init.Reported.moves hr hup
  | Shutdown => exact Library.Shutdown.Reported.moves hr hup

end Moves

theorem Library.Init.Reported.refcount_ne_zero {l : Library} {w : World Library Answer}
    (hr : Library.Init.Reported l SUCCESS w) : w.mem.refcount ≠ 0 := by
  cases hr with
  | counted hpos => exact Refcount.add_one_ne_zero hpos
  | initFailed _ _ hret => exact absurd rfl hret
  | closeFailed _ _ hret _ _ => exact absurd rfl hret
  | initialised _ _ =>
      rw [Library.setRefcount_refcount]
      decide

theorem LifecycleOp.Reported.kept_of_stranded {l : Library} {ret : Return}
    {w : World Library Answer} {op : LifecycleOp} (hr : op.Reported l ret w)
    (hs : stranded ⟨op, ret, l, w⟩ = true) : ret = GENERIC_ERROR ∧ w.mem = l := by
  cases op with
  | Init => cases hs
  | Shutdown =>
      cases hr with
      | closeFailed _ _ _ _ _ => exact ⟨rfl, rfl⟩
      | uninitialized _ => cases hs
      | counted _ => cases hs
      | shutdownFailed _ _ _ => cases hs
      | alreadyClosed _ _ _ => cases hs
      | closed _ _ _ => cases hs

/-! ## Runs -/

/-- How the counter, the handle and the session agree after every call. -/
structure Tracks (l : Log Library Answer LifecycleOp Return) (up : Bool) : Prop where
  counted : l.mem.refcount ≠ 0 ↔ up = true ∨ stuck l.records = true
  fresh : up = true → stuck l.records = false
  held : Held l.mem

theorem Tracks.append {l : Log Library Answer LifecycleOp Return} {op : LifecycleOp} {ret : Return}
    {w : World Library Answer} {up up' : Bool} (h : Tracks l up) (hr : op.Reported l.mem ret w)
    (hup : fabricManager.after up w.events = some up') : Tracks (l.append op ret w) up' := by
  have hheld : Held (l.append op ret w).mem := hr.held h.held
  have hcounted := h.counted
  cases hr.moves hup with
  | kept hcount hbegins hstranded =>
      refine ⟨?_, ?_, hheld⟩
      · simp only [Log.append_mem, Log.append_records, stuck_concat]
        simpa [hbegins, hstranded] using hcount.trans hcounted
      · intro hup
        simpa [hbegins, hstranded] using h.fresh hup
  | begun hcount hbegins =>
      refine ⟨?_, ?_, hheld⟩
      · simp only [Log.append_mem] at hcount ⊢
        simp [hcount]
      · intro _
        simp [hbegins]
  | ended hcount hbegins hstranded =>
      have hfresh := h.fresh rfl
      refine ⟨?_, nofun, hheld⟩
      simp only [Log.append_mem] at hcount ⊢
      simp [hcount, hfresh, hstranded]
  | lost hcount hbegins hstranded =>
      refine ⟨?_, nofun, hheld⟩
      simp only [Log.append_mem] at hcount ⊢
      simp [hcount, hbegins, hstranded]

/-- What a run of calls says about the session. -/
structure Follows (l : Log Library Answer LifecycleOp Return) (up : Bool) : Prop
    extends Tracks l up where
  state : fabricManager.after false l.events = some up
  live : Log.EachAfter (fun past r => stuck past = false → r.op = .Init → r.result = SUCCESS →
    initialised (past.flatMap (·.after.events) ++ r.after.events) = true) l.records
  kept : ∀ r ∈ l.records, stranded r = true → r.result = GENERIC_ERROR ∧ r.after.mem = r.before

theorem Follows.append {l : Log Library Answer LifecycleOp Return} {op : LifecycleOp} {ret : Return}
    {w : World Library Answer} {up up' : Bool} (h : Follows l up) (hr : op.Reported l.mem ret w)
    (hup : fabricManager.after up w.events = some up') : Follows (l.append op ret w) up' := by
  have htracks : Tracks (l.append op ret w) up' := h.toTracks.append hr hup
  have hstate : fabricManager.after false (l.append op ret w).events = some up' := by
    rw [Log.append_events, Protocol.after_append_of_eq h.state]
    exact hup
  refine ⟨htracks, hstate, h.live.concat ?_, ?_⟩
  · rintro hfree rfl rfl
    have hnonzero : w.mem.refcount ≠ 0 := Library.Init.Reported.refcount_ne_zero hr
    have hfree' : stuck (l.append .Init SUCCESS w).records = false := by
      rw [Log.append_records, stuck_concat, hfree]
      exact Bool.and_false _
    have hlive : up' = true := by
      rcases htracks.counted.1 hnonzero with hlive | hstuck
      · exact hlive
      · exact absurd (hfree'.symm.trans hstuck) Bool.false_ne_true
    rw [Log.append_events, hlive] at hstate
    exact decide_eq_true hstate
  · exact Log.forall_mem_append h.kept fun hstranded => hr.kept_of_stranded hstranded

section Runs

variable {o : Oracle Answer} {opts : List LibraryOption} {ops : List LifecycleOp}

theorem follows_of_accepts (hrep : dlerrorReports.Accepts (lifecycleRun o opts ops).events)
    (hdoc : fabricManager.Accepts (lifecycleRun o opts ops).events) :
    ∃ up, Follows (lifecycleRun o opts ops) up := by
  obtain ⟨b, hb⟩ := Option.isSome_iff_exists.1 hrep
  obtain ⟨up, hup⟩ := Option.isSome_iff_exists.1 hdoc
  refine ⟨up, LifecycleOp.specifies.protocol_induction (dlerrorReports.prod fabricManager)
    (I := fun l x => Follows l x.2) ?_ ?_ (Protocol.after_prod_eq_some.2 ⟨hb, hup⟩)⟩
  · refine ⟨⟨?_, fun _ => rfl, fun h => absurd h Int64.lt_irrefl⟩, rfl, Log.eachAfter_nil, nofun⟩
    exact iff_of_false (fun h => h rfl) (by simp [Protocol.prod, fabricManager])
  · rintro l ⟨b, up⟩ op ret w ⟨b', up'⟩ hl ho hx
    obtain ⟨hb, hup⟩ := Protocol.after_prod_eq_some.1 hx
    exact hl.append (ho.reported hb) hup

/-- With a C library that keeps to its documentation, the counter is zero exactly
    when there is no session, unless a `Shutdown` was stranded; and a stranded
    `Shutdown` reports an error and keeps the counter and the handle. -/
theorem count_follows_session (hrep : dlerrorReports.Accepts (lifecycleRun o opts ops).events)
    (hdoc : fabricManager.Accepts (lifecycleRun o opts ops).events) :
    (stuck (lifecycleRun o opts ops).records = false →
      ((lifecycleRun o opts ops).mem.refcount ≠ 0 ↔
        initialised (lifecycleRun o opts ops).events = true) ∧
      (ops.length < 2 ^ 63 → (0 < (lifecycleRun o opts ops).mem.refcount ↔
        initialised (lifecycleRun o opts ops).events = true))) ∧
    Log.EachAfter (fun past r => stuck past = false → r.op = .Init → r.result = SUCCESS →
      initialised (past.flatMap (·.after.events) ++ r.after.events) = true)
      (lifecycleRun o opts ops).records ∧
    ∀ r ∈ (lifecycleRun o opts ops).records, stranded r = true →
      r.result = GENERIC_ERROR ∧ r.after.mem = r.before := by
  obtain ⟨up, h⟩ := follows_of_accepts hrep hdoc
  refine ⟨?_, h.live, h.kept⟩
  intro hfree
  have hcounted : (lifecycleRun o opts ops).mem.refcount ≠ 0 ↔
      initialised (lifecycleRun o opts ops).events = true := by
    rw [h.counted, initialised, h.state, hfree]
    simp
  refine ⟨hcounted, ?_⟩
  intro hlen
  obtain ⟨n, hn, _⟩ := (refines_of_length_lt o opts hlen).state
  rw [← hcounted, hn.pos_iff, Ne, hn.eq_zero_iff]
  exact Nat.pos_iff_ne_zero

end Runs

theorem count_follows_session_pair :
    let l := lifecycleRun (fun _ c => c.succeed) [] [.Init, .Init, .Shutdown, .Shutdown, .Init]
    (stuck l.records = false →
      (l.mem.refcount ≠ 0 ↔ initialised l.events = true) ∧
      (5 < 2 ^ 63 → (0 < l.mem.refcount ↔ initialised l.events = true))) ∧
    Log.EachAfter (fun past r => stuck past = false → r.op = .Init → r.result = SUCCESS →
      initialised (past.flatMap (·.after.events) ++ r.after.events) = true) l.records ∧
    ∀ r ∈ l.records, stranded r = true → r.result = GENERIC_ERROR ∧ r.after.mem = r.before :=
  count_follows_session (by decide) (by decide)

/-! ### Counters without a session -/

/-- The answers of a world in which only `dlclose` fails. -/
def busy : (c : Call) → Answer c
  | .dlclose _ => (1 : Int32)
  | .dlerror => some (ascii "busy")
  | c => c.succeed

theorem Library.Init_run_of_pos {l : Library} (hpos : 0 < l.refcount) (o : Oracle Answer) :
    Library.Init.run o ⟨l, []⟩ = (SUCCESS, ⟨l.setRefcount (l.refcount + 1), []⟩) := by
  simp [Library.Init, hpos, Prog.run, World.update]

/-- In a row of `Init` calls all but the first only count. -/
theorem inits_run {n : ℕ} (hpos : 1 ≤ n) (hn : n ≤ 2 ^ 63) :
    let l := lifecycleRun (fun _ c => c.succeed) [] (List.replicate n .Init)
    l.mem.refcount = Int64.ofNat n ∧
      l.events = (lifecycleRun (fun _ c => c.succeed) [] [.Init]).events := by
  induction n, hpos using Nat.le_induction with
  | base => exact ⟨rfl, rfl⟩
  | succ n hpos ih =>
      obtain ⟨hcount, hevents⟩ := ih (Nat.le_of_succ_le hn)
      have hcounts : 0 < (lifecycleRun (fun _ c => c.succeed) []
          (List.replicate n .Init)).mem.refcount := by
        rw [hcount, Refcount.toInt_pos, Int64.toInt_ofNat_of_lt hn]
        exact Int.natCast_pos.2 hpos
      rw [List.replicate_succ', lifecycleRun, exec_concat, ← lifecycleRun,
        Log.perform_of_run (Library.Init_run_of_pos hcounts _)]
      refine ⟨?_, ?_⟩
      · rw [Log.append_mem, Library.setRefcount_refcount, hcount]
        exact (Int64.ofNat_add n 1).symm
      · rw [Log.append_events, List.append_nil, hevents]

/-- A `Shutdown` whose `dlclose` fails, and an `Init` after it. -/
def strandedRun : Log Library Answer LifecycleOp Return :=
  lifecycleRun (fun _ => busy) [] [.Init, .Shutdown, .Init]

/-- Enough calls of `Init` to wrap the counter around. -/
def wrappedRun : Log Library Answer LifecycleOp Return :=
  lifecycleRun (fun _ c => c.succeed) [] (List.replicate (2 ^ 63) .Init)

/-- After a `dlclose` that fails in `Shutdown` the counter is positive without a
    session, and `Init` still returns `SUCCESS`; after `2 ^ 63` calls of `Init` it is
    not positive with one. -/
theorem count_without_session :
    (dlerrorReports.Accepts strandedRun.events ∧ fabricManager.Accepts strandedRun.events ∧
      strandedRun.records.map (·.result) = [SUCCESS, GENERIC_ERROR, SUCCESS] ∧
      0 < strandedRun.mem.refcount ∧ initialised strandedRun.events = false) ∧
    dlerrorReports.Accepts wrappedRun.events ∧ fabricManager.Accepts wrappedRun.events ∧
      ¬ 0 < wrappedRun.mem.refcount ∧ initialised wrappedRun.events = true := by
  refine ⟨by decide, ?_⟩
  have hrun := inits_run (n := 2 ^ 63) (by decide) (Nat.le_refl _)
  unfold wrappedRun
  rw [hrun.1, hrun.2]
  exact ⟨by decide, by decide, by decide, by decide⟩

end Nvfm
