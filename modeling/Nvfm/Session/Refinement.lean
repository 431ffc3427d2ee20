-- SUMMARY: Init and Shutdown refine a counted resource: counter, results and outside calls of every run.
import Nvfm.Library.Lifecycle
import Nvfm.Counted.Basic

/-!
# Refinement of a Counted Resource

`Init` acquires and `Shutdown` releases; a call is granted when it returns
`SUCCESS`. The reference count is the state of the resource.
-/

namespace Nvfm

open Go Interaction DynamicLibrary Return

/-- The request each operation makes. -/
def LifecycleOp.request : LifecycleOp → Counted.Request
  | .Init => .acquire
  | .Shutdown => .release

/-- The helper of `refcount.go` for the operation. -/
def LifecycleOp.onNoError : LifecycleOp → Refcount → GoError GoString → Refcount
  | .Init => Refcount.IncOnNoError
  | .Shutdown => Refcount.DecOnNoError

/-- A call of `client` as a request that was granted or not. -/
def granting {C : Type} (client : C) (op : LifecycleOp) (ret : Return) : Counted.Call C :=
  ⟨client, op.request, ret = SUCCESS⟩

/-- The library holds the state `n` of the resource. -/
def Counts (l : Library) (n : ℕ) : Prop := l.refcount.toInt = n

namespace Counts

variable {l : Library} {n : ℕ}

theorem newLibrary (opts : List LibraryOption) : Counts (Library.newLibrary opts) 0 := rfl

theorem pos_iff (h : Counts l n) : 0 < l.refcount ↔ 0 < n := by
  rw [Refcount.toInt_pos, h]
  omega

theorem one_lt_iff (h : Counts l n) : 1 < l.refcount ↔ 1 < n := by
  rw [Refcount.toInt_one_lt, h]
  omega

theorem eq_zero_iff (h : Counts l n) : l.refcount = 0 ↔ n = 0 := by
  rw [Refcount.toInt_eq_zero, h]
  omega

theorem eq_zero (h : Counts l n) (hpos : ¬ 0 < l.refcount) : n = 0 :=
  Nat.eq_zero_of_not_pos (h.pos_iff.not.1 hpos)

theorem le_one (h : Counts l n) (hone : ¬ 1 < l.refcount) : n ≤ 1 :=
  Nat.le_of_not_lt (h.one_lt_iff.not.1 hone)

theorem eq_one (h : Counts l n) (hzero : l.refcount ≠ 0) (hone : ¬ 1 < l.refcount) : n = 1 :=
  Nat.le_antisymm (h.le_one hone) (Nat.pos_of_ne_zero (h.eq_zero_iff.not.1 hzero))

theorem add_one (h : Counts l n) (hn : n + 1 < 2 ^ 63) :
    Counts (l.setRefcount (l.refcount + 1)) (n + 1) := by
  unfold Counts at h ⊢
  rw [Library.setRefcount_refcount, Refcount.toInt_add_one (by omega), h]
  norm_cast

theorem sub_one (h : Counts l (n + 1)) : Counts (l.setRefcount (l.refcount - 1)) n := by
  unfold Counts at h ⊢
  rw [Library.setRefcount_refcount, Refcount.toInt_sub_one (by omega), h]
  push_cast
  omega

theorem toNat_eq (h : Counts l n) : l.refcount.toInt.toNat = n := by
  rw [h]
  exact Int.toNat_natCast n

theorem of_refcount_eq {l' : Library} (h : Counts l n) (heq : l'.refcount = l.refcount) :
    Counts l' n := by
  unfold Counts
  rw [heq, h]

end Counts

/-! ## The counter of one call -/

namespace Library

variable {l l' : Library} {err : GoError GoString} {es : List (Event Library Answer)}

theorem Open_refcount (ho : Open.Outcome dlLens l err l' es) : l'.refcount = l.refcount := by
  rcases ho.mem_eq with rfl | ⟨h, rfl⟩ <;> rfl

theorem Close_refcount (hc : Close.Outcome dlLens l err l' es) : l'.refcount = l.refcount := by
  rcases hc.mem_eq with rfl | rfl <;> rfl

end Library

namespace LifecycleOp.Outcome

variable {l : Library} {ret : Return} {w : World Library Answer} {n : ℕ} {op : LifecycleOp}

/-- A call that fails leaves the counter as it was. -/
theorem refcount_of_failed (ho : op.Outcome l ret w) (hret : ret ≠ SUCCESS) :
    w.mem.refcount = l.refcount := by
  cases op with
  | Init =>
      cases ho with
      | counted hpos => exact absurd rfl hret
      | openFailed hpos ho herr => exact Library.Open_refcount ho
      | initFailed hpos ho _ hc =>
          exact (Library.Close_refcount hc).trans (Library.Open_refcount ho)
      | initialised hpos ho => exact absurd rfl hret
  | Shutdown =>
      cases ho with
      | uninitialized hzero => rfl
      | counted hone => exact absurd rfl hret
      | shutdownFailed hzero hone _ => rfl
      | closeFailed hzero hone hc herr => exact Library.Close_refcount hc
      | closed hzero hone hc => exact absurd rfl hret

/-- A call that succeeds moves the counter by one. -/
theorem step_of_success (ho : op.Outcome l SUCCESS w) (hl : Counts l n) (hn : n + 1 < 2 ^ 63) :
    ∃ n', Counts w.mem n' ∧ Counted.Step n op.request true n' := by
  cases op with
  | Init =>
      refine ⟨n + 1, ?_, .acquired n⟩
      cases ho with
      | counted hpos => exact hl.add_one hn
      | initFailed hpos ho hret hc => exact absurd rfl hret
      | initialised hpos ho =>
          obtain rfl := hl.eq_zero hpos
          rfl
  | Shutdown =>
      have hpos : n ≠ 0 := by
        cases ho with
        | counted hone => exact Nat.ne_zero_of_lt (hl.one_lt_iff.1 hone)
        | shutdownFailed hzero hone hret => exact absurd rfl hret
        | closed hzero hone hc => exact hl.eq_zero_iff.not.1 hzero
      obtain ⟨m, rfl⟩ := Nat.exists_eq_succ_of_ne_zero hpos
      refine ⟨m, ?_, .released m⟩
      cases ho with
      | counted hone => exact hl.sub_one
      | shutdownFailed hzero hone hret => exact absurd rfl hret
      | closed hzero hone hc =>
          obtain rfl : m = 0 := Nat.succ.inj (hl.eq_one hzero hone)
          rfl

/-- A call that fails was one the resource may refuse. -/
theorem step_of_failed (ho : op.Outcome l ret w) (hret : ret ≠ SUCCESS) (hl : Counts l n) :
    Counted.Step n op.request false n := by
  cases op with
  | Init =>
      have hzero : n = 0 := by
        cases ho with
        | counted hpos => exact absurd rfl hret
        | openFailed hpos ho herr => exact hl.eq_zero hpos
        | initFailed hpos ho _ hc => exact hl.eq_zero hpos
        | initialised hpos ho => exact absurd rfl hret
      subst hzero
      exact .notAcquired
  | Shutdown =>
      refine .notReleased ?_
      cases ho with
      | uninitialized hzero =>
          rw [hl.eq_zero_iff.1 hzero]
          exact Nat.zero_le 1
      | counted hone => exact absurd rfl hret
      | shutdownFailed hzero hone _ => exact hl.le_one hone
      | closeFailed hzero hone hc herr => exact hl.le_one hone
      | closed hzero hone hc => exact absurd rfl hret

/-- One call of `Init` or `Shutdown` is a step of the resource. -/
theorem step (ho : op.Outcome l ret w) (hl : Counts l n) (hn : n + 1 < 2 ^ 63) :
    ∃ n', Counts w.mem n' ∧ Counted.Step n op.request (ret = SUCCESS) n' := by
  by_cases hret : ret = SUCCESS
  · subst hret
    simpa using ho.step_of_success hl hn
  · refine ⟨n, hl.of_refcount_eq (ho.refcount_of_failed hret), ?_⟩
    simpa [hret] using ho.step_of_failed hret hl

end LifecycleOp.Outcome

/-! ## The calls of one call -/

namespace Library

variable {l : Library} {ret : Return} {w : World Library Answer}

theorem Init.Outcome.of_pos (ho : Init.Outcome l ret w) (hpos : 0 < l.refcount) :
    ret = SUCCESS ∧ w.events = [] := by
  cases ho with
  | counted _ => exact ⟨rfl, rfl⟩
  | openFailed hnot _ _ => exact absurd hpos hnot
  | initFailed hnot _ _ _ => exact absurd hpos hnot
  | initialised hnot _ => exact absurd hpos hnot

theorem Shutdown.Outcome.of_one_lt (ho : Shutdown.Outcome l ret w) (hone : 1 < l.refcount) :
    ret = SUCCESS ∧ w.events = [] := by
  cases ho with
  | uninitialized hzero =>
      rw [hzero] at hone
      exact absurd hone (by decide)
  | counted _ => exact ⟨rfl, rfl⟩
  | shutdownFailed _ hnot _ => exact absurd hone hnot
  | closeFailed _ hnot _ _ => exact absurd hone hnot
  | closed _ hnot _ => exact absurd hone hnot

theorem Shutdown.Outcome.of_zero (ho : Shutdown.Outcome l ret w) (hzero : l.refcount = 0) :
    ret = UNINITIALIZED ∧ w.events = [] := by
  cases ho with
  | uninitialized _ => exact ⟨rfl, rfl⟩
  | counted hone =>
      rw [hzero] at hone
      exact absurd hone (by decide)
  | shutdownFailed hnot _ _ => exact absurd hzero hnot
  | closeFailed hnot _ _ _ => exact absurd hzero hnot
  | closed hnot _ _ => exact absurd hzero hnot

/-- The first `Init` that succeeds opens the library and initialises it. -/
theorem Init.Outcome.outside_of_success (ho : Init.Outcome l SUCCESS w) (hpos : ¬ 0 < l.refcount) :
    outside w.events = [.dlopen (CString l.dl.Name) l.dl.Flags.toInt32, .fmLibInit] := by
  cases ho with
  | counted h => exact absurd h hpos
  | initFailed _ _ hret _ => exact absurd rfl hret
  | initialised _ ho =>
      rw [outside_append, ho.outside_eq, outside_cons_fm rfl]
      rfl

/-- The last `Shutdown` that succeeds ends the session and closes the library. -/
theorem Shutdown.Outcome.outside_of_success (ho : Shutdown.Outcome l SUCCESS w)
    (hone : ¬ 1 < l.refcount) :
    outside w.events =
      .fmLibShutdown :: if l.dl.handle = none then [] else [.dlclose l.dl.handle] := by
  cases ho with
  | counted h => exact absurd h hone
  | shutdownFailed _ _ hret => exact absurd rfl hret
  | closed _ _ hc =>
      rw [outside_cons_fm rfl, hc.outside_eq]
      rfl

/-- An `Init` that fails returns the code of the step that failed. -/
theorem Init.Outcome.code_of_failed (ho : Init.Outcome l ret w) (hret : ret ≠ SUCCESS) :
    (ret = GENERIC_ERROR ∧
        ⟨l, .dlopen (CString l.dl.Name) l.dl.Flags.toInt32, (none : Option Pointer)⟩ ∈ w.events ∧
        outside w.events = [.dlopen (CString l.dl.Name) l.dl.Flags.toInt32]) ∨
      ∃ l', ⟨l', .fmLibInit, ret⟩ ∈ w.events ∧
        outside w.events = .dlopen (CString l.dl.Name) l.dl.Flags.toInt32 :: .fmLibInit ::
          if l'.dl.handle = none then [] else [.dlclose l'.dl.handle] := by
  cases ho with
  | counted _ => exact absurd rfl hret
  | openFailed _ ho herr =>
      refine .inl ⟨rfl, ?_, ho.outside_eq⟩
      cases ho with
      | opened h => exact absurd rfl herr
      | failed m => exact List.mem_cons_of_mem _ List.mem_cons_self
      | unreported => exact absurd rfl herr
  | @initFailed _ l' _ ho _ _ _ _ _ hc =>
      refine .inr ⟨l', List.mem_append_right _ List.mem_cons_self, ?_⟩
      rw [outside_append, ho.outside_eq, outside_cons_fm rfl, hc.outside_eq]
      rfl
  | initialised _ _ => exact absurd rfl hret

/-- A `Shutdown` of a held library that fails returns the code of the step that
    failed. -/
theorem Shutdown.Outcome.code_of_failed (ho : Shutdown.Outcome l ret w) (hzero : l.refcount ≠ 0)
    (hret : ret ≠ SUCCESS) :
    (ret = GENERIC_ERROR ∧
        (∃ status ≠ 0, ⟨l, .dlclose l.dl.handle, (status : Int32)⟩ ∈ w.events) ∧
        outside w.events = [.fmLibShutdown, .dlclose l.dl.handle]) ∨
      (⟨l, .fmLibShutdown, ret⟩ ∈ w.events ∧ outside w.events = [.fmLibShutdown]) := by
  cases ho with
  | uninitialized h => exact absurd h hzero
  | counted _ => exact absurd rfl hret
  | shutdownFailed _ _ _ => exact .inr ⟨List.mem_cons_self, outside_cons_fm rfl⟩
  | closeFailed _ _ hc herr =>
      refine .inl ⟨rfl, ?_, ?_⟩
      · cases hc with
        | alreadyClosed hnil => exact absurd rfl herr
        | closed hh => exact absurd rfl herr
        | failed hh hst m =>
            exact ⟨_, hst, List.mem_cons_of_mem _ (List.mem_cons_of_mem _ List.mem_cons_self)⟩
        | unreported hh hst => exact absurd rfl herr
      · rw [outside_cons_fm rfl, hc.outside_eq]
        cases hc with
        | alreadyClosed hnil => exact absurd rfl herr
        | closed hh => exact absurd rfl herr
        | failed hh hst m => exact congrArg _ (if_neg hh)
        | unreported hh hst => exact absurd rfl herr
  | closed _ _ _ => exact absurd rfl hret

end Library

/-! ## Runs -/

/-- The calls of `Init` that returned `SUCCESS`, less those of `Shutdown`. -/
def count (rs : List (Record Library Answer LifecycleOp Return)) : ℤ :=
  Counted.total (rs.map fun r => granting () r.op r.result)

theorem count_concat (rs : List (Record Library Answer LifecycleOp Return))
    (r : Record Library Answer LifecycleOp Return) :
    count (rs ++ [r]) = count rs + Counted.gain (granting () r.op r.result) := by
  unfold count
  rw [List.map_append]
  exact Counted.total_concat _ _

/-- One call is one request of the counted resource, from the state `n` to `n'`. -/
structure CountedStep (n n' : ℕ) (r : Record Library Answer LifecycleOp Return) : Prop where
  before : Counts r.before n
  after : Counts r.after.mem n'
  step : Counted.Step n r.op.request (r.result = SUCCESS) n'
  /-- The counter moves as the helpers of `refcount.go` would move it. -/
  update : ∀ err : GoError GoString, (err = .nil ↔ r.result = SUCCESS) →
    r.after.mem.refcount = r.op.onNoError r.before.refcount err
  held : r.op = .Init → 0 < n → r.result = SUCCESS ∧ r.after.events = []
  shared : r.op = .Shutdown → 1 < n → r.result = SUCCESS ∧ r.after.events = []
  unheld : r.op = .Shutdown → n = 0 → r.result = UNINITIALIZED ∧ r.after.events = []
  first : r.op = .Init → n = 0 → r.result = SUCCESS →
    ∃ name flags, outside r.after.events = [.dlopen name flags, .fmLibInit]
  last : r.op = .Shutdown → n = 1 → r.result = SUCCESS →
    outside r.after.events =
      .fmLibShutdown :: if r.before.dl.handle = none then [] else [.dlclose r.before.dl.handle]
  failed : r.result ≠ SUCCESS → r.after.mem.refcount = r.before.refcount
  /-- A failed `dlopen` is a `GENERIC_ERROR`, a failed `fmLibInit` its own code, after
      which the handle is closed if there is one. -/
  failed_init : r.op = .Init → r.result ≠ SUCCESS →
    (r.result = GENERIC_ERROR ∧ ∃ name flags,
        ⟨r.before, .dlopen name flags, (none : Option Pointer)⟩ ∈ r.after.events ∧
        outside r.after.events = [.dlopen name flags]) ∨
      ∃ l name flags, ⟨l, .fmLibInit, r.result⟩ ∈ r.after.events ∧
        outside r.after.events = .dlopen name flags :: .fmLibInit ::
          if l.dl.handle = none then [] else [.dlclose l.dl.handle]
  /-- A failed `dlclose` is a `GENERIC_ERROR`, a failed `fmLibShutdown` its own code. -/
  failed_shutdown : r.op = .Shutdown → n ≠ 0 → r.result ≠ SUCCESS →
    (r.result = GENERIC_ERROR ∧
        (∃ status ≠ 0, ⟨r.before, .dlclose r.before.dl.handle, (status : Int32)⟩ ∈ r.after.events) ∧
        outside r.after.events = [.fmLibShutdown, .dlclose r.before.dl.handle]) ∨
      (⟨r.before, .fmLibShutdown, r.result⟩ ∈ r.after.events ∧
        outside r.after.events = [.fmLibShutdown])

section Steps

variable {l : Library} {ret : Return} {w : World Library Answer} {n : ℕ} {op : LifecycleOp}

theorem LifecycleOp.Outcome.update (ho : op.Outcome l ret w) (hl : Counts l n)
    {err : GoError GoString} (herr : err = .nil ↔ ret = SUCCESS) :
    w.mem.refcount = op.onNoError l.refcount err := by
  by_cases hret : ret = SUCCESS
  · subst hret
    obtain rfl : err = .nil := herr.2 rfl
    cases op with
    | Init =>
        cases ho with
        | counted hpos => rfl
        | initFailed hpos ho hret hc => exact absurd rfl hret
        | initialised hpos ho =>
            have hzero : l.refcount = 0 :=
              hl.eq_zero_iff.2 (Nat.eq_zero_of_not_pos (hl.pos_iff.not.1 hpos))
            simp [LifecycleOp.onNoError, Refcount.IncOnNoError, hzero]
    | Shutdown =>
        cases ho with
        | counted hone =>
            have hpos : 0 < l.refcount := hl.pos_iff.2 (Nat.zero_lt_of_lt (hl.one_lt_iff.1 hone))
            simp [LifecycleOp.onNoError, Refcount.DecOnNoError, hpos]
        | shutdownFailed hzero hone hret => exact absurd rfl hret
        | closed hzero hone hc =>
            have hn : n = 1 := Nat.le_antisymm (Nat.le_of_not_lt (hl.one_lt_iff.not.1 hone))
              (Nat.pos_of_ne_zero (hl.eq_zero_iff.not.1 hzero))
            have hl1 : l.refcount = 1 := Int64.toInt_inj.1 (by rw [hl, hn]; rfl)
            simp [LifecycleOp.onNoError, Refcount.DecOnNoError, hl1]
  · have hnil : err ≠ .nil := herr.not.2 hret
    rw [ho.refcount_of_failed hret]
    cases op <;> simp [LifecycleOp.onNoError, Refcount.IncOnNoError, Refcount.DecOnNoError, hnil]

theorem countedStep (ho : op.Outcome l ret w) (hl : Counts l n) (hn : n + 1 < 2 ^ 63) :
    ∃ n', CountedStep n n' ⟨op, ret, l, w⟩ := by
  obtain ⟨n', hw, hstep⟩ := ho.step hl hn
  refine ⟨n', ?_⟩
  constructor
  case before => exact hl
  case after => exact hw
  case step => exact hstep
  case update => exact fun err herr => ho.update hl herr
  case held =>
    rintro rfl hpos
    exact Library.Init.Outcome.of_pos ho (hl.pos_iff.2 hpos)
  case shared =>
    rintro rfl hone
    exact Library.Shutdown.Outcome.of_one_lt ho (hl.one_lt_iff.2 hone)
  case unheld =>
    rintro rfl hzero
    exact Library.Shutdown.Outcome.of_zero ho (hl.eq_zero_iff.2 hzero)
  case first =>
    rintro rfl hzero rfl
    have hpos : ¬ 0 < l.refcount := hl.pos_iff.not.2 (hzero ▸ Nat.lt_irrefl 0)
    exact ⟨_, _, Library.Init.Outcome.outside_of_success ho hpos⟩
  case last =>
    rintro rfl hone rfl
    have hshared : ¬ 1 < l.refcount := hl.one_lt_iff.not.2 (hone ▸ Nat.lt_irrefl 1)
    exact Library.Shutdown.Outcome.outside_of_success ho hshared
  case failed => exact ho.refcount_of_failed
  case failed_init =>
    rintro rfl hret
    rcases Library.Init.Outcome.code_of_failed ho hret with ⟨hgen, hopen, hout⟩ | ⟨l', hinit, hout⟩
    · exact .inl ⟨hgen, _, _, hopen, hout⟩
    · exact .inr ⟨l', _, _, hinit, hout⟩
  case failed_shutdown =>
    rintro rfl hzero hret
    exact Library.Shutdown.Outcome.code_of_failed ho (hl.eq_zero_iff.not.2 hzero) hret

end Steps

/-- The log so far agrees with the resource. -/
structure Refines (l : Log Library Answer LifecycleOp Return) : Prop where
  state : ∃ n : ℕ, Counts l.mem n ∧ count l.records = n ∧ n ≤ l.records.length
  steps : Log.EachAfter (fun past r => ∃ n n' : ℕ,
    count past = n ∧ count (past ++ [r]) = n' ∧ CountedStep n n' r) l.records

theorem Refines.append {l : Log Library Answer LifecycleOp Return} {op : LifecycleOp} {ret : Return}
    {w : World Library Answer} (h : Refines l) (ho : op.Outcome l.mem ret w)
    (hlen : l.records.length + 1 < 2 ^ 63) : Refines (l.append op ret w) := by
  obtain ⟨n, hl, hcount, hn⟩ := h.state
  obtain ⟨n', hstep⟩ := countedStep ho hl (Nat.lt_of_le_of_lt (Nat.succ_le_succ hn) hlen)
  have hgain : (n' : ℤ) = n + Counted.gain (granting () op ret) := hstep.step.eq_add_gain
  have hcount' : count (l.records ++ [⟨op, ret, l.mem, w⟩]) = n' := by
    rw [count_concat, hcount, hgain]
  refine ⟨⟨n', hstep.after, hcount', ?_⟩, ?_⟩
  · rw [Log.append_records, List.length_append]
    exact hstep.step.le_succ.trans (Nat.succ_le_succ hn)
  · exact h.steps.concat ⟨n, n', hcount, hcount', hstep⟩

/-- The log of a sequence of calls on a fresh library. -/
def lifecycleRun (o : Oracle Answer) (opts : List LibraryOption) (ops : List LifecycleOp) :
    Log Library Answer LifecycleOp Return :=
  exec LifecycleOp.prog o (Library.newLibrary opts) ops

theorem refines_of_length_lt (o : Oracle Answer) (opts : List LibraryOption) {ops : List LifecycleOp}
    (hlen : ops.length < 2 ^ 63) : Refines (lifecycleRun o opts ops) := by
  refine LifecycleOp.specifies.induction_lt (I := Refines) ?_ ?_ o hlen
  · exact ⟨⟨0, .newLibrary opts, rfl, Nat.le_refl 0⟩, Log.eachAfter_nil⟩
  · intro l op ret w hlt h ho
    exact h.append ho hlt

/-- `Init` and `Shutdown` on a fresh library refine the counted resource, whatever
    the loader and `libnvfm.so` answer: before and after every call the counter is
    the count of the calls so far, and the call is one request of the resource. -/
theorem lifecycle_refines_counted (o : Oracle Answer) (opts : List LibraryOption)
    (ops : List LifecycleOp) (hlen : ops.length < 2 ^ 63) :
    (∃ n : ℕ, Counts (lifecycleRun o opts ops).mem n ∧
      count (lifecycleRun o opts ops).records = n) ∧
    Log.EachAfter (fun past r => ∃ n n' : ℕ,
      count past = n ∧ count (past ++ [r]) = n' ∧ CountedStep n n' r)
      (lifecycleRun o opts ops).records := by
  have h := refines_of_length_lt o opts hlen
  obtain ⟨n, hn, hcount, _⟩ := h.state
  exact ⟨⟨n, hn, hcount⟩, h.steps⟩

theorem lifecycle_refines_counted_pair :
    let l := lifecycleRun (fun _ c => c.succeed) [] [.Init, .Init, .Shutdown, .Shutdown]
    (∃ n : ℕ, Counts l.mem n ∧ count l.records = n) ∧
    Log.EachAfter (fun past r => ∃ n n' : ℕ,
      count past = n ∧ count (past ++ [r]) = n' ∧ CountedStep n n' r) l.records :=
  lifecycle_refines_counted _ _ _ (by decide)

end Nvfm
