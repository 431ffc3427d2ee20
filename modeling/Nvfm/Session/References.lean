-- SUMMARY: The references dlopen hands out: which of them the package-level library still knows.
import Nvfm.Library.Package
import Nvfm.Session.FabricManager

/-!
# Loader References

Each successful `dlopen` is a reference that a successful `dlclose` gives back.
A reference whose handle is overwritten is lost. `Init` abandons a handle when
`fmLibInit` fails and `dlclose` fails after it: the next library to be opened, or
to be configured, takes the place of that handle.
-/

namespace Nvfm

open Go Interaction DynamicLibrary Return

variable {σ : Type}

/-- The call obtains a reference. -/
def opensLibrary (e : Event σ Answer) : Bool :=
  match e with
  | ⟨_, .dlopen _ _, some _⟩ => true
  | _ => false

/-- The call gives a reference back. -/
def closesLibrary (e : Event σ Answer) : Bool :=
  match e with
  | ⟨_, .dlclose _, status⟩ => status = 0
  | _ => false

/-- The last successful `dlopen` among the calls. -/
def lastOpen (es : List (Event σ Answer)) : Option (Event σ Answer) :=
  (es.filter opensLibrary).getLast?

theorem lastOpen_append_of_none {es fs : List (Event σ Answer)}
    (h : fs.filter opensLibrary = []) : lastOpen (es ++ fs) = lastOpen es := by
  rw [lastOpen, List.filter_append, h, List.append_nil, lastOpen]

theorem lastOpen_append_of_one {es fs : List (Event σ Answer)} {e : Event σ Answer}
    (h : fs.filter opensLibrary = [e]) : lastOpen (es ++ fs) = some e := by
  rw [lastOpen, List.filter_append, h, List.getLast?_concat]

/-- The references obtained and not given back. -/
def references (es : List (Event Library Answer)) : ℤ :=
  es.countP opensLibrary - (es.countP closesLibrary : ℕ)

/-- The references the library knows of: the one behind its handle. -/
def known (l : Library) : ℤ := if l.dl.handle = none then 0 else 1

@[simp] theorem known_setRefcount (r : Refcount) (l : Library) : known (l.setRefcount r) = known l := rfl

@[simp] theorem known_setHandle_none (l : Library) : known (l.setHandle none) = 0 := rfl

@[simp] theorem known_setHandle_some (h : Pointer) (l : Library) :
    known (l.setHandle (some h)) = 1 := rfl

@[simp] theorem references_nil : references [] = 0 := rfl

@[simp] theorem references_append (es fs : List (Event Library Answer)) :
    references (es ++ fs) = references es + references fs := by
  simp only [references, List.countP_append]
  omega

theorem references_cons (e : Event Library Answer) (es : List (Event Library Answer)) :
    references (e :: es) = references [e] + references es :=
  references_append [e] es

/-- The operation drops an open handle: it replaces it by a new one, or it replaces the
    loader object that holds it. -/
def overwrites (r : Record Library Answer PackageOp PackageResult) : Bool :=
  r.before.dl.handle ≠ none && match r.op with
    | .lifecycle .Init => ¬ 0 < r.before.refcount && r.after.events.any opensLibrary
    | .lifecycle .Shutdown => false
    | .SetLibraryOptions _ => r.before.refcount = 0

section Events

variable {l : Library} {m : GoString} {h : Pointer} {ret : Return} {status : Int32}

@[simp] theorem references_openedEvents :
    references (openedEvents Library.dlLens l h) = 1 := rfl

@[simp] theorem references_openFailedEvents :
    references (openFailedEvents Library.dlLens l (some m)) = 0 := rfl

@[simp] theorem references_closedEvents :
    references (closedEvents Library.dlLens l) = -1 := rfl

@[simp] theorem references_closeFailedEvents (hst : status ≠ 0) :
    references (closeFailedEvents Library.dlLens l status (some m)) = 0 := by
  simp [references, closeFailedEvents, opensLibrary, closesLibrary, hst]

@[simp] theorem references_fmLibInit : references [⟨l, .fmLibInit, ret⟩] = 0 := rfl

@[simp] theorem references_fmLibShutdown : references [⟨l, .fmLibShutdown, ret⟩] = 0 := rfl

end Events

/-! ## One operation -/

section Step

variable {l : Library} {ret : Return} {w : World Library Answer}

/-- The references an operation leaves: what it opened and closed, and one more that
    the library no longer knows when it overwrote a handle. -/
def Balanced (r : Record Library Answer PackageOp PackageResult) : Prop :=
  references r.after.events =
    known r.after.mem - known r.before + if overwrites r = true then 1 else 0

theorem Library.Init.Reported.balanced (hr : Library.Init.Reported l ret w) :
    Balanced ⟨.lifecycle .Init, .inl ret, l, w⟩ := by
  unfold Balanced
  cases hr with
  | counted hpos => simp [overwrites, hpos]
  | openFailed hpos m =>
      have hopen : (openFailedEvents Library.dlLens l (some m)).any opensLibrary = false := rfl
      simp [overwrites, hopen]
  | initFailed hpos h hret =>
      rw [references_append, references_cons]
      have hopen : (openedEvents (M := GoString) Library.dlLens l h).any opensLibrary = true := rfl
      cases hl : l.dl.handle <;> simp [overwrites, known, hpos, hl, hopen]
  | closeFailed hpos h hret hst m =>
      rw [references_append, references_cons]
      have hopen : (openedEvents (M := GoString) Library.dlLens l h).any opensLibrary = true := rfl
      cases hl : l.dl.handle <;> simp [overwrites, known, hpos, hl, hopen, hst]
  | initialised hpos h =>
      rw [references_append]
      have hopen : (openedEvents (M := GoString) Library.dlLens l h).any opensLibrary = true := rfl
      cases hl : l.dl.handle <;> simp [overwrites, known, hpos, hl, hopen]

theorem Library.Shutdown.Reported.balanced (hr : Library.Shutdown.Reported l ret w) :
    Balanced ⟨.lifecycle .Shutdown, .inl ret, l, w⟩ := by
  have hkeeps : overwrites ⟨.lifecycle .Shutdown, .inl ret, l, w⟩ = false := Bool.and_false _
  unfold Balanced
  rw [hkeeps]
  cases hr with
  | uninitialized hzero => simp
  | counted hone => simp
  | shutdownFailed hzero hone hret => simp
  | closeFailed hzero hone hh hst m =>
      rw [references_cons]
      simp [hst]
  | alreadyClosed hzero hone hnil =>
      simp [known, hnil]
  | closed hzero hone hh =>
      rw [references_cons]
      simp [known, hh]

theorem PackageOp.Reported.balanced {op : PackageOp} {a : PackageResult} (hr : op.Reported l a w) :
    Balanced ⟨op, a, l, w⟩ := by
  cases hr with
  | @lifecycle op ret w hr =>
      cases op with
      | Init => exact Library.Init.Reported.balanced hr
      | Shutdown => exact Library.Shutdown.Reported.balanced hr
  | refused hcount => simp [Balanced, overwrites, hcount]
  | replaced hcount => cases hl : l.dl.handle <;> simp [Balanced, overwrites, known, hcount, hl]

/-- A `Shutdown` that brings the counter to zero leaves no handle. -/
theorem Library.Shutdown.Reported.handle_of_zero (hr : Library.Shutdown.Reported l ret w)
    (hbefore : l.refcount ≠ 0) (hafter : w.mem.refcount = 0) : w.mem.dl.handle = none := by
  cases hr with
  | uninitialized hzero => exact absurd hzero hbefore
  | counted hone => exact absurd hafter (Refcount.sub_one_ne_zero hone)
  | shutdownFailed _ _ _ => exact absurd hafter hbefore
  | closeFailed _ _ _ _ _ => exact absurd hafter hbefore
  | alreadyClosed _ _ hnil => exact hnil
  | closed _ _ _ => rfl

end Step

/-! ## Runs -/

/-- The references after an operation, for the operations before it. -/
def referencesAfter (past : List (Record Library Answer PackageOp PackageResult))
    (r : Record Library Answer PackageOp PackageResult) : ℤ :=
  references (past.flatMap (·.after.events) ++ r.after.events)

/-- What the run says about the references it has obtained. -/
structure Accounted (l : Log Library Answer PackageOp PackageResult) : Prop where
  total : references l.events = known l.mem + l.records.countP overwrites
  totals : Log.EachAfter (fun past r =>
    referencesAfter past r = known r.after.mem + (past ++ [r]).countP overwrites) l.records
  down : ∀ r ∈ l.records, r.op = .lifecycle .Shutdown → r.before.refcount ≠ 0 →
    r.after.mem.refcount = 0 → r.after.mem.dl.handle = none

theorem Accounted.append {l : Log Library Answer PackageOp PackageResult} {op : PackageOp}
    {a : PackageResult} {w : World Library Answer} (h : Accounted l)
    (hr : op.Reported l.mem a w) : Accounted (l.append op a w) := by
  have htotal : references (l.append op a w).events =
      known w.mem + (l.append op a w).records.countP overwrites := by
    have hstep : references w.events = known w.mem - known l.mem +
        if overwrites ⟨op, a, l.mem, w⟩ = true then 1 else 0 := hr.balanced
    rw [Log.append_events, Log.append_records, references_append, List.countP_append, h.total, hstep,
      List.countP_singleton]
    split <;> push_cast <;> omega
  refine ⟨htotal, h.totals.concat ?_, ?_⟩
  · rw [Log.append_events] at htotal
    exact htotal
  · apply Log.forall_mem_append h.down
    intro hop
    obtain rfl : op = .lifecycle .Shutdown := hop
    cases hr with
    | lifecycle hr => exact Library.Shutdown.Reported.handle_of_zero hr

theorem accounted_of_accepts {o : Oracle Answer} {ops : List PackageOp}
    (hrep : dlerrorReports.Accepts (packageRun o ops).events) : Accounted (packageRun o ops) := by
  obtain ⟨b, hb⟩ := Option.isSome_iff_exists.1 hrep
  refine PackageOp.specifies.protocol_induction dlerrorReports (I := fun l _ => Accounted l) ?_ ?_ hb
  · exact ⟨rfl, Log.eachAfter_nil, List.forall_mem_nil _⟩
  · intro l b op a w b' hl ho hb
    exact hl.append (ho.reported hb)

/-- After every call of a run the library knows every reference it has obtained, exactly
    when no call of the run overwrites an open handle. -/
theorem Accounted.known_iff {l : Log Library Answer PackageOp PackageResult} (h : Accounted l) :
    Log.EachAfter (fun past r => referencesAfter past r = known r.after.mem) l.records ↔
      ∀ r ∈ l.records, overwrites r = false := by
  constructor
  · intro hknown r hr
    obtain ⟨past, rest, heq⟩ := List.append_of_mem hr
    have htotal : referencesAfter past r =
        known r.after.mem + (past ++ [r]).countP overwrites := h.totals past r rest heq
    have hpast : referencesAfter past r = known r.after.mem := hknown past r rest heq
    have hnone : (past ++ [r]).countP overwrites = 0 := by omega
    exact Bool.eq_false_iff.2 (List.countP_eq_zero.1 hnone r List.mem_concat_self)
  · intro hall past r rest heq
    have hnone : (past ++ [r]).countP overwrites = 0 := by
      rw [List.countP_eq_zero]
      intro x hx
      rw [hall x (by rw [heq]; simp at hx ⊢; tauto)]
      exact Bool.false_ne_true
    rw [h.totals past r rest heq, hnone]
    exact Int.add_zero _

/-! ## Abandoned handles -/

/-- The call is an `fmLibInit` that fails. -/
def failsToInit (e : Event Library Answer) : Bool :=
  match e with
  | ⟨_, .fmLibInit, ret⟩ => ret ≠ SUCCESS
  | _ => false

/-- An `Init` whose `fmLibInit` fails, and whose `dlclose` fails after it. -/
def abandons (r : Record Library Answer PackageOp PackageResult) : Bool :=
  r.after.events.any failsToInit && r.after.events.any failsToClose

/-- A successful `dlopen`, or a call of `SetLibraryOptions`. -/
def replaces (r : Record Library Answer PackageOp PackageResult) : Bool :=
  match r.op with
  | .lifecycle _ => r.after.events.any opensLibrary
  | .SetLibraryOptions _ => true

/-- The last handle that was abandoned has not been replaced. -/
def abandoned (rs : List (Record Library Answer PackageOp PackageResult)) : Bool :=
  rs.foldl (fun b r => abandons r || b && !replaces r) false

theorem abandoned_concat (rs : List (Record Library Answer PackageOp PackageResult))
    (r : Record Library Answer PackageOp PackageResult) :
    abandoned (rs ++ [r]) = (abandons r || abandoned rs && !replaces r) := by
  simp [abandoned]

theorem any_abandons_of_abandoned {rs : List (Record Library Answer PackageOp PackageResult)}
    (h : abandoned rs = true) : rs.any abandons = true := by
  induction rs using List.reverseRecOn with
  | nil => cases h
  | append_singleton rs r ih =>
      rw [abandoned_concat, Bool.or_eq_true, Bool.and_eq_true] at h
      rw [List.any_append, Bool.or_eq_true]
      rcases h with hr | ⟨hrs, _⟩
      · exact .inr (by simpa using hr)
      · exact .inl (ih hrs)

/-- No handle that was abandoned is replaced later on. -/
def NoneReplaced (rs : List (Record Library Answer PackageOp PackageResult)) : Prop :=
  Log.EachAfter (fun past r => past.any abandons = true → replaces r = false) rs

instance (rs : List (Record Library Answer PackageOp PackageResult)) : Decidable (NoneReplaced rs) :=
  inferInstanceAs (Decidable (Log.EachAfter _ _))

/-- As long as no abandoned handle is replaced, they all stay abandoned. -/
theorem abandoned_eq_any {rs : List (Record Library Answer PackageOp PackageResult)}
    (h : Log.EachAfter (fun past r => abandoned past = true → replaces r = false) rs) :
    abandoned rs = rs.any abandons := by
  induction rs using List.reverseRecOn with
  | nil => rfl
  | append_singleton rs r ih =>
      have hr : abandoned rs = true → replaces r = false := h rs r [] rfl
      rw [abandoned_concat, List.any_append, ← ih h.of_append]
      cases hrs : abandoned rs with
      | false => simp
      | true => simp [hr hrs]

theorem noneReplaced_iff {rs : List (Record Library Answer PackageOp PackageResult)} :
    NoneReplaced rs ↔
      Log.EachAfter (fun past r => abandoned past = true → replaces r = false) rs := by
  constructor
  · intro h past r rest heq habandoned
    exact h past r rest heq (any_abandons_of_abandoned habandoned)
  · intro h past r rest heq hany
    rw [heq] at h
    rw [← abandoned_eq_any h.of_append] at hany
    exact h past r rest rfl hany

section Left

variable {l : Library} {a : PackageResult} {w : World Library Answer} {op : PackageOp} {n : ℕ}

/-- The handle of a library that is not counted. -/
def Left (l : Library) : Prop := l.dl.handle ≠ none ∧ l.refcount = 0

/-- A call overwrites a handle when it replaces one that is left. -/
theorem PackageOp.Reported.overwrites_iff (hr : op.Reported l a w) (hl : Counts l n) :
    overwrites ⟨op, a, l, w⟩ = true ↔ Left l ∧ replaces ⟨op, a, l, w⟩ = true := by
  cases hr with
  | @lifecycle op ret w hr =>
      cases op with
      | Init =>
          have hzero : ¬ 0 < l.refcount ↔ l.refcount = 0 := by
            rw [hl.pos_iff, hl.eq_zero_iff, Nat.pos_iff_ne_zero, not_not]
          simp [overwrites, replaces, Left, ← hzero, and_assoc]
      | Shutdown =>
          have hnone : w.events.any opensLibrary = false := by cases hr <;> rfl
          simp [overwrites, replaces, hnone]
  | refused hcount => simp [overwrites, replaces, Left]
  | replaced hcount => simp [overwrites, replaces, Left]

theorem Library.Init.Reported.left_iff {ret : Return} (hr : Library.Init.Reported l ret w)
    (hl : Counts l n) : Left w.mem ↔ abandons ⟨.lifecycle .Init, .inl ret, l, w⟩ = true ∨
      Left l ∧ replaces ⟨.lifecycle .Init, .inl ret, l, w⟩ = false := by
  cases hr with
  | counted hpos =>
      have hsucc : l.refcount + 1 ≠ 0 := Refcount.add_one_ne_zero hpos
      simp [Left, abandons, hsucc, Refcount.ne_zero_of_pos hpos]
  | openFailed hpos m =>
      have hinit : (openFailedEvents Library.dlLens l (some m)).any failsToInit = false := rfl
      have hopen : (openFailedEvents Library.dlLens l (some m)).any opensLibrary = false := rfl
      simp [abandons, replaces, hinit, hopen]
  | initFailed hpos h hret =>
      have hclose : (closedEvents (M := GoString) Library.dlLens (l.setHandle (some h))).any
          failsToClose = false := rfl
      have hopen : (openedEvents (M := GoString) Library.dlLens l h).any failsToClose = false := rfl
      have hopens : (openedEvents (M := GoString) Library.dlLens l h).any opensLibrary = true := rfl
      simp [Left, abandons, replaces, hopen, hclose, hopens, failsToClose]
  | closeFailed hpos h hret hst m =>
      have hzero : l.refcount = 0 := hl.eq_zero_iff.2 (hl.eq_zero hpos)
      simp [Left, abandons, hzero, failsToInit, failsToClose, closeFailedEvents, hret, hst]
  | initialised hpos h =>
      have hopens : (openedEvents (M := GoString) Library.dlLens l h).any opensLibrary = true := rfl
      have hinit : (openedEvents (M := GoString) Library.dlLens l h).any failsToInit = false := rfl
      simp [Left, abandons, replaces, hopens, hinit, failsToInit]

theorem Library.Shutdown.Reported.left_iff {ret : Return} (hr : Library.Shutdown.Reported l ret w) :
    Left w.mem ↔ abandons ⟨.lifecycle .Shutdown, .inl ret, l, w⟩ = true ∨
      Left l ∧ replaces ⟨.lifecycle .Shutdown, .inl ret, l, w⟩ = false := by
  have hinit : w.events.any failsToInit = false := by cases hr <;> rfl
  have hopen : w.events.any opensLibrary = false := by cases hr <;> rfl
  simp only [abandons, replaces, hinit, hopen, Bool.false_and, Bool.false_eq_true, false_or, and_true]
  cases hr with
  | uninitialized hzero => exact Iff.rfl
  | counted hone =>
      have hpred : l.refcount - 1 ≠ 0 := Refcount.sub_one_ne_zero hone
      have hcount : l.refcount ≠ 0 := Refcount.ne_zero_of_pos (Refcount.pos_of_one_lt hone)
      exact iff_of_false (fun h => hpred h.2) (fun h => hcount h.2)
  | shutdownFailed hzero hone hret => exact Iff.rfl
  | closeFailed hzero hone hh hst m => exact Iff.rfl
  | alreadyClosed hzero hone hnil => exact iff_of_false (fun h => h.1 hnil) (fun h => h.1 hnil)
  | closed hzero hone hh => exact iff_of_false (fun h => h.1 rfl) (fun h => hzero h.2)

/-- A handle is left when a call abandons it, and until another takes its place. -/
theorem PackageOp.Reported.left_iff (hr : op.Reported l a w) (hl : Counts l n) :
    Left w.mem ↔ abandons ⟨op, a, l, w⟩ = true ∨ Left l ∧ replaces ⟨op, a, l, w⟩ = false := by
  cases hr with
  | @lifecycle op ret w hr =>
      cases op with
      | Init => exact Library.Init.Reported.left_iff hr hl
      | Shutdown => exact Library.Shutdown.Reported.left_iff hr
  | refused hcount => simp [Left, abandons, hcount]
  | replaced hcount => simp [Left, abandons, replaces]

end Left

/-- A call of the package moves the counter by one at most. -/
theorem PackageOp.Outcome.counts {l : Library} {a : PackageResult} {w : World Library Answer}
    {op : PackageOp} {n : ℕ} (ho : op.Outcome l a w) (hl : Counts l n) (hn : n + 1 < 2 ^ 63) :
    ∃ n', Counts w.mem n' ∧ n' ≤ n + 1 := by
  cases ho with
  | lifecycle ho =>
      obtain ⟨n', hw, hstep⟩ := ho.step hl hn
      exact ⟨n', hw, hstep.le_succ⟩
  | refused hcount => exact ⟨n, hl, Nat.le_succ n⟩
  | replaced hcount => exact ⟨n, hl.of_refcount_eq (Library.init_refcount _ _), Nat.le_succ n⟩

/-- What the run says about the handle that is left, if any. -/
structure Traced (l : Log Library Answer PackageOp PackageResult) : Prop where
  counts : ∃ n : ℕ, Counts l.mem n ∧ n ≤ l.records.length
  left : Left l.mem ↔ abandoned l.records = true
  overwrites : Log.EachAfter (fun past r =>
    Nvfm.overwrites r = true ↔ abandoned past = true ∧ replaces r = true) l.records

theorem Traced.append {l : Log Library Answer PackageOp PackageResult} {op : PackageOp}
    {a : PackageResult} {w : World Library Answer} (h : Traced l) (ho : op.Outcome l.mem a w)
    (hr : op.Reported l.mem a w) (hlen : l.records.length + 1 < 2 ^ 63) :
    Traced (l.append op a w) := by
  obtain ⟨n, hl, hn⟩ := h.counts
  constructor
  case counts =>
    obtain ⟨n', hw, hle⟩ := ho.counts hl (Nat.lt_of_le_of_lt (Nat.succ_le_succ hn) hlen)
    rw [Log.append_records, List.length_append]
    exact ⟨n', hw, hle.trans (Nat.succ_le_succ hn)⟩
  case left =>
    have hleft : Left w.mem ↔ _ := hr.left_iff hl
    rw [Log.append_mem, hleft, Log.append_records, abandoned_concat, h.left]
    simp
  case overwrites =>
    refine h.overwrites.concat ?_
    rw [hr.overwrites_iff hl, h.left]

theorem traced_of_accepts {o : Oracle Answer} {ops : List PackageOp} (hlen : ops.length < 2 ^ 63)
    (hrep : dlerrorReports.Accepts (packageRun o ops).events) : Traced (packageRun o ops) := by
  obtain ⟨b, hb⟩ := Option.isSome_iff_exists.1 hrep
  refine PackageOp.specifies.protocol_induction_lt dlerrorReports (I := fun l _ => Traced l)
    ?_ ?_ hlen hb
  · refine ⟨⟨0, .newLibrary [], Nat.le_refl 0⟩, ?_, Log.eachAfter_nil⟩
    exact iff_of_false (fun h => h.1 rfl) Bool.false_ne_true
  · intro l b op a w b' hlt h ho hb
    exact h.append ho (ho.reported hb) hlt

/-- No call overwrites an open handle exactly when no abandoned one is replaced. -/
theorem Traced.noneReplaced_iff {l : Log Library Answer PackageOp PackageResult} (h : Traced l) :
    (∀ r ∈ l.records, Nvfm.overwrites r = false) ↔ NoneReplaced l.records := by
  rw [Nvfm.noneReplaced_iff]
  constructor
  · intro hall past r rest heq habandoned
    have hr : Nvfm.overwrites r = false := hall r (heq ▸ List.mem_append_cons_self)
    have hover : Nvfm.overwrites r = true ↔ _ := h.overwrites past r rest heq
    rw [hr] at hover
    simpa [habandoned] using hover
  · intro hnone r hr
    obtain ⟨past, rest, heq⟩ := List.append_of_mem hr
    have hpast : abandoned past = true → replaces r = false := hnone past r rest heq
    have hover : Nvfm.overwrites r = true ↔ _ := h.overwrites past r rest heq
    rw [← Bool.not_eq_true, hover]
    rintro ⟨habandoned, hreplaces⟩
    exact Bool.false_ne_true ((hpast habandoned).symm.trans hreplaces)

/-- After every call of a run the library knows every reference it has obtained, exactly
    when no `Init` whose `fmLibInit` and `dlclose` failed is followed by a successful
    `dlopen` or by a `SetLibraryOptions`; and then nothing stays loaded after a `Shutdown`
    that brings the counter to zero. -/
theorem references_known_iff (o : Oracle Answer) (ops : List PackageOp) (hlen : ops.length < 2 ^ 63)
    (hrep : dlerrorReports.Accepts (packageRun o ops).events) :
    (Log.EachAfter (fun past r => referencesAfter past r = known r.after.mem)
        (packageRun o ops).records ↔ NoneReplaced (packageRun o ops).records) ∧
    (NoneReplaced (packageRun o ops).records →
      Log.EachAfter (fun past r => r.op = .lifecycle .Shutdown → r.before.refcount ≠ 0 →
        r.after.mem.refcount = 0 → referencesAfter past r = 0) (packageRun o ops).records) := by
  have h := accounted_of_accepts hrep
  have hiff := h.known_iff.trans (traced_of_accepts hlen hrep).noneReplaced_iff
  refine ⟨hiff, ?_⟩
  intro hnone past r rest heq hop hbefore hafter
  have hr : r ∈ (packageRun o ops).records := heq ▸ List.mem_append_cons_self
  have hknown : referencesAfter past r = known r.after.mem := hiff.2 hnone past r rest heq
  rw [hknown, known, if_pos (h.down r hr hop hbefore hafter)]

theorem references_known_pair :
    let l := packageRun (fun _ c => c.succeed)
      [.lifecycle .Init, .lifecycle .Shutdown, .SetLibraryOptions [], .lifecycle .Init]
    (Log.EachAfter (fun past r => referencesAfter past r = known r.after.mem) l.records ↔
      NoneReplaced l.records) ∧
    (NoneReplaced l.records →
      Log.EachAfter (fun past r => r.op = .lifecycle .Shutdown → r.before.refcount ≠ 0 →
        r.after.mem.refcount = 0 → referencesAfter past r = 0) l.records) :=
  references_known_iff _ _ (by decide) (by decide)

/-- The answers of a world in which the C library fails and the loader cannot unload it. -/
def wedged : (c : Call) → Answer c
  | .fmLibInit => GENERIC_ERROR
  | .dlclose _ => (1 : Int32)
  | .dlerror => some (ascii "busy")
  | c => c.succeed

def reopenedRun : Log Library Answer PackageOp PackageResult :=
  packageRun (fun _ => wedged) [.lifecycle .Init, .lifecycle .Init]

def reconfiguredRun : Log Library Answer PackageOp PackageResult :=
  packageRun (fun _ => wedged) [.lifecycle .Init, .SetLibraryOptions []]

/-- A failed `Init` that cannot close the library leaves its handle, with the counter at
    zero, to the next `Init` and to `SetLibraryOptions`: both drop it. -/
theorem references_lost :
    (dlerrorReports.Accepts reopenedRun.events ∧
      references reopenedRun.events = 2 ∧ known reopenedRun.mem = 1) ∧
    dlerrorReports.Accepts reconfiguredRun.events ∧
      references reconfiguredRun.events = 1 ∧ known reconfiguredRun.mem = 0 := by
  decide

end Nvfm
