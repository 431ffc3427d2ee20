-- SUMMARY: Clients that share one library: the balances behind its counter, and who may end the session.
import Nvfm.Session.Refinement

/-!
# Clients of One Library

Any number of clients call `Init` and `Shutdown` of one library, in any order.
The mutex makes each call one step. The counter is the sum of the balances of
the clients, and it covers the handle of the library.
-/

namespace Nvfm

open Go Interaction DynamicLibrary Return

/-! ## The handle behind the counter -/

/-- A library with a positive counter holds a handle. -/
def Held (l : Library) : Prop := 0 < l.refcount → l.dl.handle ≠ none

namespace LifecycleOp

variable {l : Library} {ret : Return} {w : World Library Answer} {op : LifecycleOp} {n : ℕ}

theorem Reported.held (hr : op.Reported l ret w) (hl : Held l) : Held w.mem := by
  intro hpos
  cases op with
  | Init =>
    cases hr with
    | counted hpos' => exact hl hpos'
    | openFailed _ _ => exact hl hpos
    | initFailed hnot _ _ => exact absurd hpos hnot
    | closeFailed _ h _ _ _ => exact Option.some_ne_none h
    | initialised _ h => exact Option.some_ne_none h
  | Shutdown =>
    cases hr with
    | uninitialized _ => exact hl hpos
    | counted hone => exact hl (Refcount.pos_of_one_lt hone)
    | shutdownFailed _ _ _ => exact hl hpos
    | closeFailed _ _ hh _ _ => exact hh
    | alreadyClosed _ _ _ => exact absurd hpos Int64.lt_irrefl
    | closed _ _ _ => exact absurd hpos Int64.lt_irrefl

/-- `libnvfm.so` is entered only while the library holds a handle. -/
theorem Reported.handle_of_fm (hr : op.Reported l ret w) (hl : Held l) (hn : Counts l n)
    {e : Event Library Answer} (he : e ∈ fmEvents w.events) : e.mem.dl.handle ≠ none := by
  have hlast : l.refcount ≠ 0 → l.dl.handle ≠ none := by
    intro hzero
    exact hl (hn.pos_iff.2 (Nat.pos_of_ne_zero (hn.eq_zero_iff.not.1 hzero)))
  cases op with
  | Init =>
    cases hr with
    | counted _ => cases he
    | openFailed _ m => cases he
    | initFailed _ h _ =>
      obtain rfl := List.mem_singleton.1 he
      exact Option.some_ne_none h
    | closeFailed _ h _ _ m =>
      obtain rfl := List.mem_singleton.1 he
      exact Option.some_ne_none h
    | initialised _ h =>
      obtain rfl := List.mem_singleton.1 he
      exact Option.some_ne_none h
  | Shutdown =>
    cases hr with
    | uninitialized _ => cases he
    | counted _ => cases he
    | shutdownFailed hzero _ _ =>
      obtain rfl := List.mem_singleton.1 he
      exact hlast hzero
    | closeFailed hzero _ _ _ m =>
      obtain rfl := List.mem_singleton.1 he
      exact hlast hzero
    | alreadyClosed hzero _ _ =>
      obtain rfl := List.mem_singleton.1 he
      exact hlast hzero
    | closed hzero _ _ =>
      obtain rfl := List.mem_singleton.1 he
      exact hlast hzero

end LifecycleOp

/-! ## Runs of many clients -/

section Clients

variable {C : Type} [DecidableEq C]

/-- The calls of a log as requests of its clients. -/
def requests (rs : List (Record Library Answer (C × LifecycleOp) Return)) : List (Counted.Call C) :=
  rs.map fun r => granting r.op.1 r.op.2 r.result

omit [DecidableEq C] in
@[simp] theorem requests_concat (rs : List (Record Library Answer (C × LifecycleOp) Return))
    (r : Record Library Answer (C × LifecycleOp) Return) :
    requests (rs ++ [r]) = requests rs ++ [granting r.op.1 r.op.2 r.result] :=
  List.map_append

/-- The log of calls of many clients. -/
def clientsRun (o : Oracle Answer) (opts : List LibraryOption) (ops : List (C × LifecycleOp)) :
    Log Library Answer (C × LifecycleOp) Return :=
  exec (fun op => op.2.prog) o (Library.newLibrary opts) ops

/-- What holds between the library and its clients after every call. -/
structure Shared (l : Log Library Answer (C × LifecycleOp) Return) : Prop where
  counts : ∃ n : ℕ, Counts l.mem n ∧ Counted.total (requests l.records) = n ∧ n ≤ l.records.length
  held : Held l.mem
  /-- A call that leaves Go memory finds no other client with an open `Init`. -/
  alone : Log.EachAfter (fun past r => (∃ e ∈ r.after.events, e.call.isOutside) →
    ∀ c, c ≠ r.op.1 → Counted.balance c (requests past) ≤ 0) l.records
  entered : ∀ e ∈ fmEvents l.events, e.mem.dl.handle ≠ none

/-- Only a call on the last balance goes beyond the counter. -/
theorem LifecycleOp.Outcome.le_of_events {l : Library} {ret : Return} {w : World Library Answer}
    {op : LifecycleOp} {n : ℕ} (ho : op.Outcome l ret w) (hl : Counts l n) (hw : w.events ≠ []) :
    match op with
    | .Init => n = 0
    | .Shutdown => n = 1 := by
  cases op with
  | Init =>
    have hpos : ¬ 0 < l.refcount := fun hpos => hw (Library.Init.Outcome.of_pos ho hpos).2
    exact hl.eq_zero hpos
  | Shutdown =>
    have hzero : l.refcount ≠ 0 := fun hzero => hw (Library.Shutdown.Outcome.of_zero ho hzero).2
    have hone : ¬ 1 < l.refcount := fun hone => hw (Library.Shutdown.Outcome.of_one_lt ho hone).2
    exact hl.eq_one hzero hone

theorem Shared.append {l : Log Library Answer (C × LifecycleOp) Return} {c : C} {op : LifecycleOp}
    {ret : Return} {w : World Library Answer} (h : Shared l) (ho : op.Outcome l.mem ret w)
    (hr : op.Reported l.mem ret w)
    (hd : Counted.Disciplined (requests l.records ++ [granting c op ret]))
    (hlen : l.records.length + 1 < 2 ^ 63) : Shared (l.append (c, op) ret w) := by
  obtain ⟨n, hl, htotal, hn⟩ := h.counts
  obtain ⟨hd', hrelease⟩ := Counted.disciplined_concat.1 hd
  constructor
  case counts =>
    obtain ⟨n', hw, hstep⟩ := ho.step hl (Nat.lt_of_le_of_lt (Nat.succ_le_succ hn) hlen)
    refine ⟨n', hw, ?_, ?_⟩
    · have hgain : (n' : ℤ) = n + Counted.gain (granting c op ret) := hstep.eq_add_gain
      rw [Log.append_records, requests_concat, Counted.total_concat, htotal, hgain]
    · rw [Log.append_records, List.length_append]
      exact hstep.le_succ.trans (Nat.succ_le_succ hn)
  case held => exact hr.held h.held
  case alone =>
    refine h.alone.concat ?_
    rintro ⟨e, he, _⟩ d hne
    have hw : w.events ≠ [] := List.ne_nil_of_mem he
    have hle := ho.le_of_events hl hw
    cases op with
    | Init =>
      calc Counted.balance d (requests l.records)
          ≤ Counted.total (requests l.records) := Counted.balance_le_total hd' d
        _ = 0 := by rw [htotal, hle]; rfl
    | Shutdown =>
      -- The caller holds the last `Init`, so nothing is left for another client.
      have hmine : 0 < Counted.balance c (requests l.records) := hrelease rfl
      have hboth : Counted.balance d (requests l.records) + Counted.balance c (requests l.records) ≤
          Counted.total (requests l.records) := Counted.balance_add_le_total hd' hne
      have htotal' : Counted.total (requests l.records) = 1 := by rw [htotal, hle]; rfl
      omega
  case entered =>
    intro e he
    rw [Log.append_events, fmEvents, List.filter_append, List.mem_append] at he
    rcases he with he | he
    · exact h.entered e he
    · exact hr.handle_of_fm h.held hl he

theorem shared_of_disciplined {o : Oracle Answer} {opts : List LibraryOption}
    {ops : List (C × LifecycleOp)} (hlen : ops.length < 2 ^ 63)
    (hd : Counted.Disciplined (requests (clientsRun o opts ops).records))
    (hrep : dlerrorReports.Accepts (clientsRun o opts ops).events) :
    Shared (clientsRun o opts ops) := by
  obtain ⟨b, hb⟩ := Option.isSome_iff_exists.1 hrep
  refine (LifecycleOp.specifies.comap Prod.snd).protocol_induction_lt dlerrorReports
    (I := fun l _ => Counted.Disciplined (requests l.records) → Shared l) ?_ ?_ hlen hb hd
  · intro _
    constructor
    case counts => exact ⟨0, .newLibrary opts, rfl, Nat.le_refl 0⟩
    case held => exact fun h => absurd h Int64.lt_irrefl
    case alone => exact Log.eachAfter_nil
    case entered => exact fun e he => nomatch he
  · intro l b op ret w b' hlt ih ho hb hd
    rw [Log.append_records, requests_concat] at hd
    have hl : Shared l := ih (Counted.disciplined_concat.1 hd).1
    exact hl.append ho (ho.reported hb) hd hlt

/-- Clients that release only what they hold never tear down each other's session. -/
theorem clients_keep_sessions (o : Oracle Answer) (opts : List LibraryOption)
    (ops : List (C × LifecycleOp)) (hlen : ops.length < 2 ^ 63)
    (hd : Counted.Disciplined (requests (clientsRun o opts ops).records))
    (hrep : dlerrorReports.Accepts (clientsRun o opts ops).events) :
    (∀ c, 0 < Counted.balance c (requests (clientsRun o opts ops).records) →
      (clientsRun o opts ops).mem.dl.handle ≠ none) ∧
    Log.EachAfter (fun past r => (∃ e ∈ r.after.events, e.call.isOutside) →
      ∀ c, c ≠ r.op.1 → Counted.balance c (requests past) ≤ 0) (clientsRun o opts ops).records ∧
    ∀ e ∈ (clientsRun o opts ops).events, e.call = .fmLibInit ∨ e.call = .fmLibShutdown →
      e.mem.dl.handle ≠ none := by
  have h := shared_of_disciplined hlen hd hrep
  refine ⟨?_, h.alone, ?_⟩
  · intro c hc
    obtain ⟨n, hl, htotal, _⟩ := h.counts
    have hle : 0 < (n : ℤ) := htotal ▸ Int.lt_of_lt_of_le hc (Counted.balance_le_total hd c)
    exact h.held (hl.pos_iff.2 (Int.natCast_pos.1 hle))
  · intro e he hcall
    refine h.entered e (mem_fmEvents.2 ⟨he, ?_⟩)
    rcases hcall with hcall | hcall <;> rw [hcall] <;> rfl

end Clients

theorem clients_keep_sessions_pair :
    let l := clientsRun (fun _ c => c.succeed) []
      [(false, .Init), (true, .Init), (false, .Shutdown), (true, .Shutdown), (true, .Init)]
    (∀ c, 0 < Counted.balance c (requests l.records) → l.mem.dl.handle ≠ none) ∧
    Log.EachAfter (fun past r => (∃ e ∈ r.after.events, e.call.isOutside) →
      ∀ c, c ≠ r.op.1 → Counted.balance c (requests past) ≤ 0) l.records ∧
    ∀ e ∈ l.events, e.call = .fmLibInit ∨ e.call = .fmLibShutdown → e.mem.dl.handle ≠ none :=
  clients_keep_sessions _ _ _ (by decide) (by decide) (by decide)

end Nvfm
