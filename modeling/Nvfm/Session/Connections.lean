-- SUMMARY: Connections beside the lifecycle of their library: which calls they make, and when.
import Nvfm.Library.Handle
import Nvfm.Session.Clients

/-!
# Connections

`Init`, `Shutdown` and `Connect` on one library, and the operations of the handles
it has returned, in any order. Connecting and the handles do not look at the
library: their caller is the one who keeps it initialised.
-/

namespace Nvfm

open Go Interaction Prog DynamicLibrary Return

/-- The library, and the handles returned so far. -/
structure Connections where
  lib : Library
  handles : List FabricManager

def Connections.libLens : Lens Connections Library where
  get s := s.lib
  set l s := { s with lib := l }
  get_set _ _ := rfl
  set_get _ := rfl
  set_set _ _ _ := rfl

/-- The connections with the handle a call returned, if any. -/
def Connections.add (fm : Option FabricManager) (s : Connections) : Connections :=
  { s with handles := s.handles ++ fm.toList }

@[simp] theorem Connections.libLens_get (s : Connections) : libLens.get s = s.lib := rfl

@[simp] theorem Connections.add_lib (fm : Option FabricManager) (s : Connections) :
    (s.add fm).lib = s.lib := rfl

inductive ConnectionOp where
  | lifecycle (op : LifecycleOp)
  | Connect (opts : List ConnectOption)
  | ConnectWithParams (params : ConnectParams)
  /-- An operation of the `i`-th handle. -/
  | handle (i : ℕ) (op : HandleOp)

inductive ConnectionResult where
  | code (ret : Return)
  | connected (fm : Option FabricManager) (ret : Return)
  | handled (a : HandleResult)
  /-- There is no such handle. -/
  | missing

namespace ConnectionOp

def isLifecycle : ConnectionOp → Bool
  | lifecycle _ => true
  | _ => false

def prog : ConnectionOp → Prog Connections Answer ConnectionResult
  | lifecycle op => do return .code (← op.prog.zoom Connections.libLens)
  | Connect opts => do
      let answer ← Library.Connect opts
      update (Connections.add answer.1)
      return .connected answer.1 answer.2
  | ConnectWithParams params => do
      let answer ← Library.ConnectWithParams params
      update (Connections.add answer.1)
      return .connected answer.1 answer.2
  | handle i op => do
      match (← load).handles[i]? with
      | none => return .missing
      | some fm => return .handled (← op.prog fm)

/-- The call to `libnvfm.so` that an operation of a connection makes. -/
def call (s : Connections) : ConnectionOp → Option Call
  | lifecycle _ => none
  | Connect opts => some (.fmConnect (newConnectParams opts))
  | ConnectWithParams params => some (.fmConnect params)
  | handle i op => s.handles[i]?.bind fun fm => op.call fm

/-- What an operation can return, and leave behind, where `R` says it of the lifecycle. -/
inductive OutcomeOf (R : LifecycleOp → Library → Return → World Library Answer → Prop)
    (s : Connections) : ConnectionOp → ConnectionResult → World Connections Answer → Prop where
  | lifecycle {op : LifecycleOp} {ret : Return} {w : World Library Answer} (h : R op s.lib ret w) :
      OutcomeOf R s (.lifecycle op) (.code ret) (w.within Connections.libLens s)
  | quiet {op : ConnectionOp} (hop : op.isLifecycle = false) (hc : op.call s = none)
      {a : ConnectionResult} (ha : a = .missing ∨ a = .handled (.plain BADPARAM)) :
      OutcomeOf R s op a ⟨s, []⟩
  | called {op : ConnectionOp} (hop : op.isLifecycle = false) {c : Call} (hc : op.call s = some c)
      (r : Answer c) (fm : Option FabricManager) (a : ConnectionResult) :
      OutcomeOf R s op a ⟨s.add fm, [⟨s, c, r⟩]⟩

def Outcome (op : ConnectionOp) (s : Connections) :
    ConnectionResult → World Connections Answer → Prop :=
  OutcomeOf LifecycleOp.Outcome s op

/-- The outcomes in which every failure of the loader is reported. -/
def Reported (op : ConnectionOp) (s : Connections) :
    ConnectionResult → World Connections Answer → Prop :=
  OutcomeOf LifecycleOp.Reported s op

/-- Connecting makes its call, and adds the handle it returns. -/
theorem wp_connected {op : ConnectionOp} {s : Connections} {params : ConnectParams}
    (hop : op.isLifecycle = false) (hc : op.call s = some (.fmConnect params)) :
    (Library.ConnectWithParams params >>= fun answer =>
      update (Connections.add answer.1) >>= fun _ =>
        pure (.connected answer.1 answer.2)).wp .recording (op.Outcome s) ⟨s, []⟩ := by
  rw [wp_bind]
  refine Library.wp_ConnectWithParams ?_
  intro answer r
  rw [update_bind, wp_recording_modify]
  exact .called hop hc r answer.1 _

theorem specifies : Specifies prog Outcome := by
  intro op s
  cases op with
  | lifecycle op =>
      unfold prog
      rw [wp_bind, ← World.within_start Connections.libLens s]
      exact wp_zoom (wp_mono (fun _ _ h => .lifecycle h) (LifecycleOp.specifies op s.lib))
  | Connect opts => exact wp_connected rfl rfl
  | ConnectWithParams params => exact wp_connected rfl rfl
  | handle i op =>
      simp only [prog, load_bind, wp_recording_get]
      split
      · next hfm =>
          refine .quiet ?_ ?_ (.inl rfl)
          · rfl
          · simp [call, hfm]
      · next fm hfm =>
          rw [wp_bind]
          refine wp_mono ?_ (HandleOp.wp_prog fm op s)
          intro a w ho
          cases ho with
          | refused hc =>
              refine .quiet ?_ ?_ (.inr rfl)
              · rfl
              · simp [call, hfm, hc]
          | @called c hc r a =>
              have hcall : (handle i op).call s = some c := by simp [call, hfm, hc]
              have hsame : s.add none = s := by simp [Connections.add]
              have hcalled := OutcomeOf.called (R := LifecycleOp.Outcome) rfl hcall r none
                (.handled a)
              rw [hsame] at hcalled
              exact hcalled

theorem Outcome.reported {op : ConnectionOp} {s : Connections} {a : ConnectionResult}
    {w : World Connections Answer} {b b' : Bool} (ho : op.Outcome s a w)
    (hb : dlerrorReports.after b w.events = some b') : op.Reported s a w := by
  cases ho with
  | lifecycle h =>
      rw [World.within, dlerrorReports_within] at hb
      exact .lifecycle (h.reported hb)
  | quiet hop hc ha => exact .quiet hop hc ha
  | called hop hc r fm a => exact .called hop hc r fm a

end ConnectionOp

/-! ## Runs -/

/-- The log of a sequence of operations from a fresh library without connections. -/
def connectionRun (o : Oracle Answer) (opts : List LibraryOption) (ops : List ConnectionOp) :
    Log Connections Answer ConnectionOp ConnectionResult :=
  exec ConnectionOp.prog o ⟨Library.newLibrary opts, []⟩ ops

/-- How an operation of a connection treats the library. -/
structure Oblivious (r : Record Connections Answer ConnectionOp ConnectionResult) : Prop where
  /-- The library stays as it is. -/
  lib : r.after.mem.lib = r.before.lib
  /-- It makes its one call, whatever the library. -/
  events : r.after.events.map (·.call) = (r.op.call r.before).toList
  /-- Without a call there is no such handle or the slice is too long. -/
  quiet : r.op.call r.before = none → r.result = .missing ∨ r.result = .handled (.plain BADPARAM)
  /-- The calls are made in the library as it was. -/
  mem : ∀ e ∈ r.after.events, e.mem.lib = r.before.lib

theorem ConnectionOp.OutcomeOf.oblivious
    {R : LifecycleOp → Library → Return → World Library Answer → Prop} {op : ConnectionOp}
    {s : Connections} {a : ConnectionResult} {w : World Connections Answer}
    (ho : OutcomeOf R s op a w) (hop : op.isLifecycle = false) : Oblivious ⟨op, a, s, w⟩ := by
  cases ho with
  | lifecycle h => cases hop
  | quiet hop hc ha => exact ⟨rfl, by rw [hc]; rfl, fun _ => ha, List.forall_mem_nil _⟩
  | called hop hc r fm a =>
      refine ⟨rfl, by rw [hc]; rfl, ?_, ?_⟩
      · intro hnone
        cases hc.symm.trans hnone
      · intro e he
        obtain rfl := List.mem_singleton.1 he
        rfl

theorem ConnectionOp.Reported.held {op : ConnectionOp} {s : Connections} {a : ConnectionResult}
    {w : World Connections Answer} (hr : op.Reported s a w) (hs : Held s.lib) : Held w.mem.lib := by
  cases hr with
  | lifecycle hr => exact hr.held hs
  | quiet hop hc ha => exact hs
  | called hop hc r fm a => exact hs

section Runs

variable {o : Oracle Answer} {opts : List LibraryOption} {ops : List ConnectionOp}

theorem oblivious_of_mem {r : Record Connections Answer ConnectionOp ConnectionResult}
    (hr : r ∈ (connectionRun o opts ops).records) (hop : r.op.isLifecycle = false) :
    Oblivious r := by
  have hall : ∀ r ∈ (connectionRun o opts ops).records, r.op.isLifecycle = false → Oblivious r := by
    refine ConnectionOp.specifies.induction
      (I := fun l => ∀ r ∈ l.records, r.op.isLifecycle = false → Oblivious r) ?_ ?_ o ops
    · exact fun r hr => absurd hr List.not_mem_nil
    · intro l op a w ih ho
      exact Log.forall_mem_append ih ho.oblivious
  exact hall r hr hop

theorem held_of_mem (hrep : dlerrorReports.Accepts (connectionRun o opts ops).events)
    {r : Record Connections Answer ConnectionOp ConnectionResult}
    (hr : r ∈ (connectionRun o opts ops).records) : Held r.before.lib := by
  obtain ⟨b, hb⟩ := Option.isSome_iff_exists.1 hrep
  have hall : Held (connectionRun o opts ops).mem.lib ∧
      ∀ r ∈ (connectionRun o opts ops).records, Held r.before.lib := by
    refine ConnectionOp.specifies.protocol_induction dlerrorReports
      (I := fun l _ => Held l.mem.lib ∧ ∀ r ∈ l.records, Held r.before.lib) ?_ ?_ hb
    · exact ⟨fun h => absurd h Int64.lt_irrefl, fun r hr => absurd hr List.not_mem_nil⟩
    · intro l b op a w b' hl ho hb
      exact ⟨(ho.reported hb).held hl.1, Log.forall_mem_append hl.2 hl.1⟩
  exact hall.2 r hr

end Runs

/-- An operation of a connection makes its one call whatever the library holds, and
    none only for a slice that is too long; so it enters a loaded library exactly when
    the library is loaded, as it is whenever the counter is positive. -/
theorem connections_ignore_library (o : Oracle Answer) (opts : List LibraryOption)
    (ops : List ConnectionOp) (r : Record Connections Answer ConnectionOp ConnectionResult)
    (hmem : r ∈ (connectionRun o opts ops).records) (hop : r.op.isLifecycle = false) :
    Oblivious r ∧
    ((∀ e ∈ r.after.events, e.mem.lib.dl.handle ≠ none) ↔
      r.op.call r.before = none ∨ r.before.lib.dl.handle ≠ none) ∧
    (dlerrorReports.Accepts (connectionRun o opts ops).events →
      0 < r.before.lib.refcount → ∀ e ∈ r.after.events, e.mem.lib.dl.handle ≠ none) := by
  have hr : Oblivious r := oblivious_of_mem hmem hop
  refine ⟨hr, ⟨?_, ?_⟩, ?_⟩
  · intro hloaded
    cases hc : r.op.call r.before with
    | none => exact .inl rfl
    | some c =>
        have hevents := hr.events
        rw [hc] at hevents
        obtain ⟨e, heq, _⟩ := List.map_eq_singleton_iff.1 hevents
        have he : e ∈ r.after.events := heq ▸ List.mem_singleton_self e
        exact .inr (hr.mem e he ▸ hloaded e he)
  · rintro (hnone | hloaded) e he
    · have hevents := hr.events
      rw [hnone] at hevents
      rw [List.map_eq_nil_iff.1 hevents] at he
      cases he
    · rw [hr.mem e he]
      exact hloaded
  · intro hrep hpos e he
    rw [hr.mem e he]
    exact held_of_mem hrep hmem hpos

theorem connections_ignore_library_second :
    let l := connectionRun (fun _ c => c.succeed) [] [.lifecycle .Init, .Connect [], .handle 0 .Disconnect]
    let r := l.records.get ⟨1, by decide⟩
    Oblivious r ∧
    ((∀ e ∈ r.after.events, e.mem.lib.dl.handle ≠ none) ↔
      r.op.call r.before = none ∨ r.before.lib.dl.handle ≠ none) ∧
    (dlerrorReports.Accepts l.events →
      0 < r.before.lib.refcount → ∀ e ∈ r.after.events, e.mem.lib.dl.handle ≠ none) :=
  connections_ignore_library _ _ _ _ (List.get_mem _ _) rfl

/-- `Connect` on a library that was never initialised calls `fmConnect` with nothing
    loaded. -/
theorem connects_unloaded :
    let l := connectionRun (fun _ c => c.succeed) [] [.Connect []]
    dlerrorReports.Accepts l.events ∧
      l.events.map (fun e => (e.call, e.mem.lib.dl.handle)) =
        [(.fmConnect (newConnectParams []), none)] :=
  ⟨by decide, rfl⟩

end Nvfm
