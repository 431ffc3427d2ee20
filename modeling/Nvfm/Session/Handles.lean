-- SUMMARY: What connecting and the operations of a handle return: exactly what their one call to C answered.
import Nvfm.Session.Connections

/-!
# Handles and their C Handles

Connecting returns a handle for each pointer `fmConnect` answers with `SUCCESS`,
and no other. The operations of a handle pass that pointer on for as long as the
handle exists, and return what C answers, code and structure, as it is.
-/

namespace Nvfm

open Go Interaction Prog DynamicLibrary Return

/-- What an operation of a handle makes of the answer to its call. -/
def Call.handled : (c : Call) → Nvfm.Answer c → HandleResult
  | .fmGetSupportedFabricPartitions _ _, answer => .supported answer.2 answer.1
  | .fmGetUnsupportedFabricPartitions _ _, answer => .unsupported answer.2 answer.1
  | .fmGetNvlinkFailedDevices _ _, answer => .failed answer.2 answer.1
  | .fmDisconnect _, answer | .fmActivateFabricPartition _ _, answer
  | .fmActivateFabricPartitionWithVFs _ _ _ _, answer | .fmDeactivateFabricPartition _ _, answer
  | .fmSetActivatedFabricPartitions _ _, answer => .plain answer
  | _, _ => .plain GENERIC_ERROR

/-- The C handle a call is about. -/
def Call.handle : Call → Option Pointer
  | .fmDisconnect h | .fmGetSupportedFabricPartitions h _ | .fmGetUnsupportedFabricPartitions h _
  | .fmActivateFabricPartition h _ | .fmActivateFabricPartitionWithVFs h _ _ _
  | .fmDeactivateFabricPartition h _ | .fmSetActivatedFabricPartitions h _
  | .fmGetNvlinkFailedDevices h _ => h
  | _ => none

namespace HandleOp

variable {σ : Type} (fm : FabricManager)

/-- What an operation returns: `BADPARAM` without a call, or the answer to its call. -/
inductive Answered (s : σ) (op : HandleOp) : HandleResult → World σ Answer → Prop where
  | refused (hc : op.call fm = none) : Answered s op (.plain BADPARAM) ⟨s, []⟩
  | called {c : Call} (hc : op.call fm = some c) (r : Answer c) :
      Answered s op (c.handled r) ⟨s, [⟨s, c, r⟩]⟩

/-- An operation that makes its call and returns its answer. -/
theorem wp_answered_of_call {op : HandleOp} {s : σ} {c : Call} (hc : op.call fm = some c) :
    (Prog.call c fun r => .ret (c.handled r)).wp .recording (Answered fm s op) ⟨s, []⟩ := by
  simp only [wp_recording_call, wp_recording_ret]
  exact fun r => .called hc r

theorem wp_answered (op : HandleOp) (s : σ) :
    (op.prog fm).wp .recording (Answered fm s op) ⟨s, []⟩ := by
  cases op with
  | ActivateFabricPartitionWithVFs id vfs =>
      simp only [prog, FabricManager.ActivateFabricPartitionWithVFs]
      split
      · next hlong => exact .refused (if_pos hlong)
      · next hlong =>
          split
          · next hnil =>
              have hcall : call fm (.ActivateFabricPartitionWithVFs id vfs) =
                  some (.fmActivateFabricPartitionWithVFs fm.handle id none 0) := by
                simp [call, hnil]
              exact wp_answered_of_call fm hcall
          · next hne =>
              have hcall : call fm (.ActivateFabricPartitionWithVFs id vfs) =
                  some (.fmActivateFabricPartitionWithVFs fm.handle id (some vfs)
                    vfs.length.toUInt32) := by
                rw [call, if_neg hlong, if_neg hne]
              exact wp_answered_of_call fm hcall
  | SetActivatedFabricPartitions ids =>
      simp only [prog, FabricManager.SetActivatedFabricPartitions]
      split
      · next hlong => exact .refused (dif_pos hlong)
      · next hlong =>
          have hcall : call fm (.SetActivatedFabricPartitions ids) =
              some (.fmSetActivatedFabricPartitions fm.handle
                (FabricManager.activatedList ids (Nat.le_of_not_lt hlong))) := by
            rw [call, dif_neg hlong]
          exact wp_answered_of_call fm hcall
  | Disconnect => exact wp_answered_of_call fm rfl
  | GetSupportedFabricPartitions => exact wp_answered_of_call fm rfl
  | GetUnsupportedFabricPartitions => exact wp_answered_of_call fm rfl
  | ActivateFabricPartition id => exact wp_answered_of_call fm rfl
  | DeactivateFabricPartition id => exact wp_answered_of_call fm rfl
  | GetNvlinkFailedDevices => exact wp_answered_of_call fm rfl

/-- Every call of a handle passes its C handle. -/
theorem handle_of_call {op : HandleOp} {fm : FabricManager} {c : Call} (hc : op.call fm = some c) :
    c.handle = fm.handle := by
  cases op with
  | ActivateFabricPartitionWithVFs id vfs =>
      simp only [call] at hc
      split at hc
      · cases hc
      · obtain rfl := Option.some.inj hc
        rfl
  | SetActivatedFabricPartitions ids =>
      simp only [call] at hc
      split at hc
      · cases hc
      · obtain rfl := Option.some.inj hc
        rfl
  | _ =>
      obtain rfl := Option.some.inj hc
      rfl

end HandleOp

namespace Library

variable {σ : Type}

/-- What connecting makes of the answer of `fmConnect`. -/
def connected (answer : Return × Option Pointer) : Option FabricManager × Return :=
  if answer.1 ≠ SUCCESS then (none, answer.1)
  else match answer.2 with
    | none => (none, GENERIC_ERROR)
    | some handle => (some ⟨some handle⟩, SUCCESS)

theorem wp_connected {params : ConnectParams} {s : σ}
    {Q : Option FabricManager × Return → World σ Answer → Prop}
    (h : ∀ r : Return × Option Pointer, Q (connected r) ⟨s, [⟨s, .fmConnect params, r⟩]⟩) :
    (ConnectWithParams params).wp .recording Q ⟨s, []⟩ := by
  simp only [ConnectWithParams, invoke_bind, wp_recording_call]
  intro answer
  have hanswer := h answer
  unfold connected at hanswer
  split
  · next hret =>
      rw [if_pos hret] at hanswer
      exact hanswer
  · next hret =>
      rw [if_neg hret] at hanswer
      split
      · next hnil =>
          rw [hnil] at hanswer
          exact hanswer
      · next handle hhandle =>
          rw [hhandle] at hanswer
          exact hanswer

/-- There is a handle exactly with the code `SUCCESS`. -/
theorem isSome_connected (answer : Return × Option Pointer) :
    (connected answer).1.isSome ↔ (connected answer).2 = SUCCESS := by
  obtain ⟨ret, handle⟩ := answer
  by_cases hret : ret = SUCCESS
  · cases handle with
    | none => simp [connected, hret, GENERIC_ERROR, SUCCESS]
    | some p => simp [connected, hret]
  · simp [connected, hret]

end Library

namespace ConnectionOp

/-- The parameters an operation connects with. -/
def connects : ConnectionOp → Option ConnectParams
  | Connect opts => some (newConnectParams opts)
  | ConnectWithParams params => some params
  | _ => none

/-- What an operation returns and leaves behind, for each answer of C. -/
inductive Exact (s : Connections) :
    ConnectionOp → ConnectionResult → World Connections Answer → Prop where
  | lifecycle {op : LifecycleOp} {ret : Return} {w : World Library Answer}
      (h : op.Outcome s.lib ret w) :
      Exact s (.lifecycle op) (.code ret) (w.within Connections.libLens s)
  | connected {op : ConnectionOp} {params : ConnectParams} (hop : op.connects = some params)
      (r : Return × Option Pointer) :
      Exact s op (.connected (Library.connected r).1 (Library.connected r).2)
        ⟨s.add (Library.connected r).1, [⟨s, .fmConnect params, r⟩]⟩
  | missing {i : ℕ} {op : HandleOp} (hfm : s.handles[i]? = none) :
      Exact s (.handle i op) .missing ⟨s, []⟩
  | refused {i : ℕ} {op : HandleOp} {fm : FabricManager} (hfm : s.handles[i]? = some fm)
      (hc : op.call fm = none) : Exact s (.handle i op) (.handled (.plain BADPARAM)) ⟨s, []⟩
  | handled {i : ℕ} {op : HandleOp} {fm : FabricManager} (hfm : s.handles[i]? = some fm) {c : Call}
      (hc : op.call fm = some c) (r : Answer c) :
      Exact s (.handle i op) (.handled (c.handled r)) ⟨s, [⟨s, c, r⟩]⟩

theorem exact_of_connects {op : ConnectionOp} {s : Connections} {params : ConnectParams}
    (hop : op.connects = some params) :
    (Library.ConnectWithParams params >>= fun answer =>
      update (Connections.add answer.1) >>= fun _ =>
        pure (.connected answer.1 answer.2)).wp .recording (Exact s op) ⟨s, []⟩ := by
  rw [wp_bind]
  refine Library.wp_connected ?_
  intro r
  rw [update_bind, wp_recording_modify]
  exact .connected hop r

theorem exact_specifies : Specifies prog fun op s => Exact s op := by
  intro op s
  cases op with
  | lifecycle op =>
      unfold prog
      rw [wp_bind, ← World.within_start Connections.libLens s]
      exact wp_zoom (wp_mono (fun _ _ h => .lifecycle h) (LifecycleOp.specifies op s.lib))
  | Connect opts => exact exact_of_connects rfl
  | ConnectWithParams params => exact exact_of_connects rfl
  | handle i op =>
      simp only [prog, load_bind, wp_recording_get]
      split
      · next hfm => exact .missing hfm
      · next fm hfm =>
          rw [wp_bind]
          refine wp_mono ?_ (HandleOp.wp_answered fm op s)
          intro a w ha
          cases ha with
          | refused hc => exact .refused hfm hc
          | called hc r => exact .handled hfm hc r

end ConnectionOp

/-! ## Where handles come from -/

/-- The pointer a call of `fmConnect` answers with `SUCCESS`. -/
def connectedTo {σ : Type} (e : Event σ Answer) : Option Pointer :=
  match e with
  | ⟨_, .fmConnect _, answer⟩ => if answer.1 = SUCCESS then answer.2 else none
  | _ => none

/-- The pointers `fmConnect` has answered with `SUCCESS`, in order. -/
def connections {σ : Type} (es : List (Event σ Answer)) : List Pointer := es.filterMap connectedTo

/-- A handle around a pointer of C. -/
def FabricManager.of (p : Pointer) : FabricManager := ⟨some p⟩

@[simp] theorem FabricManager.handle_of (p : Pointer) : (of p).handle = some p := rfl

@[simp] theorem connections_append {σ : Type} (es fs : List (Event σ Answer)) :
    connections (es ++ fs) = connections es ++ connections fs :=
  List.filterMap_append

@[simp] theorem connections_within {σ τ : Type} (L : Lens σ τ) (s : σ) (es : List (Event τ Answer)) :
    connections (es.map (Event.within L s)) = connections es := by
  rw [connections, connections, List.filterMap_map]
  refine congrArg (List.filterMap · es) (funext ?_)
  rintro ⟨m, call, answer⟩
  cases call <;> rfl

/-- The lifecycle connects to nothing. -/
theorem LifecycleOp.Outcome.connections_eq {op : LifecycleOp} {l : Library} {ret : Return}
    {w : World Library Answer} (ho : op.Outcome l ret w) : connections w.events = [] := by
  have hopen : ∀ {err : GoError GoString} {l l' : Library} {es : List (Event Library Answer)},
      Open.Outcome Library.dlLens l err l' es → connections es = [] := by
    intro err l l' es ho
    cases ho <;> rfl
  have hclose : ∀ {err : GoError GoString} {l l' : Library} {es : List (Event Library Answer)},
      Close.Outcome Library.dlLens l err l' es → connections es = [] := by
    intro err l l' es hc
    cases hc <;> rfl
  cases op with
  | Init =>
      cases ho with
      | counted _ => rfl
      | openFailed _ ho _ => exact hopen ho
      | initFailed _ ho _ hc =>
          rw [connections_append, hopen ho, List.nil_append]
          exact (List.filterMap_cons_none rfl).trans (hclose hc)
      | initialised _ ho =>
          rw [connections_append, hopen ho]
          rfl
  | Shutdown =>
      cases ho with
      | uninitialized _ => rfl
      | counted _ => rfl
      | shutdownFailed _ _ _ => rfl
      | closeFailed _ _ hc _ => exact (List.filterMap_cons_none rfl).trans (hclose hc)
      | closed _ _ hc => exact (List.filterMap_cons_none rfl).trans (hclose hc)

/-- The operations of a handle connect to nothing. -/
theorem HandleOp.connections_eq {σ : Type} {op : HandleOp} {fm : FabricManager} {c : Call}
    (hc : op.call fm = some c) (s : σ) (r : Answer c) : connections [⟨s, c, r⟩] = [] := by
  cases op with
  | ActivateFabricPartitionWithVFs id vfs =>
      simp only [call] at hc
      split at hc
      · cases hc
      · obtain rfl := Option.some.inj hc
        rfl
  | SetActivatedFabricPartitions ids =>
      simp only [call] at hc
      split at hc
      · cases hc
      · obtain rfl := Option.some.inj hc
        rfl
  | _ =>
      obtain rfl := Option.some.inj hc
      rfl

/-- How an operation of the handle `i` uses the connection it was made for. -/
inductive Uses (p : Option Pointer) (op : HandleOp)
    (r : Record Connections Answer ConnectionOp ConnectionResult) : Prop where
  | missing (hp : p = none) (hresult : r.result = .missing) (hevents : r.after.events = [])
  | refused {q : Pointer} (hp : p = some q) (hc : op.call (.of q) = none)
      (hresult : r.result = .handled (.plain BADPARAM)) (hevents : r.after.events = [])
  | called {q : Pointer} (hp : p = some q) {c : Call} (hc : op.call (.of q) = some c)
      (hhandle : c.handle = some q) (answer : Answer c)
      (hresult : r.result = .handled (c.handled answer))
      (hevents : r.after.events = [⟨r.before, c, answer⟩])

/-- What a run says about where its handles come from. -/
structure Carries (l : Log Connections Answer ConnectionOp ConnectionResult) : Prop where
  handles : l.mem.handles = (connections l.events).map .of
  uses : Log.EachAfter (fun past r => ∀ i op, r.op = .handle i op →
    Uses (connections (past.flatMap (·.after.events)))[i]? op r) l.records
  results : ∀ r ∈ l.records, ∀ fm ret, r.result = .connected fm ret → (fm.isSome ↔ ret = SUCCESS)

section Carries

variable {l : Log Connections Answer ConnectionOp ConnectionResult} {op : ConnectionOp}
  {a : ConnectionResult} {w : World Connections Answer}

/-- Connecting adds a handle exactly when `fmConnect` gave one. -/
theorem toList_connected (s : Connections) (params : ConnectParams) (r : Return × Option Pointer) :
    (Library.connected r).1.toList = (connections [⟨s, .fmConnect params, r⟩]).map .of := by
  obtain ⟨ret, handle⟩ := r
  by_cases hret : ret = SUCCESS
  · cases handle <;> simp [Library.connected, connections, connectedTo, hret, FabricManager.of]
  · simp [Library.connected, connections, connectedTo, hret]

theorem Carries.append (h : Carries l) (he : ConnectionOp.Exact l.mem op a w) :
    Carries (l.append op a w) := by
  constructor
  case handles =>
    rw [Log.append_mem, Log.append_events, connections_append, List.map_append, ← h.handles]
    cases he with
    | lifecycle ho =>
        rw [World.within, connections_within, ho.connections_eq, List.map_nil, List.append_nil]
        rfl
    | connected hop r => exact congrArg _ (toList_connected l.mem _ r)
    | missing hfm => exact (List.append_nil _).symm
    | refused hfm hc => exact (List.append_nil _).symm
    | handled hfm hc r =>
        rw [HandleOp.connections_eq hc]
        exact (List.append_nil _).symm
  case uses =>
    refine h.uses.concat ?_
    rintro i op rfl
    have hlookup : l.mem.handles[i]? = (connections l.events)[i]?.map .of := by
      rw [h.handles, List.getElem?_map]
    cases he with
    | connected hop r => cases hop
    | missing hfm =>
        rw [hlookup, Option.map_eq_none_iff] at hfm
        exact .missing hfm rfl rfl
    | refused hfm hc =>
        rw [hlookup, Option.map_eq_some_iff] at hfm
        obtain ⟨q, hq, rfl⟩ := hfm
        exact .refused hq hc rfl rfl
    | handled hfm hc r =>
        rw [hlookup, Option.map_eq_some_iff] at hfm
        obtain ⟨q, hq, rfl⟩ := hfm
        exact .called hq hc (HandleOp.handle_of_call hc) r rfl rfl
  case results =>
    apply Log.forall_mem_append h.results
    intro fm ret hresult
    cases he with
    | connected hop r =>
        obtain ⟨rfl, rfl⟩ := ConnectionResult.connected.inj hresult
        exact Library.isSome_connected r
    | _ => cases hresult

end Carries

/-- Every handle a run returns is that of the next successful `fmConnect`, and each of
    its operations passes that connection's pointer and returns what C answers. -/
theorem handles_carry_connections (o : Oracle Answer) (opts : List LibraryOption)
    (ops : List ConnectionOp) :
    (connectionRun o opts ops).mem.handles =
      (connections (connectionRun o opts ops).events).map .of ∧
    Log.EachAfter (fun past r => ∀ i op, r.op = .handle i op →
      Uses (connections (past.flatMap (·.after.events)))[i]? op r)
      (connectionRun o opts ops).records ∧
    ∀ r ∈ (connectionRun o opts ops).records, ∀ fm ret, r.result = .connected fm ret →
      (fm.isSome ↔ ret = SUCCESS) := by
  have h : Carries (connectionRun o opts ops) := by
    refine ConnectionOp.exact_specifies.induction (I := Carries) ?_ ?_ o ops
    · exact ⟨rfl, Log.eachAfter_nil, List.forall_mem_nil _⟩
    · intro l op a w hl he
      exact hl.append he
  exact ⟨h.handles, h.uses, h.results⟩

end Nvfm
