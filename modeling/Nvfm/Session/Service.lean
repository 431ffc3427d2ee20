-- SUMMARY: The connections of the C library, and which of them the operations of each handle reach.
import Nvfm.Session.Handles
import Nvfm.Session.FabricManager

/-!
# Connections of the Fabric Manager

`nv_fm_agent.h` documents what the C library does with connections: it opens them
only while it is initialised, `fmLibShutdown` closes all of them, and a handle it
does not know is a bad parameter. It may use the address of a closed connection
again, so a handle kept too long can name somebody else's connection. Clients
that use a handle only between its `Connect` and its `Disconnect`, in the session
it was made in, always reach the connection it was made for.
-/

namespace Nvfm

open Go Interaction DynamicLibrary Return

/-! ## The documented service -/

/-- The C library: its open connections while it is initialised, each with its number
    and its handle, and how many it has opened. -/
structure Service where
  session : Option (List (ℕ × Pointer))
  opened : ℕ

namespace Service

def start : Service := ⟨none, 0⟩

/-- The number of the connection a handle stands for. -/
def number (x : Service) (h : Option Pointer) : Option ℕ :=
  match x.session, h with
  | some live, some p => (live.find? fun q => q.2 = p).map Prod.fst
  | _, _ => none

/-- The C library once `fmConnect` has opened a connection with the handle `p`. -/
def add (x : Service) (live : List (ℕ × Pointer)) (p : Pointer) : Service :=
  ⟨some (live ++ [(x.opened, p)]), x.opened + 1⟩

/-- The C library once the connection `i` is closed. -/
def remove (x : Service) (live : List (ℕ × Pointer)) (i : ℕ) : Service :=
  { x with session := some (live.filter fun q => q.1 ≠ i) }

/-- The C library after it answers the code `ret` about the handle `h`. -/
def asked (x : Service) (h : Option Pointer) (ret : Return) : Option Service :=
  match x.session with
  | none => if ret = UNINITIALIZED then some x else none
  | some _ =>
      match x.number h with
      | none => if ret = BADPARAM then some x else none
      | some _ => some x

/-- Any answer about an open connection will do. -/
theorem asked_of_number {x : Service} {live : List (ℕ × Pointer)} (hlive : x.session = some live)
    {h : Option Pointer} {i : ℕ} (hi : x.number h = some i) (ret : Return) :
    x.asked h ret = some x := by
  simp only [asked, hlive, hi]

end Service

section Protocol

variable {σ : Type}

/-- The C library as its header documents it. It gives a new connection a handle no
    open connection has, and any answer about a connection it knows. -/
def service : Protocol σ Answer Service where
  start := .start
  step x e :=
    match e with
    | ⟨_, .fmLibInit, ret⟩ =>
        match x.session with
        | none => some (if ret = SUCCESS then { x with session := some [] } else x)
        | some _ => if ret = IN_USE then some x else none
    | ⟨_, .fmLibShutdown, ret⟩ =>
        match x.session with
        | none => if ret = UNINITIALIZED then some x else none
        | some _ => if ret = SUCCESS then some { x with session := none } else none
    | ⟨_, .fmConnect _, answer⟩ =>
        match x.session with
        | none => if answer.1 = UNINITIALIZED then some x else none
        | some live =>
            if answer.1 ≠ SUCCESS then some x
            else match answer.2 with
              | none => some x
              | some p => if p ∈ live.map Prod.snd then none else some (x.add live p)
    | ⟨_, .fmDisconnect h, ret⟩ =>
        match x.session with
        | none => if ret = UNINITIALIZED then some x else none
        | some live =>
            match x.number h with
            | none => if ret = BADPARAM then some x else none
            | some i => some (if ret = SUCCESS then x.remove live i else x)
    | ⟨_, c, answer⟩ =>
        if c.isFm then x.asked c.handle (c.handled answer).ret else some x

variable {x x' : Service} {m : σ} {ret : Return}

/-- Only calls of the C library move it. -/
theorem service_fmEvents (es : List (Event σ Answer)) :
    service.after x es = service.after x (fmEvents es) := by
  induction es generalizing x with
  | nil => rfl
  | cons e es ih =>
      cases hfm : e.call.isFm with
      | true =>
          rw [fmEvents_cons_of_fm hfm, Protocol.after_cons, Protocol.after_cons]
          exact congrArg _ (funext fun _ => ih)
      | false =>
          have hstep : service.step x e = some x := by
            obtain ⟨m, call, answer⟩ := e
            cases call <;> first | rfl | cases hfm
          rw [fmEvents_cons_of_not_fm hfm, Protocol.after_cons, hstep]
          exact ih

/-- What the C library does depends on the calls alone. -/
theorem service_within {τ : Type} (L : Lens σ τ) (s : σ) (es : List (Event τ Answer)) :
    service.after x (es.map (Event.within L s)) = service.after x es := by
  induction es generalizing x with
  | nil => rfl
  | cons e es ih =>
      have hstep : service.step x (e.within L s) = service.step x e := by
        obtain ⟨m, call, answer⟩ := e
        cases call <;> rfl
      rw [List.map_cons, Protocol.after_cons, Protocol.after_cons, hstep]
      exact congrArg _ (funext fun _ => ih)

/-- One call is one step. -/
theorem service_one {e : Event σ Answer} : service.after x [e] = service.step x e :=
  Option.bind_fun_some _

theorem service_fmLibInit_down (hdown : x.session = none)
    (h : service.after x [⟨m, .fmLibInit, ret⟩] = some x') :
    x' = if ret = SUCCESS then { x with session := some [] } else x := by
  rw [service_one] at h
  simp only [service, hdown] at h
  exact (Option.some.inj h).symm

/-- Connecting opens a connection exactly when it returns a handle, one that no open
    connection has. -/
theorem service_fmConnect {live : List (ℕ × Pointer)} (hlive : x.session = some live)
    {params : ConnectParams} {answer : Return × Option Pointer}
    (h : service.after x [⟨m, .fmConnect params, answer⟩] = some x') :
    ((Library.connected answer).1 = none ∧ x' = x) ∨
      ∃ p, (Library.connected answer).1 = some (.of p) ∧ p ∉ live.map Prod.snd ∧
        x' = x.add live p := by
  obtain ⟨ret, handle⟩ := answer
  rw [service_one] at h
  simp only [service, hlive] at h
  split at h
  · next hret =>
      obtain rfl := Option.some.inj h
      exact .inl ⟨by simp [Library.connected, hret], rfl⟩
  · next hret =>
      obtain rfl : ret = SUCCESS := not_not.1 hret
      cases handle with
      | none =>
          obtain rfl := Option.some.inj h
          exact .inl ⟨rfl, rfl⟩
      | some p =>
          simp only at h
          split at h
          · cases h
          · next hp => exact .inr ⟨p, rfl, hp, (Option.some.inj h).symm⟩

/-- No operation but `Disconnect` moves the service. -/
theorem service_step_handle {live : List (ℕ × Pointer)} (hlive : x.session = some live) {op : HandleOp}
    (hop : op ≠ .Disconnect) {fm : FabricManager} {c : Call} (hc : op.call fm = some c) {i : ℕ}
    (hi : x.number c.handle = some i) {answer : Answer c} :
    service.step x ⟨m, c, answer⟩ = some x := by
  cases op with
  | Disconnect => exact absurd rfl hop
  | ActivateFabricPartitionWithVFs id vfs =>
      simp only [HandleOp.call] at hc
      split at hc
      · cases hc
      · obtain rfl := Option.some.inj hc
        exact Service.asked_of_number hlive hi _
  | SetActivatedFabricPartitions ids =>
      simp only [HandleOp.call] at hc
      split at hc
      · cases hc
      · obtain rfl := Option.some.inj hc
        exact Service.asked_of_number hlive hi _
  | _ =>
      obtain rfl := Option.some.inj hc
      exact Service.asked_of_number hlive hi _

/-- An operation on an open connection closes it or leaves the service as it is. -/
theorem service_handle {live : List (ℕ × Pointer)} (hlive : x.session = some live) {op : HandleOp}
    {fm : FabricManager} {c : Call} (hc : op.call fm = some c) {i : ℕ}
    (hi : x.number c.handle = some i) {answer : Answer c}
    (h : service.after x [⟨m, c, answer⟩] = some x') :
    (op = .Disconnect ∧ (c.handled answer).ret = SUCCESS ∧ x' = x.remove live i) ∨
      ((op = .Disconnect → (c.handled answer).ret ≠ SUCCESS) ∧ x' = x) := by
  rw [service_one] at h
  by_cases hop : op = .Disconnect
  · subst hop
    obtain rfl := Option.some.inj hc
    have hnumber : x.number fm.handle = some i := hi
    simp only [service, hlive, hnumber] at h
    obtain rfl := Option.some.inj h
    split
    · next hret => exact .inl ⟨rfl, hret, rfl⟩
    · next hret => exact .inr ⟨fun _ => hret, rfl⟩
  · rw [service_step_handle hlive hop hc hi] at h
    exact .inr ⟨fun hop' => absurd hop' hop, (Option.some.inj h).symm⟩

theorem service_fmLibShutdown_up (hup : x.session ≠ none)
    (h : service.after x [⟨m, .fmLibShutdown, ret⟩] = some x') :
    ret = SUCCESS ∧ x' = { x with session := none } := by
  obtain ⟨live, hlive⟩ := Option.ne_none_iff_exists'.1 hup
  rw [service_one] at h
  simp only [service, hlive] at h
  split at h
  · next hret => exact ⟨hret, (Option.some.inj h).symm⟩
  · cases h

end Protocol

/-! ## The service under the lifecycle -/

/-- What a call of the lifecycle does to the service, when the counter goes from `n` to
    `n'`: the first `Init` begins a session, the last `Shutdown` ends it. -/
inductive Service.Moved (x : Service) (n n' : ℕ) : Service → Prop where
  | kept (h : 0 < n ↔ 0 < n') : Moved x n n' x
  | begun (h : n = 0) (h' : 0 < n') : Moved x n n' { x with session := some [] }
  | ended (h : 0 < n) (h' : n' = 0) : Moved x n n' { x with session := none }

section Lifecycle

variable {l : Library} {ret : Return} {w : World Library Answer} {op : LifecycleOp} {x x' : Service}
  {n n' : ℕ}

theorem Library.Init.Reported.service (hr : Library.Init.Reported l ret w) (hl : Counts l n)
    (hw : Counts w.mem n') (hup : x.session.isSome ↔ 0 < n)
    (hclose : w.events.any failsToClose = false) (hx : service.after x w.events = some x') :
    x.Moved n n' x' := by
  have hdown : ¬ 0 < l.refcount → x.session = none := by
    intro hpos
    rw [hl.pos_iff, ← hup] at hpos
    exact Option.not_isSome_iff_eq_none.1 hpos
  rw [service_fmEvents] at hx
  cases hr with
  | counted hpos =>
      cases hx
      refine .kept (iff_of_true (hl.pos_iff.1 hpos) (Nat.pos_of_ne_zero ?_))
      exact hw.eq_zero_iff.not.1 (Refcount.add_one_ne_zero hpos)
  | openFailed hpos m =>
      cases hx
      exact .kept (by rw [← hl.pos_iff, ← hw.pos_iff])
  | initFailed hpos h hret =>
      obtain rfl := service_fmLibInit_down (hdown hpos) hx
      rw [if_neg hret]
      exact .kept (by rw [← hl.pos_iff, ← hw.pos_iff]; rfl)
  | closeFailed hpos h hret hst m => simp [closeFailedEvents, failsToClose, hst] at hclose
  | initialised hpos h =>
      obtain rfl := service_fmLibInit_down (hdown hpos) hx
      refine .begun (hl.eq_zero hpos) (hw.pos_iff.1 ?_)
      rw [Library.setRefcount_refcount]
      decide

theorem Library.Shutdown.Reported.service (hr : Library.Shutdown.Reported l ret w) (hl : Counts l n)
    (hw : Counts w.mem n') (hup : x.session.isSome ↔ 0 < n)
    (hclose : w.events.any failsToClose = false) (hx : service.after x w.events = some x') :
    x.Moved n n' x' := by
  have hsession : l.refcount ≠ 0 → 0 < n ∧ x.session ≠ none := by
    intro hzero
    have hn : 0 < n := Nat.pos_of_ne_zero (hl.eq_zero_iff.not.1 hzero)
    exact ⟨hn, Option.isSome_iff_ne_none.1 (hup.2 hn)⟩
  rw [service_fmEvents] at hx
  cases hr with
  | uninitialized hzero =>
      cases hx
      exact .kept (by rw [← hl.pos_iff, ← hw.pos_iff])
  | counted hone =>
      cases hx
      refine .kept (iff_of_true (Nat.zero_lt_of_lt (hl.one_lt_iff.1 hone)) (Nat.pos_of_ne_zero ?_))
      exact hw.eq_zero_iff.not.1 (Refcount.sub_one_ne_zero hone)
  | shutdownFailed hzero hone hret =>
      exact absurd (service_fmLibShutdown_up (hsession hzero).2 hx).1 hret
  | closeFailed hzero hone hh hst m => simp [closeFailedEvents, failsToClose, hst] at hclose
  | alreadyClosed hzero hone hnil =>
      obtain ⟨_, rfl⟩ := service_fmLibShutdown_up (hsession hzero).2 hx
      exact .ended (hsession hzero).1 (hw.eq_zero_iff.1 rfl)
  | closed hzero hone hh =>
      obtain ⟨_, rfl⟩ := service_fmLibShutdown_up (hsession hzero).2 hx
      exact .ended (hsession hzero).1 (hw.eq_zero_iff.1 rfl)

theorem LifecycleOp.Reported.service (hr : op.Reported l ret w) (hl : Counts l n)
    (hw : Counts w.mem n') (hup : x.session.isSome ↔ 0 < n)
    (hclose : w.events.any failsToClose = false) (hx : service.after x w.events = some x') :
    x.Moved n n' x' := by
  cases op with
  | Init => exact Library.Init.Reported.service hr hl hw hup hclose hx
  | Shutdown => exact Library.Shutdown.Reported.service hr hl hw hup hclose hx

end Lifecycle

/-! ## What a client knows -/

/-- What a client can tell from the results it got: the `Init` calls not given back, the
    handles it was given, and those of them it may still use. -/
structure Ledger where
  count : ℕ
  given : ℕ
  live : List ℕ

namespace Ledger

def start : Ledger := ⟨0, 0, []⟩

/-- The ledger once an operation has returned its result. -/
def note (k : Ledger) : ConnectionOp → ConnectionResult → Ledger
  | .lifecycle .Init, .code ret => if ret = SUCCESS then { k with count := k.count + 1 } else k
  | .lifecycle .Shutdown, .code ret =>
      if ret = SUCCESS then
        { k with count := k.count - 1, live := if k.count ≤ 1 then [] else k.live }
      else k
  | .handle i .Disconnect, .handled a =>
      if a.ret = SUCCESS then { k with live := k.live.filter (· ≠ i) } else k
  | _, .connected (some _) _ => { k with given := k.given + 1, live := k.live ++ [k.given] }
  | _, _ => k

def next (k : Ledger) (r : Record Connections Answer ConnectionOp ConnectionResult) : Ledger :=
  k.note r.op r.result

/-- The ledger once an operation of somebody else has returned its result: a handle that
    is not the client's takes a number all the same. -/
def skip (k : Ledger) : ConnectionResult → Ledger
  | .connected (some _) _ => { k with given := k.given + 1 }
  | _ => k

end Ledger

/-- The ledger after the operations `rs`. -/
def ledger (rs : List (Record Connections Answer ConnectionOp ConnectionResult)) : Ledger :=
  rs.foldl Ledger.next .start

@[simp] theorem ledger_concat (rs : List (Record Connections Answer ConnectionOp ConnectionResult))
    (r : Record Connections Answer ConnectionOp ConnectionResult) :
    ledger (rs ++ [r]) = (ledger rs).next r := by
  simp [ledger]

/-- The client connects only while it holds the library, and uses a handle only while
    its ledger says so. -/
def Ledger.Allows (k : Ledger) : ConnectionOp → Prop
  | .lifecycle _ => True
  | .Connect _ | .ConnectWithParams _ => 0 < k.count
  | .handle i _ => i ∈ k.live

instance (k : Ledger) : (op : ConnectionOp) → Decidable (k.Allows op)
  | .lifecycle _ => inferInstanceAs (Decidable True)
  | .Connect _ | .ConnectWithParams _ => inferInstanceAs (Decidable (0 < _))
  | .handle i _ => inferInstanceAs (Decidable (i ∈ _))

def Careful (rs : List (Record Connections Answer ConnectionOp ConnectionResult)) : Prop :=
  Log.EachAfter (fun past r => (ledger past).Allows r.op) rs

instance (rs : List (Record Connections Answer ConnectionOp ConnectionResult)) :
    Decidable (Careful rs) :=
  inferInstanceAs (Decidable (Log.EachAfter _ _))

/-! ## The ledger and the service -/

namespace Service

/-- The open connections, none without a session. -/
def live (x : Service) : List (ℕ × Pointer) := x.session.getD []

variable {x : Service} {live : List (ℕ × Pointer)} {i : ℕ} {p : Pointer}

theorem live_of_session (h : x.session = some live) : x.live = live := by
  rw [Service.live, h]
  rfl

/-- A handle names the connection that has it, when no two have the same. -/
theorem number_of_mem (h : x.session = some live) (hnodup : (live.map Prod.snd).Nodup)
    (hmem : (i, p) ∈ live) : x.number (some p) = some i := by
  simp only [number, h]
  clear h
  induction live with
  | nil => cases hmem
  | cons q live ih =>
      rw [List.map_cons, List.nodup_cons] at hnodup
      rcases List.mem_cons.1 hmem with rfl | hmem
      · simp
      · have hne : q.2 ≠ p := by
          rintro hq
          exact hnodup.1 (hq ▸ List.mem_map_of_mem hmem)
        rw [List.find?_cons_of_neg (by simpa using hne)]
        exact ih hnodup.2 hmem

theorem live_add : (x.add live p).live = live ++ [(x.opened, p)] := rfl

theorem live_remove : (x.remove live i).live = live.filter fun q => q.1 ≠ i := rfl

/-- A new handle keeps the handles of the open connections apart. -/
theorem nodup_add (h : x.session = some live) (hnodup : (x.live.map Prod.snd).Nodup)
    (hp : p ∉ live.map Prod.snd) : ((x.add live p).live.map Prod.snd).Nodup := by
  rw [live_of_session h] at hnodup
  rw [live_add, List.map_append, List.map_cons, List.map_nil]
  exact List.nodup_append_comm.1 (List.nodup_cons.2 ⟨hp, hnodup⟩)

theorem nodup_remove (h : x.session = some live) (hnodup : (x.live.map Prod.snd).Nodup) (i : ℕ) :
    ((x.remove live i).live.map Prod.snd).Nodup := by
  rw [live_of_session h] at hnodup
  rw [live_remove]
  exact hnodup.sublist (List.filter_sublist.map Prod.snd)

/-- An open connection is one of a session, and its handle names it. -/
theorem number_of_live (hnodup : (x.live.map Prod.snd).Nodup) (hmem : (i, p) ∈ x.live) :
    ∃ live, x.session = some live ∧ x.number (some p) = some i := by
  obtain ⟨live, hlive⟩ : ∃ live, x.session = some live := by
    cases hsession : x.session with
    | none => simp [Service.live, hsession] at hmem
    | some live => exact ⟨live, rfl⟩
  rw [live_of_session hlive] at hnodup hmem
  exact ⟨live, hlive, number_of_mem hlive hnodup hmem⟩

end Service

/-- How the ledger of the client agrees with the library, the handles and the service. -/
structure Serves (s : Connections) (k : Ledger) (x : Service) : Prop where
  counts : Counts s.lib k.count
  up : x.session.isSome ↔ 0 < k.count
  opened : x.opened = s.handles.length
  given : k.given = x.opened
  live : k.live = x.live.map Prod.fst
  nodup : (x.live.map Prod.snd).Nodup
  named : ∀ q ∈ x.live, s.handles[q.1]? = some (.of q.2)

section Serves

variable {s : Connections} {k : Ledger} {x x' : Service}

theorem Serves.start (opts : List LibraryOption) :
    Serves ⟨Library.newLibrary opts, []⟩ .start .start where
  counts := .newLibrary opts
  up := iff_of_false Bool.false_ne_true (Nat.lt_irrefl 0)
  opened := rfl
  given := rfl
  live := rfl
  nodup := List.nodup_nil
  named := List.forall_mem_nil _

/-- A handle the client may use names the connection it was made for. -/
theorem Serves.number_of_live (h : Serves s k x) {i : ℕ} (hi : i ∈ k.live) :
    ∃ live p, x.session = some live ∧ s.handles[i]? = some (.of p) ∧ x.number (some p) = some i := by
  rw [h.live] at hi
  obtain ⟨⟨j, p⟩, hq, rfl⟩ := List.mem_map.1 hi
  obtain ⟨live, hlive, hnumber⟩ := Service.number_of_live h.nodup hq
  exact ⟨live, p, hlive, h.named _ hq, hnumber⟩

/-- What the results of `Init` and `Shutdown` say about the counter. -/
theorem Ledger.note_lifecycle {op : LifecycleOp} {ret : Return} {n' : ℕ}
    (hstep : Counted.Step k.count op.request (ret = SUCCESS) n') :
    k.note (.lifecycle op) (.code ret) =
      { k with count := n', live := if 0 < k.count ∧ n' = 0 then [] else k.live } := by
  generalize hcount : k.count = n at hstep
  cases op with
  | Init =>
      generalize hgranted : decide (ret = SUCCESS) = granted at hstep
      cases hstep with
      | acquired => simp [Ledger.note, of_decide_eq_true hgranted, hcount]
      | notAcquired => simp [Ledger.note, of_decide_eq_false hgranted, ← hcount]
  | Shutdown =>
      generalize hgranted : decide (ret = SUCCESS) = granted at hstep
      cases hstep with
      | released => simp [Ledger.note, of_decide_eq_true hgranted, hcount]
      | notReleased hn =>
          have hlive : ¬ (0 < k.count ∧ k.count = 0) := fun h => Nat.ne_of_gt h.1 h.2
          rw [← hcount, if_neg hlive]
          simp [Ledger.note, of_decide_eq_false hgranted]

theorem Serves.lifecycle (h : Serves s k x) {l : Library} {n' : ℕ} (hl : Counts l n')
    (hmoved : x.Moved k.count n' x') :
    Serves { s with lib := l }
      { k with count := n', live := if 0 < k.count ∧ n' = 0 then [] else k.live } x' := by
  cases hmoved with
  | kept hsame =>
      have hlive : ¬ (0 < k.count ∧ n' = 0) := fun hend => Nat.ne_of_gt (hsame.1 hend.1) hend.2
      rw [if_neg hlive]
      exact ⟨hl, h.up.trans hsame, h.opened, h.given, h.live, h.nodup, h.named⟩
  | begun hzero hpos =>
      have hdown : x.session = none := by
        have hup := h.up.not.2 (hzero ▸ Nat.lt_irrefl 0)
        exact Option.not_isSome_iff_eq_none.1 hup
      have hlive : k.live = [] := by
        rw [h.live, Service.live, hdown]
        rfl
      rw [if_neg (fun hend => Nat.ne_of_gt hpos hend.2), hlive]
      exact ⟨hl, iff_of_true rfl hpos, h.opened, h.given, rfl, List.nodup_nil, List.forall_mem_nil _⟩
  | ended hpos hzero =>
      rw [if_pos ⟨hpos, hzero⟩]
      refine ⟨hl, iff_of_false Bool.false_ne_true ?_, h.opened, h.given, rfl, List.nodup_nil,
        List.forall_mem_nil _⟩
      exact fun hn => Nat.ne_of_gt hn hzero

/-- A new connection has the next number, and a handle no open connection has. -/
theorem Serves.add (h : Serves s k x) {live : List (ℕ × Pointer)} (hlive : x.session = some live)
    {p : Pointer} (hp : p ∉ live.map Prod.snd) :
    Serves (s.add (some (.of p))) { k with given := k.given + 1, live := k.live ++ [k.given] }
      (x.add live p) := by
  have hx : x.live = live := Service.live_of_session hlive
  have hcount : 0 < k.count := h.up.1 (hlive ▸ rfl)
  constructor
  case counts => exact h.counts
  case up => exact iff_of_true rfl hcount
  case opened => simp [Service.add, Connections.add, h.opened]
  case given => simp [Service.add, h.given]
  case live =>
    have hk := h.live
    rw [hx] at hk
    simp [Service.live, Service.add, hk, h.given]
  case nodup => exact Service.nodup_add hlive h.nodup hp
  case named =>
    intro q hq
    simp only [Service.live, Service.add, Option.getD_some, List.mem_append, List.mem_singleton] at hq
    simp only [Connections.add, Option.toList_some]
    rcases hq with hq | rfl
    · have hnamed := h.named q (hx ▸ hq)
      rw [List.getElem?_append_left (List.getElem?_eq_some_iff.1 hnamed).1]
      exact hnamed
    · rw [h.opened]
      exact List.getElem?_concat_length

/-- Closing a connection takes its number from both sides. -/
theorem Serves.remove (h : Serves s k x) {live : List (ℕ × Pointer)} (hlive : x.session = some live)
    (i : ℕ) : Serves s { k with live := k.live.filter (· ≠ i) } (x.remove live i) := by
  have hx : x.live = live := Service.live_of_session hlive
  constructor
  case counts => exact h.counts
  case up => exact iff_of_true rfl (h.up.1 (hlive ▸ rfl))
  case opened => exact h.opened
  case given => exact h.given
  case live =>
    have hk := h.live
    rw [hx] at hk
    simp only [Service.live, Service.remove, Option.getD_some, hk, List.filter_map]
    rfl
  case nodup => exact Service.nodup_remove hlive h.nodup i
  case named =>
    intro q hq
    exact h.named q (hx ▸ (List.mem_filter.1 hq).1)

end Serves

/-! ## Runs -/

/-- The call is a `dlclose` that fails. -/
def closeFails {σ : Type} (e : Event σ Answer) : Bool :=
  match e with
  | ⟨_, .dlclose _, status⟩ => status ≠ 0
  | _ => false

theorem closeFails_within {σ : Type} (L : Lens σ Library) (s : σ) (es : List (Event Library Answer)) :
    (es.map (Event.within L s)).any closeFails = es.any failsToClose := by
  rw [List.any_map]
  refine congrArg (List.any es) (funext ?_)
  rintro ⟨m, call, answer⟩
  cases call <;> rfl

/-- What an operation finds in the service `x`: a session to connect in, and for a
    handle the connection it was made for. -/
structure Reaches (x : Service) (r : Record Connections Answer ConnectionOp ConnectionResult) :
    Prop where
  session : ∀ params, r.op.connects = some params → x.session.isSome
  number : ∀ i op, r.op = .handle i op → r.before.handles[i]?.isSome ∧
    ∀ e ∈ r.after.events, x.number e.call.handle = some i

section Step

variable {s : Connections} {k : Ledger} {x x' : Service} {op : ConnectionOp} {a : ConnectionResult}
  {w : World Connections Answer}

/-- An operation reaches what it needs when connecting finds a session, and a handle names
    the connection it was made for. -/
theorem ConnectionOp.Exact.reaches (he : ConnectionOp.Exact s op a w)
    (hsession : ∀ params, op.connects = some params → x.session.isSome)
    (hnumber : ∀ i hop, op = .handle i hop →
      ∃ p, s.handles[i]? = some (.of p) ∧ x.number (some p) = some i) :
    Reaches x ⟨op, a, s, w⟩ := by
  refine ⟨hsession, ?_⟩
  rintro i op rfl
  obtain ⟨p, hp, hi⟩ := hnumber i op rfl
  refine ⟨hp ▸ rfl, ?_⟩
  intro e he'
  cases he with
  | connected hop r => cases hop
  | missing hfm => cases he'
  | refused hfm hc => cases he'
  | handled hfm hc r =>
      obtain rfl := List.mem_singleton.1 he'
      obtain rfl := Option.some.inj (hfm.symm.trans hp)
      rw [HandleOp.handle_of_call hc]
      exact hi

theorem Ledger.note_connected {params : ConnectParams} (hop : op.connects = some params)
    (fm : Option FabricManager) (ret : Return) :
    k.note op (.connected fm ret) = match fm with
      | none => k
      | some _ => { k with given := k.given + 1, live := k.live ++ [k.given] } := by
  cases op with
  | Connect opts => cases fm <;> rfl
  | ConnectWithParams params => cases fm <;> rfl
  | lifecycle op => cases hop
  | handle i op => cases hop

/-- An operation of a handle that closes nothing is not in the ledger. -/
theorem Ledger.note_handled {i : ℕ} {op : HandleOp} {r : HandleResult}
    (hret : op = .Disconnect → r.ret ≠ SUCCESS) : k.note (.handle i op) (.handled r) = k := by
  cases op with
  | Disconnect => exact if_neg (hret rfl)
  | _ => rfl

/-- What connecting and the operations of a handle do to the handles and the service: they
    open a connection, close one, or leave everything as it is. -/
inductive Service.Used (s : Connections) (x : Service) (op : ConnectionOp) (a : ConnectionResult) :
    Connections → Service → Prop where
  | kept (hnote : ∀ k : Ledger, k.note op a = k) (hskip : ∀ k : Ledger, k.skip a = k) :
      Used s x op a s x
  | opened {live : List (ℕ × Pointer)} {p : Pointer} (hlive : x.session = some live)
      (hp : p ∉ live.map Prod.snd)
      (hnote : ∀ k : Ledger, k.note op a =
        { k with given := k.given + 1, live := k.live ++ [k.given] })
      (hskip : ∀ k : Ledger, k.skip a = { k with given := k.given + 1 }) :
      Used s x op a (s.add (some (.of p))) (x.add live p)
  | closed {live : List (ℕ × Pointer)} {i : ℕ} (hlive : x.session = some live)
      (hop : op = .handle i .Disconnect)
      (hnote : ∀ k : Ledger, k.note op a = { k with live := k.live.filter (· ≠ i) })
      (hskip : ∀ k : Ledger, k.skip a = k) : Used s x op a s (x.remove live i)

/-- With what they need, connecting and the operations of a handle do no more than that. -/
theorem ConnectionOp.Exact.used (he : ConnectionOp.Exact s op a w) (hop : op.isLifecycle = false)
    (hsession : ∀ params, op.connects = some params → x.session.isSome)
    (hnumber : ∀ i hop, op = .handle i hop →
      ∃ p, s.handles[i]? = some (.of p) ∧ x.number (some p) = some i)
    (hx : service.after x w.events = some x') : x.Used s op a w.mem x' := by
  cases he with
  | lifecycle ho => cases hop
  | @connected op params hconnects r =>
      obtain ⟨live, hlive⟩ := Option.isSome_iff_exists.1 (hsession params hconnects)
      rcases service_fmConnect hlive hx with ⟨hnone, rfl⟩ | ⟨p, hsome, hp, rfl⟩
      · simp only [hnone, Connections.add, Option.toList_none, List.append_nil]
        exact .kept (fun k => Ledger.note_connected hconnects none _) (fun _ => rfl)
      · simp only [hsome]
        exact .opened hlive hp (fun k => Ledger.note_connected hconnects (some (.of p)) _)
          (fun _ => rfl)
  | @missing i op hfm =>
      obtain ⟨p, hp, _⟩ := hnumber i op rfl
      cases hfm.symm.trans hp
  | refused hfm hc =>
      obtain rfl := Option.some.inj hx
      exact .kept (fun k => Ledger.note_handled (fun _ => by decide)) (fun _ => rfl)
  | @handled i op fm hfm c hc r =>
      obtain ⟨p, hp, hi⟩ := hnumber i op rfl
      obtain rfl := Option.some.inj (hfm.symm.trans hp)
      obtain ⟨live, hlive⟩ : ∃ live, x.session = some live := by
        cases hsession : x.session with
        | none => simp [Service.number, hsession] at hi
        | some live => exact ⟨live, rfl⟩
      rw [← FabricManager.handle_of p, ← HandleOp.handle_of_call hc] at hi
      rcases service_handle hlive hc hi hx with ⟨rfl, hret, rfl⟩ | ⟨hret, rfl⟩
      · exact .closed hlive rfl (fun k => if_pos hret) (fun _ => rfl)
      · exact .kept (fun k => Ledger.note_handled hret) (fun _ => rfl)

/-- A careful operation finds what it needs. -/
theorem Serves.session (h : Serves s k x) (hallows : k.Allows op) {params : ConnectParams}
    (hop : op.connects = some params) : x.session.isSome := by
  refine h.up.2 ?_
  cases op with
  | Connect opts => exact hallows
  | ConnectWithParams params => exact hallows
  | lifecycle op => cases hop
  | handle i op => cases hop

theorem Serves.number (h : Serves s k x) (hallows : k.Allows op) {i : ℕ} {hop : HandleOp}
    (heq : op = .handle i hop) : ∃ p, s.handles[i]? = some (.of p) ∧ x.number (some p) = some i := by
  subst heq
  obtain ⟨live, p, _, hp, hnumber⟩ := h.number_of_live hallows
  exact ⟨p, hp, hnumber⟩

theorem Serves.used {s' : Connections} (h : Serves s k x) (hused : x.Used s op a s' x') :
    Serves s' (k.note op a) x' ∧ (k.note op a).count ≤ k.count + 1 := by
  cases hused with
  | kept hnote hskip =>
      rw [hnote]
      exact ⟨h, Nat.le_succ _⟩
  | opened hlive hp hnote hskip =>
      rw [hnote]
      exact ⟨h.add hlive hp, Nat.le_succ _⟩
  | closed hlive hop hnote hskip =>
      rw [hnote]
      exact ⟨h.remove hlive _, Nat.le_succ _⟩

/-- A careful operation keeps the ledger and the service in agreement. -/
theorem Serves.next (h : Serves s k x) (hallows : k.Allows op) (he : ConnectionOp.Exact s op a w)
    {b b' : Bool} (hb : dlerrorReports.after b w.events = some b')
    (hclose : w.events.any closeFails = false) (hcount : k.count + 1 < 2 ^ 63)
    (hx : service.after x w.events = some x') :
    Serves w.mem (k.note op a) x' ∧ (k.note op a).count ≤ k.count + 1 := by
  have hsession : ∀ params, op.connects = some params → x.session.isSome :=
    fun _ => h.session hallows
  have hnumber : ∀ i hop, op = .handle i hop →
      ∃ p, s.handles[i]? = some (.of p) ∧ x.number (some p) = some i :=
    fun _ _ => h.number hallows
  cases op with
  | lifecycle op =>
      cases he with
      | connected hop r => cases hop
      | lifecycle ho =>
          rw [World.within] at hb hclose hx
          rw [dlerrorReports_within] at hb
          rw [closeFails_within] at hclose
          rw [service_within] at hx
          obtain ⟨n', hw, hstep⟩ := ho.step h.counts hcount
          rw [Ledger.note_lifecycle hstep]
          refine ⟨?_, hstep.le_succ⟩
          exact h.lifecycle hw ((ho.reported hb).service h.counts hw h.up hclose hx)
  | Connect opts => exact h.used (he.used rfl hsession hnumber hx)
  | ConnectWithParams params => exact h.used (he.used rfl hsession hnumber hx)
  | handle i op => exact h.used (he.used rfl hsession hnumber hx)

end Step

/-- What a careful run says about the service. -/
structure Reached (l : Log Connections Answer ConnectionOp ConnectionResult) (x : Service) : Prop where
  serves : Serves l.mem (ledger l.records) x
  bound : (ledger l.records).count ≤ l.records.length
  state : service.after .start l.events = some x
  reaches : Log.EachAfter (fun past r =>
    ∃ x, service.after .start (past.flatMap (·.after.events)) = some x ∧ Reaches x r) l.records

theorem reached_of_accepts {o : Oracle Answer} {opts : List LibraryOption} {ops : List ConnectionOp}
    (hlen : ops.length < 2 ^ 63) (hcareful : Careful (connectionRun o opts ops).records)
    (hrep : dlerrorReports.Accepts (connectionRun o opts ops).events)
    (hdoc : service.Accepts (connectionRun o opts ops).events)
    (hclose : (connectionRun o opts ops).events.any closeFails = false) :
    ∃ x, Reached (connectionRun o opts ops) x := by
  obtain ⟨b, hb⟩ := Option.isSome_iff_exists.1 hrep
  obtain ⟨x, hx⟩ := Option.isSome_iff_exists.1 hdoc
  refine ⟨x, ?_⟩
  have hrun : Careful (connectionRun o opts ops).records →
      (connectionRun o opts ops).events.any closeFails = false →
      Reached (connectionRun o opts ops) (b, x).2 := by
    refine ConnectionOp.exact_specifies.protocol_induction_lt (dlerrorReports.prod service)
      (I := fun l x => Careful l.records → l.events.any closeFails = false → Reached l x.2)
      ?_ ?_ hlen (Protocol.after_prod_eq_some.2 ⟨hb, hx⟩)
    · intro _ _
      exact ⟨.start opts, Nat.le_refl 0, rfl, Log.eachAfter_nil⟩
    · rintro l ⟨b, x⟩ op a w ⟨b', x'⟩ hlt ih he hx hcareful hclose
      obtain ⟨hb, hx⟩ := Protocol.after_prod_eq_some.1 hx
      rw [Log.append_records] at hcareful
      rw [Log.append_events, List.any_append, Bool.or_eq_false_iff] at hclose
      have h := ih hcareful.of_append hclose.1
      have hallows : (ledger l.records).Allows op := hcareful l.records _ [] rfl
      obtain ⟨hserves, hcount⟩ := h.serves.next hallows he hb hclose.2
        (Nat.lt_of_le_of_lt (Nat.succ_le_succ h.bound) hlt) hx
      constructor
      case serves =>
        rw [Log.append_records, ledger_concat]
        exact hserves
      case bound =>
        rw [Log.append_records, ledger_concat, List.length_append]
        exact hcount.trans (Nat.succ_le_succ h.bound)
      case state =>
        rw [Log.append_events, Protocol.after_append_of_eq h.state]
        exact hx
      case reaches =>
        refine h.reaches.concat ⟨x, h.state, he.reaches ?_ ?_⟩
        · exact fun _ => h.serves.session hallows
        · exact fun _ _ => h.serves.number hallows
  exact hrun hcareful hclose

/-- A client that connects only while it holds the library, and uses a handle only
    between its `Connect` and its `Disconnect` in one session, always connects to an
    initialised C library, and reaches with the handle `i` the connection `i`, even
    though C may use the addresses of closed connections again. -/
theorem handles_reach_their_connection (o : Oracle Answer) (opts : List LibraryOption)
    (ops : List ConnectionOp) (hlen : ops.length < 2 ^ 63)
    (hcareful : Careful (connectionRun o opts ops).records)
    (hrep : dlerrorReports.Accepts (connectionRun o opts ops).events)
    (hdoc : service.Accepts (connectionRun o opts ops).events)
    (hclose : (connectionRun o opts ops).events.any closeFails = false) :
    Log.EachAfter (fun past r =>
      ∃ x, service.after .start (past.flatMap (·.after.events)) = some x ∧ Reaches x r)
      (connectionRun o opts ops).records := by
  obtain ⟨x, h⟩ := reached_of_accepts hlen hcareful hrep hdoc hclose
  exact h.reaches

/-- Two connections, the second one at the address of the first. -/
def reusedRun : Log Connections Answer ConnectionOp ConnectionResult :=
  connectionRun (fun _ c => c.succeed) []
    [.lifecycle .Init, .Connect [], .handle 0 .Disconnect, .Connect [],
      .handle 1 (.ActivateFabricPartition 3)]

theorem handles_reach_their_connection_reused :
    Log.EachAfter (fun past r =>
      ∃ x, service.after .start (past.flatMap (·.after.events)) = some x ∧ Reaches x r)
      reusedRun.records :=
  handles_reach_their_connection _ _ _ (by decide) (by decide) (by decide) (by decide) (by decide)

/-- A handle kept after its `Disconnect` stands for the connection at its address now. -/
example : (service.after .start reusedRun.events).bind
    (fun x => x.number (reusedRun.mem.handles[0]?.bind (·.handle))) = some 1 := by
  decide

end Nvfm
