-- SUMMARY: Package dl: opening, closing and searching a shared library, with the outcomes of each operation.
import Nvfm.Bindings.Calls
import Nvfm.Interaction.Log

/-!
# Package `dl`

`DynamicLibrary` and its operations, after `pkg/dl/dl.go`. The value may be a
part of a larger memory: each operation is specified through the lens that
reaches it.
-/

namespace Nvfm

open Go Interaction Prog

def RTLD_LAZY : Int64 := 0x1
def RTLD_GLOBAL : Int64 := 0x100

structure DynamicLibrary where
  Name : GoString
  Flags : Int64
  handle : Option Pointer
deriving DecidableEq

namespace DynamicLibrary

variable {σ M : Type}

/-- `dl.New`. -/
def New (name : GoString) (flags : Int64) : DynamicLibrary := ⟨name, flags, none⟩

/-- The library with its handle replaced. -/
def setHandle (h : Option Pointer) (dl : DynamicLibrary) : DynamicLibrary := { dl with handle := h }

@[simp] theorem setHandle_Name (h : Option Pointer) (dl : DynamicLibrary) :
    (dl.setHandle h).Name = dl.Name := rfl
@[simp] theorem setHandle_Flags (h : Option Pointer) (dl : DynamicLibrary) :
    (dl.setHandle h).Flags = dl.Flags := rfl
@[simp] theorem setHandle_handle (h : Option Pointer) (dl : DynamicLibrary) :
    (dl.setHandle h).handle = h := rfl

/-- `withOSLock`: the action runs pinned to one thread. -/
def withOSLock (action : Prog σ (Call.Answer M) (GoError M)) :
    Prog σ (Call.Answer M) (GoError M) := do
  let _ ← invoke Call.lockOSThread
  let err ← action
  let _ ← invoke Call.unlockOSThread
  return err

/-- The error `dlError` makes of the answer of `dlerror`. -/
def errorOf : Option M → GoError M
  | none => .nil
  | some lastErr => .new lastErr

@[simp] theorem errorOf_none : (errorOf none : GoError M) = .nil := rfl
@[simp] theorem errorOf_some (m : M) : errorOf (some m) = .new m := rfl

/-- `dlError`. -/
def dlError : Prog σ (Call.Answer M) (GoError M) := do
  let lastErr ← invoke Call.dlerror
  return errorOf lastErr

/-- `(*DynamicLibrary).Open`. -/
def Open : Prog DynamicLibrary (Call.Answer M) (GoError M) := do
  let name := CString (← load).Name
  withOSLock do
    let handle : Option Pointer ← invoke (Call.dlopen name (← load).Flags.toInt32)
    match handle with
    | none => dlError
    | some h =>
        update (setHandle (some h))
        return .nil

/-- `(*DynamicLibrary).Close`. -/
def Close : Prog DynamicLibrary (Call.Answer M) (GoError M) := do
  if (← load).handle = none then
    return .nil
  withOSLock do
    let status : Int32 ← invoke (Call.dlclose (← load).handle)
    if status ≠ 0 then
      dlError
    else
      update (setHandle none)
      return .nil

/-- `(*DynamicLibrary).Lookup`. The error of a symbol that is not found wraps
    whatever `dlError` returns, nil included. -/
def Lookup (symbol : GoString) : Prog DynamicLibrary (Call.Answer M) (GoError M) := do
  let sym := CString symbol
  withOSLock do
    let _ ← dlError
    let pointer : Option Pointer ← invoke (Call.dlsym (← load).handle sym)
    match pointer with
    | none => return .errorf "symbol %q not found: %w" symbol (← dlError)
    | some _ => return .nil

/-! ## Outcomes -/

section Outcomes

variable (L : Lens σ DynamicLibrary)

/-- The calls of an `Open` whose `dlopen` answers `h`. -/
def openedEvents (s : σ) (h : Pointer) : List (Event σ (Call.Answer M)) :=
  [⟨s, .lockOSThread, ()⟩,
   ⟨s, .dlopen (CString (L.get s).Name) (L.get s).Flags.toInt32, some h⟩,
   ⟨L.modify (setHandle (some h)) s, .unlockOSThread, ()⟩]

/-- The calls of an `Open` whose `dlopen` fails and whose `dlerror` answers `m`. -/
def openFailedEvents (s : σ) (m : Option M) : List (Event σ (Call.Answer M)) :=
  [⟨s, .lockOSThread, ()⟩,
   ⟨s, .dlopen (CString (L.get s).Name) (L.get s).Flags.toInt32, none⟩,
   ⟨s, .dlerror, m⟩,
   ⟨s, .unlockOSThread, ()⟩]

/-- The calls of a `Close` whose `dlclose` succeeds. -/
def closedEvents (s : σ) : List (Event σ (Call.Answer M)) :=
  [⟨s, .lockOSThread, ()⟩,
   ⟨s, .dlclose (L.get s).handle, (0 : Int32)⟩,
   ⟨L.modify (setHandle none) s, .unlockOSThread, ()⟩]

/-- The calls of a `Close` whose `dlclose` fails and whose `dlerror` answers `m`. -/
def closeFailedEvents (s : σ) (status : Int32) (m : Option M) : List (Event σ (Call.Answer M)) :=
  [⟨s, .lockOSThread, ()⟩,
   ⟨s, .dlclose (L.get s).handle, status⟩,
   ⟨s, .dlerror, m⟩,
   ⟨s, .unlockOSThread, ()⟩]

/-- What `Open` can return, and leave behind, from the memory `s`. -/
inductive Open.Outcome (s : σ) : GoError M → σ → List (Event σ (Call.Answer M)) → Prop where
  | opened (h : Pointer) : Outcome s .nil (L.modify (setHandle (some h)) s) (openedEvents L s h)
  | failed (m : M) : Outcome s (.new m) s (openFailedEvents L s (some m))
  /-- `dlopen` fails but `dlerror` has no message: `Open` returns nil. -/
  | unreported : Outcome s .nil s (openFailedEvents L s none)

/-- What `Close` can return, and leave behind, from the memory `s`. -/
inductive Close.Outcome (s : σ) : GoError M → σ → List (Event σ (Call.Answer M)) → Prop where
  | alreadyClosed (hnil : (L.get s).handle = none) : Outcome s .nil s []
  | closed (hh : (L.get s).handle ≠ none) :
      Outcome s .nil (L.modify (setHandle none) s) (closedEvents L s)
  | failed (hh : (L.get s).handle ≠ none) {status : Int32} (hst : status ≠ 0) (m : M) :
      Outcome s (.new m) s (closeFailedEvents L s status (some m))
  /-- `dlclose` fails but `dlerror` has no message: `Close` returns nil and the
      handle stays. -/
  | unreported (hh : (L.get s).handle ≠ none) {status : Int32} (hst : status ≠ 0) :
      Outcome s .nil s (closeFailedEvents L s status none)

variable {L} in
/-- `Open` changes the handle at most. -/
theorem Open.Outcome.mem_eq {s s' : σ} {err : GoError M} {es : List (Event σ (Call.Answer M))}
    (ho : Open.Outcome L s err s' es) : s' = s ∨ ∃ h, s' = L.modify (setHandle (some h)) s := by
  cases ho with
  | opened h => exact .inr ⟨h, rfl⟩
  | failed m => exact .inl rfl
  | unreported => exact .inl rfl

variable {L} in
/-- `Close` changes the handle at most. -/
theorem Close.Outcome.mem_eq {s s' : σ} {err : GoError M} {es : List (Event σ (Call.Answer M))}
    (hc : Close.Outcome L s err s' es) : s' = s ∨ s' = L.modify (setHandle none) s := by
  cases hc with
  | alreadyClosed hnil => exact .inl rfl
  | closed hh => exact .inr rfl
  | failed hh hst m => exact .inl rfl
  | unreported hh hst => exact .inl rfl

variable {L} in
/-- `Open` makes one call to the loader. -/
theorem Open.Outcome.outside_eq {s s' : σ} {err : GoError M} {es : List (Event σ (Call.Answer M))}
    (ho : Open.Outcome L s err s' es) :
    outside es = [.dlopen (CString (L.get s).Name) (L.get s).Flags.toInt32] := by
  cases ho <;> rfl

variable {L} in
/-- `Close` makes one call to the loader, and none when there is no handle. -/
theorem Close.Outcome.outside_eq {s s' : σ} {err : GoError M} {es : List (Event σ (Call.Answer M))}
    (hc : Close.Outcome L s err s' es) :
    outside es = if (L.get s).handle = none then [] else [.dlclose (L.get s).handle] := by
  cases hc with
  | alreadyClosed hnil =>
      rw [if_pos hnil]
      rfl
  | closed hh =>
      rw [if_neg hh]
      rfl
  | failed hh hst m =>
      rw [if_neg hh]
      rfl
  | unreported hh hst =>
      rw [if_neg hh]
      rfl

/-- What `Lookup` can return from the memory `s`; it never changes it. -/
inductive Lookup.Outcome (symbol : GoString) (s : σ) :
    GoError M → List (Event σ (Call.Answer M)) → Prop where
  | found (stale : Option M) (p : Pointer) :
      Outcome symbol s .nil
        [⟨s, .lockOSThread, ()⟩,
         ⟨s, .dlerror, stale⟩,
         ⟨s, .dlsym (L.get s).handle (CString symbol), some p⟩,
         ⟨s, .unlockOSThread, ()⟩]
  | notFound (stale m : Option M) :
      Outcome symbol s (.errorf "symbol %q not found: %w" symbol (errorOf m))
        [⟨s, .lockOSThread, ()⟩,
         ⟨s, .dlerror, stale⟩,
         ⟨s, .dlsym (L.get s).handle (CString symbol), none⟩,
         ⟨s, .dlerror, m⟩,
         ⟨s, .unlockOSThread, ()⟩]

end Outcomes

/-! ## Specifications -/

variable {L : Lens σ DynamicLibrary} {Q : GoError M → World σ (Call.Answer M) → Prop}
  {s : σ} {es : List (Event σ (Call.Answer M))}

theorem wp_Open
    (h : ∀ err s' fs, Open.Outcome L s err s' fs → Q err ⟨s', es ++ fs⟩) :
    (Open.zoom L).wp .recording Q ⟨s, es⟩ := by
  simp only [Open, withOSLock, dlError, load_bind, invoke_bind, bind_get, bind_call, zoom_get,
    zoom_call, wp_recording_get, wp_recording_call]
  rintro ⟨⟩ handle
  cases handle with
  | none =>
      simp only [bind_call, pure_eq, bind_ret, zoom_call, zoom_ret, wp_recording_call]
      rintro lastErr ⟨⟩
      cases lastErr with
      | none => simpa [World.record, openFailedEvents] using h _ _ _ .unreported
      | some m => simpa [World.record, openFailedEvents] using h _ _ _ (.failed m)
  | some p =>
      simp only [update_bind, pure_eq, bind_modify, bind_ret, zoom_modify, zoom_call, zoom_ret,
        wp_recording_modify, wp_recording_call]
      rintro ⟨⟩
      simpa [World.record, World.update, openedEvents] using h _ _ _ (.opened p)

theorem wp_Close
    (h : ∀ err s' fs, Close.Outcome L s err s' fs → Q err ⟨s', es ++ fs⟩) :
    (Close.zoom L).wp .recording Q ⟨s, es⟩ := by
  simp only [Close, withOSLock, dlError, load_bind, invoke_bind, bind_get, zoom_get,
    wp_recording_get]
  split
  · next hnil => simpa using h _ _ _ (.alreadyClosed hnil)
  · next hh =>
      simp only [bind_call, zoom_call, zoom_get, wp_recording_call, wp_recording_get,
        World.record_mem]
      rintro ⟨⟩ status
      split
      · next hst =>
          simp only [bind_call, pure_eq, bind_ret, zoom_call, zoom_ret, wp_recording_call]
          rintro lastErr ⟨⟩
          cases lastErr with
          | none => simpa [World.record, closeFailedEvents] using h _ _ _ (.unreported hh hst)
          | some m => simpa [World.record, closeFailedEvents] using h _ _ _ (.failed hh hst m)
      · next hst =>
          obtain rfl : status = 0 := not_not.1 hst
          simp only [update_bind, pure_eq, bind_modify, bind_ret, zoom_modify, zoom_call, zoom_ret,
            wp_recording_modify, wp_recording_call]
          rintro ⟨⟩
          simpa [World.record, World.update, closedEvents] using h _ _ _ (.closed hh)

theorem wp_Lookup {symbol : GoString}
    (h : ∀ err fs, Lookup.Outcome L symbol s err fs → Q err ⟨s, es ++ fs⟩) :
    ((Lookup symbol).zoom L).wp .recording Q ⟨s, es⟩ := by
  simp only [Lookup, withOSLock, dlError, load_bind, invoke_bind, bind_get, bind_call, pure_eq,
    bind_ret, zoom_get, zoom_call, wp_recording_get, wp_recording_call]
  rintro ⟨⟩ stale pointer
  cases pointer with
  | none =>
      simp only [bind_call, bind_ret, zoom_call, zoom_ret, wp_recording_call]
      rintro m ⟨⟩
      simpa [World.record] using h _ _ (.notFound stale m)
  | some p =>
      simp only [bind_ret, zoom_call, zoom_ret, wp_recording_call]
      rintro ⟨⟩
      simpa [World.record] using h _ _ (.found stale p)

/-! ## Reported failures -/

/-- The loader's promise: after a failed `dlopen` or `dlclose`, the next `dlerror`
    has a message. The state says whether such a failure is still to be read. -/
def dlerrorReports : Protocol σ (Call.Answer M) Bool where
  start := false
  step pending e :=
    match e with
    | ⟨_, .dlopen _ _, none⟩ => some true
    | ⟨_, .dlclose _, status⟩ => if status = 0 then some pending else some true
    | ⟨_, .dlerror, none⟩ => if pending then none else some false
    | ⟨_, .dlerror, some _⟩ => some false
    | _ => some pending

variable {b : Bool}

/-- A call of the Fabric Manager API leaves the promise as it is. -/
@[simp] theorem dlerrorReports_step_fm {e : Event σ (Call.Answer M)} (hfm : e.call.isFm) :
    dlerrorReports.step b e = some b := by
  obtain ⟨mem, call, answer⟩ := e
  cases call <;> first | rfl | cases hfm

/-- The promise of `dlerror` does not depend on the memory. -/
theorem dlerrorReports_within {τ : Type} (L : Lens σ τ) (s : σ) (es : List (Event τ (Call.Answer M)))
    (b : Bool) : dlerrorReports.after b (es.map (Event.within L s)) = dlerrorReports.after b es := by
  induction es generalizing b with
  | nil => rfl
  | cons e es ih =>
      have hstep : dlerrorReports.step b (e.within L s) = dlerrorReports.step b e := by
        obtain ⟨m, call, answer⟩ := e
        cases call <;> first | rfl | cases answer <;> rfl
      rw [List.map_cons, Protocol.after_cons, Protocol.after_cons, hstep]
      exact congrArg _ (funext ih)

@[simp] theorem dlerrorReports_openedEvents {h : Pointer} :
    dlerrorReports.after b (openedEvents (M := M) L s h) = some b := rfl

@[simp] theorem dlerrorReports_openFailedEvents_some {m : M} :
    dlerrorReports.after b (openFailedEvents L s (some m)) = some false := rfl

@[simp] theorem dlerrorReports_openFailedEvents_none :
    dlerrorReports.after b (openFailedEvents (M := M) L s none) = none := rfl

@[simp] theorem dlerrorReports_closedEvents :
    dlerrorReports.after b (closedEvents (M := M) L s) = some b := rfl

@[simp] theorem dlerrorReports_closeFailedEvents_some {status : Int32} (hst : status ≠ 0) {m : M} :
    dlerrorReports.after b (closeFailedEvents L s status (some m)) = some false := by
  simp [closeFailedEvents, dlerrorReports, hst]

@[simp] theorem dlerrorReports_closeFailedEvents_none {status : Int32} (hst : status ≠ 0) :
    dlerrorReports.after b (closeFailedEvents (M := M) L s status none) = none := by
  simp [closeFailedEvents, dlerrorReports, hst]

end DynamicLibrary

end Nvfm
