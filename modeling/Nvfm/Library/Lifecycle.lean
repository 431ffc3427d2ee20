-- SUMMARY: Init and Shutdown of a library, with the outcomes of each call.
import Nvfm.Library.Basic
import Nvfm.Interaction.Log

/-!
# Lifecycle

`(*library).Init` and `(*library).Shutdown`, after `init.go`.
-/

namespace Nvfm

open Go Interaction Prog DynamicLibrary Return

namespace Library

/-- `(*library).Init`, while it holds the mutex. -/
def Init : Prog Library Answer Return := do
  if 0 < (← load).refcount then
    update fun l => l.setRefcount (l.refcount + 1)
    return SUCCESS
  let err ← Open.zoom dlLens
  if err ≠ .nil then
    return GENERIC_ERROR
  let ret : Return ← invoke Call.fmLibInit
  if ret ≠ SUCCESS then
    let _ ← Close.zoom dlLens
    return ret
  update (setRefcount 1)
  return SUCCESS

/-- `(*library).Shutdown`, while it holds the mutex. -/
def Shutdown : Prog Library Answer Return := do
  if (← load).refcount = 0 then
    return UNINITIALIZED
  if 1 < (← load).refcount then
    update fun l => l.setRefcount (l.refcount - 1)
    return SUCCESS
  let ret : Return ← invoke Call.fmLibShutdown
  if ret ≠ SUCCESS then
    return ret
  let err ← Close.zoom dlLens
  if err ≠ .nil then
    return GENERIC_ERROR
  update (setRefcount 0)
  return SUCCESS

/-! ## Outcomes -/

/-- What `Init` can return, and leave behind, from the library `l`. -/
inductive Init.Outcome (l : Library) : Return → World Library Answer → Prop where
  | counted (hpos : 0 < l.refcount) :
      Outcome l SUCCESS ⟨l.setRefcount (l.refcount + 1), []⟩
  | openFailed (hpos : ¬ 0 < l.refcount) {err : GoError GoString} {l' : Library}
      {es : List (Event Library Answer)} (ho : Open.Outcome dlLens l err l' es) (herr : err ≠ .nil) :
      Outcome l GENERIC_ERROR ⟨l', es⟩
  | initFailed (hpos : ¬ 0 < l.refcount) {l' : Library} {es : List (Event Library Answer)}
      (ho : Open.Outcome dlLens l .nil l' es) {ret : Return} (hret : ret ≠ SUCCESS)
      {err : GoError GoString} {l'' : Library} {fs : List (Event Library Answer)}
      (hc : Close.Outcome dlLens l' err l'' fs) :
      Outcome l ret ⟨l'', es ++ ⟨l', .fmLibInit, ret⟩ :: fs⟩
  | initialised (hpos : ¬ 0 < l.refcount) {l' : Library} {es : List (Event Library Answer)}
      (ho : Open.Outcome dlLens l .nil l' es) :
      Outcome l SUCCESS ⟨l'.setRefcount 1, es ++ [⟨l', .fmLibInit, SUCCESS⟩]⟩

/-- What `Shutdown` can return, and leave behind, from the library `l`. -/
inductive Shutdown.Outcome (l : Library) : Return → World Library Answer → Prop where
  | uninitialized (hzero : l.refcount = 0) : Outcome l UNINITIALIZED ⟨l, []⟩
  | counted (hone : 1 < l.refcount) : Outcome l SUCCESS ⟨l.setRefcount (l.refcount - 1), []⟩
  | shutdownFailed (hzero : l.refcount ≠ 0) (hone : ¬ 1 < l.refcount) {ret : Return}
      (hret : ret ≠ SUCCESS) : Outcome l ret ⟨l, [⟨l, .fmLibShutdown, ret⟩]⟩
  | closeFailed (hzero : l.refcount ≠ 0) (hone : ¬ 1 < l.refcount) {err : GoError GoString}
      {l' : Library} {fs : List (Event Library Answer)} (hc : Close.Outcome dlLens l err l' fs)
      (herr : err ≠ .nil) :
      Outcome l GENERIC_ERROR ⟨l', ⟨l, .fmLibShutdown, SUCCESS⟩ :: fs⟩
  | closed (hzero : l.refcount ≠ 0) (hone : ¬ 1 < l.refcount) {l' : Library}
      {fs : List (Event Library Answer)} (hc : Close.Outcome dlLens l .nil l' fs) :
      Outcome l SUCCESS ⟨l'.setRefcount 0, ⟨l, .fmLibShutdown, SUCCESS⟩ :: fs⟩

theorem wp_Init (l : Library) : Init.wp .recording (Init.Outcome l) ⟨l, []⟩ := by
  simp only [Init, load_bind, wp_recording_get]
  split
  · next hpos =>
      rw [update_bind, wp_recording_modify]
      exact .counted hpos
  · next hpos =>
      rw [wp_bind]
      apply wp_Open
      intro err l' es ho
      split
      · next herr => exact .openFailed hpos ho herr
      · next herr =>
          obtain rfl : err = .nil := not_not.1 herr
          simp only [invoke_bind, wp_recording_call]
          intro ret
          split
          · next hret =>
              rw [wp_bind]
              apply wp_Close
              intro err' l'' fs hc
              simpa [World.record] using Init.Outcome.initFailed hpos ho hret hc
          · next hret =>
              obtain rfl : ret = SUCCESS := not_not.1 hret
              rw [update_bind, wp_recording_modify]
              exact .initialised hpos ho

theorem wp_Shutdown (l : Library) : Shutdown.wp .recording (Shutdown.Outcome l) ⟨l, []⟩ := by
  simp only [Shutdown, load_bind, wp_recording_get]
  split
  · next hzero => exact .uninitialized hzero
  · next hzero =>
      simp only [wp_recording_get]
      split
      · next hone =>
          rw [update_bind, wp_recording_modify]
          exact .counted hone
      · next hone =>
          simp only [invoke_bind, wp_recording_call]
          intro ret
          split
          · next hret => exact .shutdownFailed hzero hone hret
          · next hret =>
              obtain rfl : ret = SUCCESS := not_not.1 hret
              rw [wp_bind]
              apply wp_Close
              intro err l' fs hc
              split
              · next herr => exact .closeFailed hzero hone hc herr
              · next herr =>
                  obtain rfl : err = .nil := not_not.1 herr
                  rw [update_bind, wp_recording_modify]
                  exact .closed hzero hone hc

/-! ## Outcomes with reported failures

When `dlerror` has a message for every failed `dlopen` and `dlclose`, an error of
the loader is never mistaken for a success. -/

/-- The outcomes of `Init` in which every loader failure is reported. -/
inductive Init.Reported (l : Library) : Return → World Library Answer → Prop where
  | counted (hpos : 0 < l.refcount) :
      Reported l SUCCESS ⟨l.setRefcount (l.refcount + 1), []⟩
  | openFailed (hpos : ¬ 0 < l.refcount) (m : GoString) :
      Reported l GENERIC_ERROR ⟨l, openFailedEvents dlLens l (some m)⟩
  | initFailed (hpos : ¬ 0 < l.refcount) (h : Pointer) {ret : Return} (hret : ret ≠ SUCCESS) :
      Reported l ret ⟨l.setHandle none, openedEvents dlLens l h ++
        ⟨l.setHandle (some h), .fmLibInit, ret⟩ :: closedEvents dlLens (l.setHandle (some h))⟩
  | closeFailed (hpos : ¬ 0 < l.refcount) (h : Pointer) {ret : Return} (hret : ret ≠ SUCCESS)
      {status : Int32} (hst : status ≠ 0) (m : GoString) :
      Reported l ret ⟨l.setHandle (some h), openedEvents dlLens l h ++
        ⟨l.setHandle (some h), .fmLibInit, ret⟩ ::
          closeFailedEvents dlLens (l.setHandle (some h)) status (some m)⟩
  | initialised (hpos : ¬ 0 < l.refcount) (h : Pointer) :
      Reported l SUCCESS ⟨(l.setHandle (some h)).setRefcount 1,
        openedEvents dlLens l h ++ [⟨l.setHandle (some h), .fmLibInit, SUCCESS⟩]⟩

/-- The outcomes of `Shutdown` in which every loader failure is reported. -/
inductive Shutdown.Reported (l : Library) : Return → World Library Answer → Prop where
  | uninitialized (hzero : l.refcount = 0) : Reported l UNINITIALIZED ⟨l, []⟩
  | counted (hone : 1 < l.refcount) : Reported l SUCCESS ⟨l.setRefcount (l.refcount - 1), []⟩
  | shutdownFailed (hzero : l.refcount ≠ 0) (hone : ¬ 1 < l.refcount) {ret : Return}
      (hret : ret ≠ SUCCESS) : Reported l ret ⟨l, [⟨l, .fmLibShutdown, ret⟩]⟩
  | closeFailed (hzero : l.refcount ≠ 0) (hone : ¬ 1 < l.refcount) (hh : l.dl.handle ≠ none)
      {status : Int32} (hst : status ≠ 0) (m : GoString) :
      Reported l GENERIC_ERROR
        ⟨l, ⟨l, .fmLibShutdown, SUCCESS⟩ :: closeFailedEvents dlLens l status (some m)⟩
  | alreadyClosed (hzero : l.refcount ≠ 0) (hone : ¬ 1 < l.refcount) (hnil : l.dl.handle = none) :
      Reported l SUCCESS ⟨l.setRefcount 0, [⟨l, .fmLibShutdown, SUCCESS⟩]⟩
  | closed (hzero : l.refcount ≠ 0) (hone : ¬ 1 < l.refcount) (hh : l.dl.handle ≠ none) :
      Reported l SUCCESS ⟨(l.setHandle none).setRefcount 0,
        ⟨l, .fmLibShutdown, SUCCESS⟩ :: closedEvents dlLens l⟩

section Reported

variable {l : Library} {ret : Return} {w : World Library Answer} {b b' : Bool}

theorem Init.Outcome.reported (ho : Init.Outcome l ret w)
    (hb : dlerrorReports.after b w.events = some b') : Init.Reported l ret w := by
  cases ho with
  | counted hpos => exact .counted hpos
  | openFailed hpos ho herr =>
      cases ho with
      | opened h => exact absurd rfl herr
      | failed m => exact .openFailed hpos m
      | unreported => exact absurd rfl herr
  | initialised hpos ho =>
      cases ho with
      | opened h => exact .initialised hpos h
      | unreported => simp [Protocol.after_append] at hb
  | initFailed hpos ho hret hc =>
      cases ho with
      | unreported => simp [Protocol.after_append] at hb
      | opened h =>
          simp only [dlLens_modify_setHandle] at hb hc ⊢
          cases hc with
          | alreadyClosed hnil => simp at hnil
          | closed hh => exact .initFailed hpos h hret
          | failed hh hst m => exact .closeFailed hpos h hret hst m
          | unreported hh hst =>
              simp [Protocol.after_append, hst] at hb

theorem Shutdown.Outcome.reported (ho : Shutdown.Outcome l ret w)
    (hb : dlerrorReports.after b w.events = some b') : Shutdown.Reported l ret w := by
  cases ho with
  | uninitialized hzero => exact .uninitialized hzero
  | counted hone => exact .counted hone
  | shutdownFailed hzero hone hret => exact .shutdownFailed hzero hone hret
  | closeFailed hzero hone hc herr =>
      cases hc with
      | alreadyClosed hnil => exact absurd rfl herr
      | closed hh => exact absurd rfl herr
      | failed hh hst m => exact .closeFailed hzero hone hh hst m
      | unreported hh hst => exact absurd rfl herr
  | closed hzero hone hc =>
      cases hc with
      | alreadyClosed hnil => exact .alreadyClosed hzero hone hnil
      | closed hh => exact .closed hzero hone hh
      | unreported hh hst =>
          simp [hst] at hb

end Reported

end Library

/-! ## The operations of the lifecycle -/

inductive LifecycleOp where
  | Init
  | Shutdown
deriving DecidableEq

namespace LifecycleOp

/-- What each operation does while it holds the mutex. -/
def prog : LifecycleOp → Prog Library Answer Return
  | Init => Library.Init
  | Shutdown => Library.Shutdown

/-- Each operation as a whole: it locks the library first, and defers unlocking it. -/
def code : LifecycleOp → Prog Library (Sync.Answer Answer) Return
  | Init => Library.Init.locked
  | Shutdown => Library.Shutdown.locked

theorem code_eq (op : LifecycleOp) : op.code = op.prog.locked := by
  cases op with
  | Init => rfl
  | Shutdown => rfl

def Outcome : LifecycleOp → Library → Return → World Library Answer → Prop
  | Init => Library.Init.Outcome
  | Shutdown => Library.Shutdown.Outcome

def Reported : LifecycleOp → Library → Return → World Library Answer → Prop
  | Init => Library.Init.Reported
  | Shutdown => Library.Shutdown.Reported

theorem specifies : Specifies prog Outcome := by
  intro op l
  cases op with
  | Init => exact Library.wp_Init l
  | Shutdown => exact Library.wp_Shutdown l

theorem Outcome.reported {op : LifecycleOp} {l : Library} {ret : Return} {w : World Library Answer}
    {b b' : Bool} (ho : op.Outcome l ret w) (hb : dlerrorReports.after b w.events = some b') :
    op.Reported l ret w := by
  cases op with
  | Init => exact Library.Init.Outcome.reported ho hb
  | Shutdown => exact Library.Shutdown.Outcome.reported ho hb

end LifecycleOp

end Nvfm
