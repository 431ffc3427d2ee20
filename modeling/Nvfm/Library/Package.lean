-- SUMMARY: The operations on the package-level library: Init, Shutdown and SetLibraryOptions.
import Nvfm.Library.Lifecycle

/-!
# The Package-Level Library

`libnvfm` and the calls that change it, each of which takes its mutex.
-/

namespace Nvfm

open Go Interaction Prog DynamicLibrary

/-- `libnvfm`, before the first call. -/
def libnvfm : Library := Library.newLibrary []

inductive PackageOp where
  | lifecycle (op : LifecycleOp)
  | SetLibraryOptions (opts : List LibraryOption)

/-- `Init` and `Shutdown` return a code, `SetLibraryOptions` an error. -/
abbrev PackageResult := Return ⊕ GoError GoString

namespace PackageOp

/-- What each operation does while it holds the mutex. -/
def prog : PackageOp → Prog Library Answer PackageResult
  | lifecycle op => do return .inl (← op.prog)
  | SetLibraryOptions opts => do return .inr (← Library.SetLibraryOptions opts)

/-- Each operation as a whole: `SetLibraryOptions` locks `libnvfm` first as well, and
    defers unlocking it. -/
def code : PackageOp → Prog Library (Sync.Answer Answer) PackageResult
  | lifecycle op => do return .inl (← op.code)
  | SetLibraryOptions opts => do return .inr (← (Library.SetLibraryOptions opts).locked)

theorem code_eq (op : PackageOp) : op.code = op.prog.locked := by
  cases op with
  | lifecycle op =>
      simp only [code, prog, op.code_eq]
      exact locked_map op.prog Sum.inl
  | SetLibraryOptions opts => exact locked_map (Library.SetLibraryOptions opts) Sum.inr

/-- What each operation can return, and leave behind, where `R` says it of `Init`
    and `Shutdown`. -/
inductive OutcomeOf (R : LifecycleOp → Library → Return → World Library Answer → Prop)
    (l : Library) : PackageOp → PackageResult → World Library Answer → Prop where
  | lifecycle {op : LifecycleOp} {ret : Return} {w : World Library Answer} (h : R op l ret w) :
      OutcomeOf R l (.lifecycle op) (.inl ret) w
  | refused {opts : List LibraryOption} (hcount : l.refcount ≠ 0) :
      OutcomeOf R l (.SetLibraryOptions opts) (.inr errLibraryAlreadyLoaded) ⟨l, []⟩
  | replaced {opts : List LibraryOption} (hcount : l.refcount = 0) :
      OutcomeOf R l (.SetLibraryOptions opts) (.inr .nil) ⟨l.init opts, []⟩

def Outcome (op : PackageOp) (l : Library) : PackageResult → World Library Answer → Prop :=
  OutcomeOf LifecycleOp.Outcome l op

/-- The outcomes in which every failure of the loader is reported. -/
def Reported (op : PackageOp) (l : Library) : PackageResult → World Library Answer → Prop :=
  OutcomeOf LifecycleOp.Reported l op

theorem specifies : Specifies prog Outcome := by
  intro op l
  cases op with
  | lifecycle op =>
      unfold prog
      rw [wp_bind]
      exact wp_mono (fun _ _ h => .lifecycle h) (LifecycleOp.specifies op l)
  | SetLibraryOptions opts =>
      simp only [prog, Library.SetLibraryOptions, load_bind, bind_get, wp_recording_get]
      split
      · next hcount => exact .refused hcount
      · next hcount =>
          rw [update_bind, bind_modify, wp_recording_modify]
          exact .replaced (not_not.1 hcount)

theorem Outcome.reported {op : PackageOp} {l : Library} {a : PackageResult}
    {w : World Library Answer} {b b' : Bool} (ho : op.Outcome l a w)
    (hb : dlerrorReports.after b w.events = some b') : op.Reported l a w := by
  cases ho with
  | lifecycle ho => exact .lifecycle (ho.reported hb)
  | refused hcount => exact .refused hcount
  | replaced hcount => exact .replaced hcount

end PackageOp

/-- The log of a sequence of operations on the package-level library. -/
def packageRun (o : Oracle Answer) (ops : List PackageOp) :
    Log Library Answer PackageOp PackageResult :=
  exec PackageOp.prog o libnvfm ops

end Nvfm
