-- SUMMARY: The library value of package nvfm: reference count, options, construction and symbol lookup.
import Nvfm.Dl.DynamicLibrary
import Mathlib.Algebra.Group.Nat.Defs
import Mathlib.Algebra.Group.Int.Defs

/-!
# The Library Value

`refcount.go`, `api.go` and `lib.go`. The mutex of a `library` has no field: `Init`,
`Shutdown` and `SetLibraryOptions` are modelled by what they do while they hold it, and
their locking is put around that in `LifecycleOp.code` and `PackageOp.code`.
-/

namespace Nvfm

open Go Interaction Prog DynamicLibrary

/-- The answers to the calls of package `nvfm`: a message of `dlerror` is a
    string. -/
abbrev Answer : Call → Type := Call.Answer GoString

/-! ## Reference counts -/

/-- `refcount`, a Go `int`: a signed 64-bit word that wraps around. -/
abbrev Refcount := Int64

namespace Refcount

/-- `IncOnNoError`. -/
def IncOnNoError (r : Refcount) (err : GoError GoString) : Refcount :=
  if err = .nil then r + 1 else r

/-- `DecOnNoError`. -/
def DecOnNoError (r : Refcount) (err : GoError GoString) : Refcount :=
  if err = .nil ∧ 0 < r then r - 1 else r

theorem toInt_pos {r : Refcount} : 0 < r ↔ 0 < r.toInt := by
  simp [Int64.lt_iff_toInt_lt]

theorem toInt_one_lt {r : Refcount} : 1 < r ↔ 1 < r.toInt := by
  simp [Int64.lt_iff_toInt_lt]

theorem toInt_nonneg {r : Refcount} : 0 ≤ r ↔ 0 ≤ r.toInt := by
  simp [Int64.le_iff_toInt_le]

theorem toInt_eq_zero {r : Refcount} : r = 0 ↔ r.toInt = 0 := by
  simp [← Int64.toInt_inj]

theorem ne_zero_of_pos {r : Refcount} (h : 0 < r) : r ≠ 0 := by
  rw [Ne, toInt_eq_zero]
  exact Int.ne_of_gt (toInt_pos.1 h)

theorem pos_of_one_lt {r : Refcount} (h : 1 < r) : 0 < r :=
  toInt_pos.2 (Int.lt_trans Int.zero_lt_one (toInt_one_lt.1 h))

/-- A positive counter counts up to the smallest `int` at most. -/
theorem add_one_ne_zero {r : Refcount} (h : 0 < r) : r + 1 ≠ 0 := by
  intro hzero
  have hr : r = 0 - 1 := by rw [← hzero, Int64.add_sub_cancel]
  rw [hr] at h
  exact absurd h (by decide)

theorem sub_one_ne_zero {r : Refcount} (h : 1 < r) : r - 1 ≠ 0 := by
  intro hzero
  have hr : r = 0 + 1 := by rw [← hzero, Int64.sub_add_cancel]
  rw [hr] at h
  exact absurd h (by decide)

/-- Counting up is exact below the largest `int`. -/
theorem toInt_add_one {r : Refcount} (h : r.toInt + 1 < 2 ^ 63) : (r + 1).toInt = r.toInt + 1 := by
  have hlow : -2 ^ 63 ≤ r.toInt := Int64.le_toInt r
  rw [Int64.toInt_add]
  exact Int.bmod_eq_of_le (by simp; omega) (by simp; omega)

/-- Counting down is exact above zero. -/
theorem toInt_sub_one {r : Refcount} (h : 0 < r.toInt) : (r - 1).toInt = r.toInt - 1 := by
  have hhigh : r.toInt < 2 ^ 63 := Int64.toInt_lt r
  rw [Int64.toInt_sub]
  exact Int.bmod_eq_of_le (by simp; omega) (by simp; omega)

end Refcount

/-! ## Options -/

structure LibraryOptions where
  path : GoString
  flags : Int64

/-- A `LibraryOption` updates the options under construction. -/
abbrev LibraryOption := LibraryOptions → LibraryOptions

def WithLibraryPath (path : GoString) : LibraryOption := fun o => { o with path := path }

def defaultNvfmLibraryName : GoString := ascii "libnvfm.so"

def defaultNvfmLibraryLoadFlags : Int64 := RTLD_LAZY ||| RTLD_GLOBAL

def errLibraryNotLoaded : GoError GoString := .new (ascii "library not loaded")

def errLibraryAlreadyLoaded : GoError GoString := .new (ascii "library already loaded")

/-! ## Libraries -/

structure Library where
  path : GoString
  refcount : Refcount
  dl : DynamicLibrary
deriving DecidableEq

namespace Library

/-- The loader object of a library. -/
def dlLens : Lens Library DynamicLibrary where
  get l := l.dl
  set d l := { l with dl := d }
  get_set _ _ := rfl
  set_get _ := rfl
  set_set _ _ _ := rfl

/-- `l.dl.handle = h` -/
def setHandle (h : Option Pointer) (l : Library) : Library := dlLens.modify (DynamicLibrary.setHandle h) l

/-- `l.refcount = r` -/
def setRefcount (r : Refcount) (l : Library) : Library := { l with refcount := r }

@[simp] theorem dlLens_get (l : Library) : dlLens.get l = l.dl := rfl
@[simp] theorem dlLens_modify_setHandle (h : Option Pointer) (l : Library) :
    dlLens.modify (DynamicLibrary.setHandle h) l = l.setHandle h := rfl

@[simp] theorem setHandle_refcount (h : Option Pointer) (l : Library) :
    (l.setHandle h).refcount = l.refcount := rfl
@[simp] theorem setHandle_path (h : Option Pointer) (l : Library) :
    (l.setHandle h).path = l.path := rfl
@[simp] theorem setHandle_Name (h : Option Pointer) (l : Library) :
    (l.setHandle h).dl.Name = l.dl.Name := rfl
@[simp] theorem setHandle_Flags (h : Option Pointer) (l : Library) :
    (l.setHandle h).dl.Flags = l.dl.Flags := rfl
@[simp] theorem setHandle_handle (h : Option Pointer) (l : Library) :
    (l.setHandle h).dl.handle = h := rfl

@[simp] theorem setRefcount_refcount (r : Refcount) (l : Library) :
    (l.setRefcount r).refcount = r := rfl
@[simp] theorem setRefcount_path (r : Refcount) (l : Library) :
    (l.setRefcount r).path = l.path := rfl
@[simp] theorem setRefcount_dl (r : Refcount) (l : Library) : (l.setRefcount r).dl = l.dl := rfl

/-- `(*library).init`: fold the options, put the defaults in and replace the
    loader object. -/
def init (opts : List LibraryOption) (l : Library) : Library :=
  let o := opts.foldl (fun o opt => opt o) ⟨[], 0⟩
  let path := if o.path = [] then defaultNvfmLibraryName else o.path
  let flags := if o.flags = 0 then defaultNvfmLibraryLoadFlags else o.flags
  { l with path := path, dl := DynamicLibrary.New path flags }

@[simp] theorem init_refcount (opts : List LibraryOption) (l : Library) :
    (l.init opts).refcount = l.refcount := rfl
@[simp] theorem init_handle (opts : List LibraryOption) (l : Library) :
    (l.init opts).dl.handle = none := rfl

/-- `newLibrary`. The zero value has no loader object yet; `init` sets it. -/
def newLibrary (opts : List LibraryOption) : Library :=
  init opts ⟨[], 0, DynamicLibrary.New [] 0⟩

@[simp] theorem newLibrary_refcount (opts : List LibraryOption) : (newLibrary opts).refcount = 0 := rfl
@[simp] theorem newLibrary_handle (opts : List LibraryOption) : (newLibrary opts).dl.handle = none :=
  rfl

/-- `SetLibraryOptions`, on the package-level library and while it holds the mutex. -/
def SetLibraryOptions (opts : List LibraryOption) : Prog Library Answer (GoError GoString) := do
  if (← load).refcount ≠ 0 then
    return errLibraryAlreadyLoaded
  update (init opts)
  return .nil

/-- The check of `LookupSymbol`, which returns early with an error. The receiver
    may be a nil pointer. -/
def lookupCheck (name : GoString) : Option Library → GoError GoString
  | none => .errorf "error looking up %s: %w" name errLibraryNotLoaded
  | some l => if l.refcount = 0 then .errorf "error looking up %s: %w" name errLibraryNotLoaded else .nil

/-- `LookupSymbol`, on a library that is not nil. -/
def LookupSymbol (name : GoString) : Prog Library Answer (GoError GoString) := do
  let err := lookupCheck name (some (← load))
  if err ≠ .nil then
    return err
  (Lookup name).zoom dlLens

end Library

end Nvfm
