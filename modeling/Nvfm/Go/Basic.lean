-- SUMMARY: The Go values the bindings work with: byte strings, C strings, pointers and errors.
import Mathlib.Data.List.TakeWhile

/-!
# Go Values

Names keep the capitals of the source, where they are significant: `Init` and
`init` are two methods of `library`.
-/

namespace Go

/-- A Go string: any sequence of bytes. -/
abbrev GoString := List UInt8

/-- The Go string of an ASCII literal. -/
def ascii (s : String) : GoString := s.toList.map fun c => c.toNat.toUInt8

/-- A block of C characters that a `*C.char` points to. -/
abbrev CharBlock := List UInt8

/-- `C.CString`: all bytes of the string, with a NUL after them. -/
def CString (s : GoString) : CharBlock := s ++ [0]

/-- What C reads at a `*C.char`, and `C.GoString` returns: the bytes before the
    first NUL. -/
def cText (b : CharBlock) : GoString := b.takeWhile (· ≠ 0)

/-- A pointer that is not nil. A nil pointer is `none : Option Pointer`. -/
abbrev Pointer := { addr : UInt64 // addr ≠ 0 }

/-- A Go `error`, nil included. The texts of `errors.New` have the type `M`. -/
inductive GoError (M : Type) where
  | nil
  | new (text : M)
  | errorf (format : String) (arg : GoString) (cause : GoError M)
deriving DecidableEq

/-- C reads a string up to its first NUL. -/
theorem cText_CString (s : GoString) : cText (CString s) = s.takeWhile (· ≠ 0) := by
  unfold cText CString
  induction s with
  | nil => rfl
  | cons b s ih =>
      rw [List.cons_append, List.takeWhile_cons, List.takeWhile_cons, ih]

/-- C reads the whole string exactly when it holds no NUL. -/
theorem cText_CString_eq_iff {s : GoString} : cText (CString s) = s ↔ (0 : UInt8) ∉ s := by
  rw [cText_CString, List.takeWhile_eq_self_iff]
  constructor
  · intro hall hmem
    simpa using hall 0 hmem
  · intro hzero b hb
    have hne : b ≠ 0 := fun h => hzero (h ▸ hb)
    exact decide_eq_true hne

end Go
