-- SUMMARY: Go's grammar for a source file of variables and interfaces, as a reader of texts.
import Nvfm.Generator.Grammar

/-!
# Source Files

A file is a package clause and declarations. The declarations are those that a
generated file has: groups of variables that are set to a name of another package
or value, and interfaces. Comments stand before declarations, each on lines of its
own.
-/

namespace Nvfm.Generator

open Go

variable {τ : Type}

/-- `Name = X.Sel`. -/
structure ValueSpec where
  Name : GoString
  X : GoString
  Sel : GoString
deriving DecidableEq

inductive TopLevel (τ : Type) where
  | vars (specs : List ValueSpec)
  | interface (Name : GoString) (Methods : List (MethodSpec τ))
deriving DecidableEq

structure SourceFile (τ : Type) where
  Name : GoString
  Decls : List (TopLevel τ)
deriving DecidableEq

/-! ## Comments and words -/

/-- The text without the blanks, line ends and comments it starts with. The flag tells
    that it starts inside a comment. -/
def skipComments : Bool → GoString → GoString
  | _, [] => []
  | true, b :: s => skipComments (b ≠ 10) s
  | false, b :: s =>
      if isBlank b || b = 10 then skipComments false s
      else if b = 47 && s.head? = some 47 then skipComments true s
      else b :: s

/-- What follows the word `keyword`. -/
def readKeyword (keyword s : GoString) : Option GoString :=
  if s.takeWhile isIdentByte = keyword then some (s.dropWhile isIdentByte) else none

/-- What follows the byte `b`, after blanks. -/
def readByte (b : UInt8) (s : GoString) : Option GoString :=
  if (skipBlanks s).head? = some b then some (skipBlanks s).tail else none

/-! ## Declarations -/

section Reader

variable (R : Reader τ)

/-- `parseValueSpec`. -/
def parseValueSpec (s : GoString) : Option (ValueSpec × GoString) := do
  let (name, s) ← readIdentifier R.unicode s
  let s ← readByte 61 s
  let (x, s) ← readIdentifier R.unicode (skipBlanks s)
  let s ← readByte 46 s
  let (sel, s) ← readIdentifier R.unicode (skipBlanks s)
  return ({ Name := name, X := x, Sel := sel }, s)

/-- The text goes on with the end of a declaration in a group. -/
def endsSpec (s : GoString) : Bool := s.head? = some 10 || s.head? = some 59 || s.head? = some 41

/-- The variables of a group up to its closing parenthesis, at most `fuel` of them. -/
def parseValueSpecs : Nat → GoString → Option (List ValueSpec × GoString)
  | 0, _ => none
  | fuel + 1, s =>
      if (skipSpace s).head? = some 41 then some ([], (skipSpace s).tail)
      else
        match parseValueSpec R (skipSpace s) with
        | none => none
        | some (spec, s') =>
            if endsSpec (skipBlanks s') then
              (parseValueSpecs fuel (skipSemicolon (skipBlanks s'))).map fun r => (spec :: r.1, r.2)
            else none

/-- `parseGenDecl`, after the word `var`. -/
def parseVarGroup (s : GoString) : Option (TopLevel τ × GoString) := do
  let s ← readByte 40 s
  let (specs, s) ← parseValueSpecs R (s.length + 1) s
  return (.vars specs, s)

/-- `parseGenDecl`, after the word `type`. -/
def parseInterfaceType (s : GoString) : Option (TopLevel τ × GoString) := do
  let (name, s) ← readIdentifier R.unicode (skipBlanks s)
  let s ← readKeyword (ascii "interface") (skipBlanks s)
  let s ← readByte 123 s
  let (methods, s) ← parseMethods R (s.length + 1) s
  return (.interface name methods, s)

/-- `parseDecl`. -/
def parseDecl (s : GoString) : Option (TopLevel τ × GoString) :=
  match readKeyword (ascii "var") s with
  | some s => parseVarGroup R s
  | none =>
      match readKeyword (ascii "type") s with
      | some s => parseInterfaceType R s
      | none => none

/-- The text goes on with the end of a declaration. -/
def endsDecl (s : GoString) : Bool := s = [] || s.head? = some 10 || s.head? = some 59

/-- The declarations up to the end of the text, at most `fuel` of them. -/
def parseDecls : Nat → GoString → Option (List (TopLevel τ))
  | 0, _ => none
  | fuel + 1, s =>
      if skipComments false s = [] then some []
      else
        match parseDecl R (skipComments false s) with
        | none => none
        | some (decl, s') =>
            if endsDecl (skipBlanks s') then
              (parseDecls fuel (skipSemicolon (skipBlanks s'))).map (decl :: ·)
            else none

/-- `parseFile`. -/
def parseSource (s : GoString) : Option (SourceFile τ) := do
  let s ← readKeyword (ascii "package") (skipComments false s)
  let (name, s) ← readIdentifier R.unicode (skipBlanks s)
  if endsDecl (skipBlanks s) then
    let decls ← parseDecls R (s.length + 1) (skipSemicolon (skipBlanks s))
    return { Name := name, Decls := decls }
  else none

end Reader

/-! ## Comments -/

/-- A text of blank lines and comments. -/
def isComment (s : GoString) : Bool := skipComments false s = []

/-- A comment ends with its line, whatever comes next. -/
theorem skipComments_append {s : GoString} (inside : Bool) (h : skipComments inside s = [])
    (rest : GoString) : skipComments inside (s ++ 10 :: rest) = skipComments false rest := by
  induction s generalizing inside with
  | nil =>
      cases inside with
      | false => rfl
      | true => rfl
  | cons b s ih =>
      cases inside with
      | true => exact ih _ h
      | false =>
          rw [skipComments] at h
          rw [List.cons_append, skipComments]
          split at h
          · next hblank =>
              rw [if_pos hblank]
              exact ih _ h
          · next hblank =>
              rw [if_neg hblank]
              split at h
              · next hslash =>
                  have hslash' : (b = 47 && (s ++ 10 :: rest).head? = some 47) = true := by
                    cases s with
                    | nil => simp at hslash
                    | cons c s => exact hslash
                  rw [if_pos hslash']
                  exact ih _ h
              · cases h

theorem skipComments_comment {s : GoString} (h : isComment s = true) (rest : GoString) :
    skipComments false (s ++ 10 :: rest) = skipComments false rest :=
  skipComments_append false (of_decide_eq_true h) rest

/-- Inside a comment everything up to the end of the line is skipped. -/
theorem skipComments_inside {line : GoString} (h : 10 ∉ line) : skipComments true line = [] := by
  induction line with
  | nil => rfl
  | cons b line ih =>
      rw [List.mem_cons, not_or] at h
      rw [skipComments, decide_eq_true (Ne.symm h.1)]
      exact ih h.2

/-- A line that starts with two slashes is a comment. -/
theorem isComment_line {line : GoString} (h : 10 ∉ line) : isComment (ascii "//" ++ line) = true := by
  have hskip : skipComments false (ascii "//" ++ line) = skipComments true (47 :: line) := rfl
  unfold isComment
  rw [hskip, skipComments_inside (by simp [h])]
  rfl

theorem parseDecls_comment (R : Reader τ) {s : GoString} (h : isComment s = true) (fuel : Nat)
    (rest : GoString) : parseDecls R fuel (s ++ 10 :: rest) = parseDecls R fuel rest := by
  cases fuel with
  | zero => rfl
  | succ fuel =>
      rw [parseDecls, parseDecls, skipComments_comment h]

end Nvfm.Generator
