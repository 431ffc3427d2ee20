-- SUMMARY: Go's grammar for the methods of an interface, as a reader of texts, over any syntax of types.
import Nvfm.Generator.Syntax

/-!
# Grammar

A parameter of a list may be a name, a name with a type, or a type. Which of the
three a lone identifier is shows only at the end of the list: if no parameter has
both a name and a type, all of them are types. Otherwise all are named, and a name
without a type has that of the next parameter. How types are read is left open, and
so is which letters there are beyond ASCII.
-/

namespace Nvfm.Generator

open Go

variable {τ : Type}

/-! ## Identifiers -/

def isDigit (b : UInt8) : Bool := 48 ≤ b && b ≤ 57

/-- A letter or a digit, or a part of a character beyond ASCII. -/
def isIdentByte (b : UInt8) : Bool :=
  isDigit b || (65 ≤ b && b ≤ 90) || (97 ≤ b && b ≤ 122) || b = 95 || 128 ≤ b

def keywords : List GoString :=
  [ascii "break", ascii "case", ascii "chan", ascii "const", ascii "continue", ascii "default",
   ascii "defer", ascii "else", ascii "fallthrough", ascii "for", ascii "func", ascii "go",
   ascii "goto", ascii "if", ascii "import", ascii "interface", ascii "map", ascii "package",
   ascii "range", ascii "return", ascii "select", ascii "struct", ascii "switch", ascii "type",
   ascii "var"]

section Identifiers

variable (unicode : GoString → Bool)

/-- Letters and digits, with a letter first, that are no keyword. Of a name with characters
    beyond ASCII `unicode` tells whether it is made so. -/
def isIdentifier (s : GoString) : Bool :=
  match s with
  | [] => false
  | b :: rest =>
      !isDigit b && (b :: rest).all isIdentByte && !keywords.contains (b :: rest) &&
        ((b :: rest).all (· < 128) || unicode (b :: rest))

/-- The identifier that a text starts with, and the text after it. Outside of comments and
    strings only names have characters beyond ASCII, so a name goes as far as its bytes. -/
def readIdentifier (s : GoString) : Option (GoString × GoString) :=
  if isIdentifier unicode (s.takeWhile isIdentByte) then
    some (s.takeWhile isIdentByte, s.dropWhile isIdentByte)
  else none

end Identifiers

/-! ## Blanks -/

def isBlank (b : UInt8) : Bool := b = 32 || b = 9 || b = 13

def skipBlanks (s : GoString) : GoString := s.dropWhile isBlank

/-- Line ends count as blanks where no semicolon can stand. -/
def skipSpace (s : GoString) : GoString := s.dropWhile fun b => isBlank b || b = 10

/-! ## Parameters -/

/-- What stands between two commas of a parameter list. -/
inductive Param (τ : Type) where
  | name (Name : GoString)
  | named (Name : GoString) (Typ : Expr τ)
  | typ (Typ : Expr τ)

def Param.isNamed : Param τ → Bool
  | .named _ _ => true
  | _ => false

/-- The text goes on with a comma or a closing parenthesis. -/
def endsParam (s : GoString) : Bool := s.head? = some 44 || s.head? = some 41

/-- The text goes on with the end of a method. -/
def endsMethod (s : GoString) : Bool :=
  s = [] || s.head? = some 10 || s.head? = some 59 || s.head? = some 125

/-- What the grammar leaves open: which names beyond ASCII are identifiers, and how a type
    is read. -/
structure Reader (τ : Type) where
  unicode : GoString → Bool
  read : GoString → Option (Expr τ × GoString)

section Reader

variable (R : Reader τ)

/-- `parseParamDecl`: what follows an identifier decides whether it is a name. -/
def parseParamDecl (s : GoString) : Option (Param τ × GoString) :=
  match readIdentifier R.unicode s with
  | none => (R.read s).map fun r => (.typ r.1, r.2)
  | some (name, s') =>
      if endsParam (skipBlanks s') then some (.name name, skipBlanks s')
      else
        match R.read (skipBlanks s') with
        | some (typ, s'') => some (.named name typ, s'')
        | none => (R.read s).map fun r => (.typ r.1, r.2)

/-- The parameters up to the closing parenthesis, at most `fuel` of them. -/
def parseParams : Nat → GoString → Option (List (Param τ) × GoString)
  | 0, _ => none
  | fuel + 1, s =>
      if (skipSpace s).head? = some 41 then some ([], (skipSpace s).tail)
      else
        match parseParamDecl R (skipSpace s) with
        | none => none
        | some (param, s') =>
            match skipBlanks s' with
            | 44 :: s'' => (parseParams fuel s'').map fun r => (param :: r.1, r.2)
            | 41 :: s'' => some ([param], s'')
            | _ => none

/-- The fields of parameters that are all named, where `names` wait for their type. -/
def collect (names : List GoString) : List (Param τ) → Option (List (Field τ))
  | [] => if names = [] then some [] else none
  | .name Name :: params => collect (names ++ [Name]) params
  | .named Name Typ :: params =>
      (collect [] params).map fun fields => { Names := names ++ [Name], Typ := Typ } :: fields
  | .typ _ :: _ => none

/-- The field of a parameter in a list of types. -/
def Param.unnamed : Param τ → Field τ
  | .name Name => { Names := [], Typ := .Ident Name }
  | .named _ Typ => { Names := [], Typ := Typ }
  | .typ Typ => { Names := [], Typ := Typ }

/-- The fields that a list of parameters stands for. -/
def distribute (params : List (Param τ)) : Option (List (Field τ)) :=
  if params.all (fun param => !param.isNamed) then some (params.map Param.unnamed)
  else collect [] params

/-- `parseParameters`, after the opening parenthesis. -/
def parseParameters (s : GoString) : Option (List (Field τ) × GoString) := do
  let (params, rest) ← parseParams R (s.length + 1) s
  let fields ← distribute params
  return (fields, rest)

/-- `parseResult`. -/
def parseResult (s : GoString) : Option (List (Field τ) × GoString) :=
  if (skipBlanks s).head? = some 40 then parseParameters R (skipBlanks s).tail
  else if endsMethod (skipBlanks s) then some ([], skipBlanks s)
  else (R.read (skipBlanks s)).map fun r => ([{ Names := [], Typ := r.1 }], r.2)

/-- A method of an interface, with no results where they are absent. -/
structure MethodSpec (τ : Type) where
  Name : GoString
  Params : List (Field τ)
  Results : List (Field τ)
deriving DecidableEq

/-- `parseMethodSpec`. -/
def parseMethodSpec (s : GoString) : Option (MethodSpec τ × GoString) := do
  let (name, s) ← readIdentifier R.unicode s
  if (skipBlanks s).head? = some 40 then
    let (params, s) ← parseParameters R (skipBlanks s).tail
    let (results, s) ← parseResult R s
    return ({ Name := name, Params := params, Results := results }, s)
  else none

/-- What is left after a method, without a semicolon. -/
def skipSemicolon (s : GoString) : GoString := if s.head? = some 59 then s.tail else s

/-- The methods of an interface up to its closing brace, at most `fuel` of them. -/
def parseMethods : Nat → GoString → Option (List (MethodSpec τ) × GoString)
  | 0, _ => none
  | fuel + 1, s =>
      if (skipSpace s).head? = some 125 then some ([], (skipSpace s).tail)
      else
        match parseMethodSpec R (skipSpace s) with
        | none => none
        | some (method, s') =>
            if endsMethod (skipBlanks s') then
              (parseMethods fuel (skipSemicolon (skipBlanks s'))).map fun r => (method :: r.1, r.2)
            else none

end Reader

/-! ## Types -/

/-- A text that can follow a type. -/
def delimits (s : GoString) : Bool := s = [] || s.head? = some 44 || s.head? = some 41 || s.head? = some 10

/-- The bytes that neither a type nor an identifier starts with: blanks and line ends,
    parentheses, commas, semicolons and closing braces. -/
def separators : List UInt8 := [32, 9, 13, 10, 40, 41, 44, 59, 125]

/-- The text starts with something that is no separator. -/
def StartsToken (s : GoString) : Prop := ∃ b rest, s = b :: rest ∧ b ∉ separators

/-- Go's syntax of types: a reader of types, and those it reads back as they are printed,
    with no parentheses around them. -/
structure TypeSyntax (T : Tools τ) extends Reader τ where
  valid : Expr τ → Prop
  valid_Ident : ∀ name, isIdentifier unicode name = true → valid (.Ident name)
  formatNode_Ident : ∀ name, isIdentifier unicode name = true → T.formatNode (.Ident name) = name
  read_formatNode : ∀ t, valid t → ∀ rest, delimits rest = true →
    read (T.formatNode t ++ rest) = some (t, rest)
  starts : ∀ t, valid t → StartsToken (T.formatNode t)
  /-- A type that starts with an identifier and goes on is qualified or has arguments,
      and what is left without the identifier is no type. -/
  qualified : ∀ t, valid t → ∀ name b s, isIdentifier unicode name = true →
    T.formatNode t = name ++ b :: s → isIdentByte b = false →
      (b = 46 ∨ b = 91) ∧ ∀ rest, delimits rest = true → read (b :: s ++ rest) = none

end Nvfm.Generator
