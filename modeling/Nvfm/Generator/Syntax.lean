-- SUMMARY: The Go syntax the generator works on, its table of interfaces, and what it takes from Go's packages.
import Nvfm.Go.Sorting

/-!
# Syntax

The parts of `go/ast` that `generateapi.go` looks at. A type that is neither a
name nor built from one by stars and parentheses is of the type `τ` and is not
looked into. Bodies, comments and positions play no part: the files are parsed
without comments, and nodes are printed with an empty file set.
-/

namespace Nvfm.Generator

open Go

variable {τ : Type}

/-- `ast.Expr`. -/
inductive Expr (τ : Type) where
  | Ident (Name : GoString)
  | StarExpr (X : Expr τ)
  | ParenExpr (X : Expr τ)
  | other (typ : τ)
deriving DecidableEq

/-- `ast.Field`: parameters that share one type, without names when there are none. -/
structure Field (τ : Type) where
  Names : List GoString
  Typ : Expr τ
deriving DecidableEq

/-- `ast.FuncType`. A field list that is nil is `none`. -/
structure FuncType (τ : Type) where
  Params : Option (List (Field τ))
  Results : Option (List (Field τ))
deriving DecidableEq

/-- `ast.FuncDecl`. -/
structure FuncDecl (τ : Type) where
  Recv : Option (List (Field τ))
  Name : GoString
  Typ : FuncType τ
deriving DecidableEq

inductive Decl (τ : Type) where
  | FuncDecl (fn : FuncDecl τ)
  | GenDecl

/-- `ast.File`: the name of its package, and its declarations. -/
structure File (τ : Type) where
  Name : GoString
  Decls : List (Decl τ)

/-- What the generator takes from Go's own packages. -/
structure Tools (τ : Type) where
  /-- `ast.Ident.IsExported`. -/
  isExported : GoString → Bool
  /-- `parser.ParseFile` on the content of a file, `none` for an error. -/
  ParseFile : List UInt8 → Option (File τ)
  /-- `printer.Fprint` of a type. -/
  formatNode : Expr τ → GoString
  /-- `format.Source`. -/
  formatSource : GoString → Option GoString

/-- The text of an expression, where those of other types are given as texts. -/
def Expr.text : Expr GoString → GoString
  | .Ident Name => Name
  | .StarExpr X => ascii "*" ++ X.text
  | .ParenExpr X => ascii "(" ++ X.text ++ ascii ")"
  | .other typ => typ

/-- Go's packages for source files from a table, and a text that is formatted as it stands. -/
def tableTools (table : List (List UInt8 × File GoString)) : Tools GoString where
  isExported name := match name with
    | [] => false
    | b :: _ => decide (65 ≤ b ∧ b ≤ 90)
  ParseFile content := (table.find? fun entry => decide (entry.1 = content)).map (·.2)
  formatNode := Expr.text
  formatSource := some

/-- `sort.Slice` with the comparison of `extractMethods`. -/
abbrev MethodSort (τ : Type) := SortSlice (FuncDecl.Name : FuncDecl τ → GoString)

/-! ## The table of interfaces -/

/-- `generatableInterface`. -/
structure GeneratableInterface where
  Typ : GoString
  Interface : GoString
  Exclude : List GoString
  PackageMethodsAliasedFrom : GoString

def libraryInterface : GeneratableInterface where
  Typ := ascii "library"
  Interface := ascii "Interface"
  Exclude := [ascii "LookupSymbol"]
  PackageMethodsAliasedFrom := ascii "libnvfm"

def fabricManagerInterface : GeneratableInterface where
  Typ := ascii "fabricManager"
  Interface := ascii "Handle"
  Exclude := []
  PackageMethodsAliasedFrom := []

def generatableInterfaces : List GeneratableInterface := [libraryInterface, fabricManagerInterface]

/-! ## Receivers -/

/-- `receiverType`. -/
def receiverType : Expr τ → GoString
  | .Ident Name => Name
  | .StarExpr X => receiverType X
  | _ => []

/-- `slices.Contains`. -/
def Contains (s : List GoString) (v : GoString) : Bool := v ∈ s

theorem Contains_eq_false_iff {s : List GoString} {v : GoString} : Contains s v = false ↔ v ∉ s :=
  decide_eq_false_iff_not

/-- The checks of `extractMethods` on one function declaration. -/
def FuncDecl.isMethodOf (T : Tools τ) (iface : GeneratableInterface) (fn : FuncDecl τ) : Bool :=
  match fn.Recv with
  | none => false
  | some [] => false
  | some (recv :: _) =>
      if receiverType recv.Typ ≠ iface.Typ then false
      else if T.isExported fn.Name = false then false
      else if Contains iface.Exclude fn.Name then false
      else true

/-! ## File names -/

/-- `filepath.Ext` of a base name: from its last dot on. -/
def Ext (base : GoString) : GoString :=
  let tail := base.reverse.takeWhile (· ≠ 46)
  if tail.length = base.length then [] else 46 :: tail.reverse

/-- `strings.HasSuffix`. -/
def HasSuffix (s suffix : GoString) : Bool := suffix.isSuffixOf s

/-- The Go files that are left out by name. -/
def isSkipped (base : GoString) : Bool :=
  base = ascii "zz_generated.api.go" || base = ascii "types.go" ||
    HasSuffix base (ascii "_test.go") || HasSuffix base (ascii "_mock.go")

/-- The names of the files that are parsed. -/
def isEligible (base : GoString) : Bool := Ext base = ascii ".go" && !isSkipped base

end Nvfm.Generator
