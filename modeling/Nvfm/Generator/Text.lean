-- SUMMARY: The texts that the generator writes: parameter lists, results, package-level methods, interfaces, and the header.
import Nvfm.Generator.Syntax

/-!
# Text

The texts are made of names and printed types alone, so methods with the same
signatures give the same texts. The comment that opens the generated file is left
open.
-/

namespace Nvfm.Generator

open Go

variable {τ : Type}

/-- `strings.Join`. -/
def Join (parts : List GoString) (sep : GoString) : GoString := sep.intercalate parts

/-- One turn of the loop of `fieldList`. -/
def fieldPart (T : Tools τ) (field : Field τ) : GoString :=
  if field.Names.length = 0 then T.formatNode field.Typ
  else Join field.Names (ascii ", ") ++ ascii " " ++ T.formatNode field.Typ

def fieldList (T : Tools τ) (fields : Option (List (Field τ))) : GoString :=
  match fields with
  | none => ascii "()"
  | some list => ascii "(" ++ Join (list.map (fieldPart T)) (ascii ", ") ++ ascii ")"

def results (T : Tools τ) (fields : Option (List (Field τ))) : GoString :=
  match fields with
  | none => []
  | some [] => []
  | some [field] =>
      if field.Names.length = 0 then ascii " " ++ T.formatNode field.Typ
      else ascii " " ++ fieldList T (some [field])
  | some (field :: field' :: list) => ascii " " ++ fieldList T (some (field :: field' :: list))

/-- The line of a method in `packageMethods`. -/
def packageMethodLine (iface : GeneratableInterface) (method : FuncDecl τ) : GoString :=
  ascii "\t" ++ method.Name ++ ascii " = " ++ iface.PackageMethodsAliasedFrom ++ ascii "." ++
    method.Name ++ ascii "\n"

def packageMethods (iface : GeneratableInterface) (methods : List (FuncDecl τ)) : GoString :=
  ascii "// The variables below represent package-level methods from the " ++ iface.Typ ++
    ascii " type.\n" ++ ascii "var (\n" ++ methods.flatMap (packageMethodLine iface) ++ ascii ")\n"

/-- The text of a method in an interface. -/
def methodText (T : Tools τ) (method : FuncDecl τ) : GoString :=
  method.Name ++ fieldList T method.Typ.Params ++ results T method.Typ.Results

/-- The line of a method in `interfaceDefinition`. -/
def interfaceMethodLine (T : Tools τ) (method : FuncDecl τ) : GoString :=
  ascii "\t" ++ methodText T method ++ ascii "\n"

def interfaceDefinition (T : Tools τ) (iface : GeneratableInterface) (methods : List (FuncDecl τ)) :
    GoString :=
  ascii "// " ++ iface.Interface ++ ascii " represents the interface for the " ++ iface.Typ ++
    ascii " type.\n" ++ ascii "type " ++ iface.Interface ++ ascii " interface \x7b\n" ++
    methods.flatMap (interfaceMethodLine T) ++ ascii "\x7d\n"

/-- The text before the methods, which starts with a comment. -/
def header (comment : GoString) : GoString :=
  comment ++ ascii "\n// Generated Code; DO NOT EDIT.\n\npackage nvfm\n\n"

/-! ## What the texts depend on -/

/-- The name of a method, its parameters and its results. -/
def FuncDecl.signature (fn : FuncDecl τ) : GoString × FuncType τ := (fn.Name, fn.Typ)

section Signatures

variable {methods methods' : List (FuncDecl τ)}

/-- A text made of one line for each method is a text of the signatures. -/
theorem flatMap_of_signature {line : FuncDecl τ → GoString} (f : GoString × FuncType τ → GoString)
    (hline : ∀ fn, line fn = f fn.signature)
    (h : methods.map FuncDecl.signature = methods'.map FuncDecl.signature) :
    methods.flatMap line = methods'.flatMap line := by
  have hmap : ∀ ms : List (FuncDecl τ), ms.flatMap line = (ms.map FuncDecl.signature).flatMap f := by
    intro ms
    rw [List.flatMap_map]
    exact congrArg (ms.flatMap ·) (funext hline)
  rw [hmap, hmap, h]

theorem packageMethods_of_signature (iface : GeneratableInterface)
    (h : methods.map FuncDecl.signature = methods'.map FuncDecl.signature) :
    packageMethods iface methods = packageMethods iface methods' := by
  have hlines : methods.flatMap (packageMethodLine iface) = methods'.flatMap (packageMethodLine iface) :=
    flatMap_of_signature (fun s => ascii "\t" ++ s.1 ++ ascii " = " ++
      iface.PackageMethodsAliasedFrom ++ ascii "." ++ s.1 ++ ascii "\n") (fun _ => rfl) h
  unfold packageMethods
  rw [hlines]

theorem interfaceDefinition_of_signature (T : Tools τ) (iface : GeneratableInterface)
    (h : methods.map FuncDecl.signature = methods'.map FuncDecl.signature) :
    interfaceDefinition T iface methods = interfaceDefinition T iface methods' := by
  have hlines : methods.flatMap (interfaceMethodLine T) = methods'.flatMap (interfaceMethodLine T) :=
    flatMap_of_signature (fun s => ascii "\t" ++ (s.1 ++ fieldList T s.2.Params ++
      results T s.2.Results) ++ ascii "\n") (fun _ => rfl) h
  unfold interfaceDefinition
  rw [hlines]

end Signatures

end Nvfm.Generator
