-- SUMMARY: extractMethods: the walk over a source tree, and the methods it collects.
import Nvfm.Generator.Syntax
import Nvfm.Files.Tree

/-!
# Extraction

`extractMethods` parses every eligible file below a directory and collects the
function declarations that pass its checks, sorted by name. It fails exactly when
a directory cannot be read or an eligible file does not parse.
-/

namespace Nvfm.Generator

open Go Files

variable {τ : Type}

/-- A tree of source files. -/
abbrev Tree := Node GoString (List UInt8)

inductive ExtractError where
  | walk (path : List GoString)
  | parse (path : List GoString)
deriving DecidableEq

/-- `parser.ParseFile` on a file, which has to be read first. -/
def readAndParse (T : Tools τ) (readable : Bool) (content : List UInt8) : Option (File τ) :=
  if readable then T.ParseFile content else none

/-- One turn of the loop over the declarations of a file. -/
def appendMethod (T : Tools τ) (iface : GeneratableInterface) (methods : List (FuncDecl τ))
    (decl : Decl τ) : List (FuncDecl τ) :=
  match decl with
  | .FuncDecl fn => if fn.isMethodOf T iface then methods ++ [fn] else methods
  | .GenDecl => methods

/-- The function `extractMethods` walks with. -/
def visit (T : Tools τ) (iface : GeneratableInterface) (v : Visit GoString (List UInt8))
    (methods : List (FuncDecl τ)) : Except ExtractError (List (FuncDecl τ)) :=
  match v with
  | .failed path => .error (.walk path)
  | .entry _ (.dir _ _ _ _) => .ok methods
  | .entry path (.file name readable _ content) =>
      if Ext name ≠ ascii ".go" then .ok methods
      else if isSkipped name then .ok methods
      else
        match readAndParse T readable content with
        | none => .error (.parse path)
        | some file => .ok (file.Decls.foldl (appendMethod T iface) methods)

def extractMethods (T : Tools τ) (S : MethodSort τ) (root : Option Tree)
    (iface : GeneratableInterface) : Except ExtractError (List (FuncDecl τ)) := do
  let methods ← WalkDir (visit T iface) root []
  return S.sort methods

/-! ## What the walk meets -/

def asFunction? : Decl τ → Option (FuncDecl τ)
  | .FuncDecl fn => some fn
  | .GenDecl => none

def File.functions (file : File τ) : List (FuncDecl τ) := file.Decls.filterMap asFunction?

/-- The file that a visit parses, with its path. -/
def source? (T : Tools τ) : Visit GoString (List UInt8) → Option (List GoString × File τ)
  | .entry path (.file name readable _ content) =>
      if isEligible name then (readAndParse T readable content).map fun file => (path, file) else none
  | _ => none

/-- The eligible files of a tree, in the order of the walk. -/
def sources (T : Tools τ) (root : Option Tree) : List (List GoString × File τ) :=
  (visits root).filterMap (source? T)

/-- A visit that is no error: a directory that can be read, a file that is left out or
    one that parses. -/
def visitParses (T : Tools τ) : Visit GoString (List UInt8) → Bool
  | .failed _ => false
  | .entry _ (.dir _ _ _ _) => true
  | .entry _ (.file name readable _ content) =>
      !isEligible name || (readAndParse T readable content).isSome

/-- Every directory of the tree can be read, and every eligible file parses. -/
def Parses (T : Tools τ) (root : Option Tree) : Prop := ∀ v ∈ visits root, visitParses T v = true

instance (T : Tools τ) (root : Option Tree) : Decidable (Parses T root) :=
  inferInstanceAs (Decidable (∀ v ∈ visits root, visitParses T v = true))

/-- The function declarations of the eligible files. -/
def functions (T : Tools τ) (root : Option Tree) : List (FuncDecl τ) :=
  (sources T root).flatMap fun source => source.2.functions

theorem foldl_appendMethod (T : Tools τ) (iface : GeneratableInterface) (decls : List (Decl τ))
    (methods : List (FuncDecl τ)) :
    decls.foldl (appendMethod T iface) methods =
      methods ++ (decls.filterMap asFunction?).filter (·.isMethodOf T iface) := by
  induction decls generalizing methods with
  | nil => exact (List.append_nil methods).symm
  | cons decl decls ih =>
      rw [List.foldl_cons, ih]
      cases decl with
      | GenDecl => rfl
      | FuncDecl fn =>
          simp only [appendMethod, List.filterMap_cons, asFunction?, List.filter_cons]
          split
          · rw [List.append_assoc]
            rfl
          · rfl

/-- A visit that is no error adds the methods of the file it parses, if any. -/
theorem visit_of_parses {T : Tools τ} {v : Visit GoString (List UInt8)}
    (iface : GeneratableInterface) (methods : List (FuncDecl τ)) (h : visitParses T v = true) :
    visit T iface v methods = .ok (methods ++
      ((source? T v).toList.flatMap fun source => source.2.functions).filter
        (·.isMethodOf T iface)) := by
  cases v with
  | failed path => cases h
  | entry path node =>
      cases node with
      | dir name readable writable entries =>
          simp [visit, source?]
      | file name readable writable content =>
          simp only [visitParses] at h
          simp only [visit, source?]
          split
          · next hext => simp [isEligible, hext]
          · next hext =>
              split
              · next hskip => simp [isEligible, hskip]
              · next hskip =>
                  have heligible : isEligible name = true := by
                    simp only [ne_eq, not_not] at hext
                    simp [isEligible, hext, hskip]
                  rw [heligible, Bool.not_true, Bool.false_or] at h
                  obtain ⟨file, hfile⟩ := Option.isSome_iff_exists.1 h
                  simp only [hfile, heligible, if_true, Option.map_some]
                  rw [foldl_appendMethod]
                  simp [File.functions]

theorem visit_of_not_parses {T : Tools τ} {v : Visit GoString (List UInt8)}
    (iface : GeneratableInterface) (methods : List (FuncDecl τ)) (h : visitParses T v = false) :
    ∃ e, visit T iface v methods = .error e := by
  cases v with
  | failed path => exact ⟨.walk path, rfl⟩
  | entry path node =>
      cases node with
      | dir name readable writable entries => cases h
      | file name readable writable content =>
          simp only [visitParses, Bool.or_eq_false_iff, Bool.not_eq_false'] at h
          obtain ⟨heligible, hparse⟩ := h
          simp only [isEligible, Bool.and_eq_true, decide_eq_true_eq, Bool.not_eq_true'] at heligible
          refine ⟨.parse path, ?_⟩
          simp [visit, heligible.1, heligible.2, Option.isNone_iff_eq_none.1
            (Option.isSome_eq_false_iff.1 hparse)]

/-- The walk over visits that are no errors collects their methods in order. -/
theorem foldlM_visit_of_parses {T : Tools τ} (iface : GeneratableInterface)
    {vs : List (Visit GoString (List UInt8))} (h : ∀ v ∈ vs, visitParses T v = true)
    (methods : List (FuncDecl τ)) :
    vs.foldlM (fun methods v => visit T iface v methods) methods = .ok (methods ++
      ((vs.filterMap (source? T)).flatMap fun source => source.2.functions).filter
        (·.isMethodOf T iface)) := by
  induction vs generalizing methods with
  | nil => exact congrArg Except.ok (List.append_nil methods).symm
  | cons v vs ih =>
      rw [List.foldlM_cons, visit_of_parses iface methods (h v List.mem_cons_self)]
      change vs.foldlM _ _ = _
      rw [ih fun v hv => h v (List.mem_cons_of_mem _ hv), List.append_assoc, ← List.filter_append,
        List.filterMap_cons]
      cases source? T v with
      | none => rfl
      | some source => simp

theorem foldlM_visit_of_not_parses {T : Tools τ} (iface : GeneratableInterface)
    {vs : List (Visit GoString (List UInt8))} (h : ¬ ∀ v ∈ vs, visitParses T v = true)
    (methods : List (FuncDecl τ)) :
    ∃ e, vs.foldlM (fun methods v => visit T iface v methods) methods = .error e := by
  induction vs generalizing methods with
  | nil => exact absurd (fun v hv => absurd hv List.not_mem_nil) h
  | cons v vs ih =>
      rw [List.foldlM_cons]
      cases hv : visitParses T v with
      | false =>
          obtain ⟨e, he⟩ := visit_of_not_parses iface methods hv
          rw [he]
          exact ⟨e, rfl⟩
      | true =>
          rw [visit_of_parses iface methods hv]
          refine ih ?_ _
          intro hall
          refine h fun u hu => ?_
          rcases List.mem_cons.1 hu with rfl | hu
          · exact hv
          · exact hall u hu

/-! ## What is extracted -/

section Extract

variable {T : Tools τ} {root : Option Tree}

/-- The methods are the function declarations that pass the checks, sorted. -/
theorem extractMethods_of_parses (h : Parses T root) (S : MethodSort τ)
    (iface : GeneratableInterface) :
    extractMethods T S root iface =
      .ok (S.sort ((functions T root).filter (·.isMethodOf T iface))) := by
  unfold extractMethods
  rw [WalkDir_eq_foldlM, foldlM_visit_of_parses iface h]
  rfl

theorem extractMethods_of_not_parses (h : ¬ Parses T root) (S : MethodSort τ)
    (iface : GeneratableInterface) : ∃ e, extractMethods T S root iface = .error e := by
  unfold extractMethods
  obtain ⟨e, he⟩ := foldlM_visit_of_not_parses iface h []
  rw [WalkDir_eq_foldlM, he]
  exact ⟨e, rfl⟩

end Extract

end Nvfm.Generator
