-- SUMMARY: The generated text depends on the multiset of signatures alone, and generating once more changes nothing.
import Nvfm.Generator.Coverage
import Nvfm.Generator.Run

/-!
# Layout

Distinct names have only one increasing order, so the order in which the walk comes
upon the methods is lost, and with it the files they are in. Nothing else of a
source file reaches the text.
-/

namespace Nvfm.Generator

open Go Files

variable {τ : Type} {T : Tools τ}

/-! ## Sorted methods -/

section Sorted

variable {root root' : Option Tree} {iface : GeneratableInterface}

/-- The methods of an interface have names of their own. -/
def DistinctNames (T : Tools τ) (root : Option Tree) (iface : GeneratableInterface) : Prop :=
  (((functions T root).filter (·.isMethodOf T iface)).map FuncDecl.Name).Nodup

/-- Two trees hold the same methods of an interface, each as often. -/
def SameMethods (T : Tools τ) (root root' : Option Tree) (iface : GeneratableInterface) : Prop :=
  (((functions T root).filter (·.isMethodOf T iface)).map FuncDecl.signature).Perm
    (((functions T root').filter (·.isMethodOf T iface)).map FuncDecl.signature)

theorem SameMethods.refl (T : Tools τ) (root : Option Tree) (iface : GeneratableInterface) :
    SameMethods T root root iface :=
  List.Perm.refl _

theorem signature_sortedMethods (S S' : MethodSort τ) (hsame : SameMethods T root root' iface)
    (hdistinct : DistinctNames T root iface) :
    (sortedMethods T S root iface).map FuncDecl.signature =
      (sortedMethods T S' root' iface).map FuncDecl.signature :=
  SortSlice.map_sort_eq S S' (k := Prod.fst) (fun _ => rfl) hsame hdistinct

theorem sortedMethods_increasing (S : MethodSort τ) (hdistinct : DistinctNames T root iface) :
    (sortedMethods T S root iface).Pairwise fun m m' => m.Name < m'.Name :=
  S.pairwise_lt hdistinct

/-- The whole text is made from the signatures. -/
theorem generated_of_signature (comment : GoString) {methods methods' : GeneratableInterface → List (FuncDecl τ)}
    (h : ∀ iface ∈ generatableInterfaces,
      (methods iface).map FuncDecl.signature = (methods' iface).map FuncDecl.signature) :
    generated T comment methods = generated T comment methods' := by
  have hlibrary := h libraryInterface List.mem_cons_self
  have hmanager := h fabricManagerInterface (List.mem_cons_of_mem _ List.mem_cons_self)
  unfold generated
  rw [packageMethods_of_signature libraryInterface hlibrary,
    interfaceDefinition_of_signature T libraryInterface hlibrary,
    interfaceDefinition_of_signature T fabricManagerInterface hmanager]

end Sorted

/-! ## Generating once more -/

section Again

/-- Whatever sort it uses, a second run after one that succeeded does what the first did. -/
theorem main_again {S : MethodSort τ} (S' : MethodSort τ) {comment : GoString} {fs : Tree}
    {dir path : List GoString}
    (hok : (main T S comment fs (some dir) (some path) none).1 = .ok)
    (hdistinct : ∀ iface ∈ generatableInterfaces, DistinctNames T (walkedTree fs dir (some path)) iface) :
    main T S' comment (main T S comment fs (some dir) (some path) none).2 (some dir) (some path) none =
      main T S comment fs (some dir) (some path) none := by
  obtain ⟨_, fs', buf, formatted, hdir, hwriter, hgen, hformat, hmain⟩ := main_ok hok
  cases hdir
  have hcreate : create [] path fs = some fs' := hwriter
  have hparse : Parses T (lookup dir fs') := by
    by_contra hnot
    obtain ⟨e, he⟩ := generate_of_not_parses hnot S comment
    rw [he] at hgen
    cases hgen
  have hsame : generate T S' comment (lookup dir fs') = .ok buf := by
    rw [← hgen, generate_of_parses hparse, generate_of_parses hparse]
    refine congrArg Except.ok (generated_of_signature comment ?_)
    intro iface hiface
    have hnames := hdistinct iface hiface
    rw [walkedTree, hwriter] at hnames
    exact signature_sortedMethods S' S (SameMethods.refl T _ iface) hnames
  -- The second run truncates what the first has written, and walks the same tree.
  have hagain : getWriter (some path) (write formatted path fs') = some fs' := create_write formatted hcreate
  rw [hmain]
  unfold main
  simp only [writeOutput, hagain, hsame, hformat]
  rfl

end Again

/-! ## Two layouts -/

/-- Two trees with the same methods give the same names, signatures and texts, in
    increasing order of the names, whatever the files, the order of the declarations and
    the sort. A run over the tree that a run has left does the same again. -/
theorem generated_text_of_layout (T : Tools τ) :
    (∀ (iface : GeneratableInterface) (root root' : Option Tree) (S S' : MethodSort τ),
      Parses T root → Parses T root' → SameMethods T root root' iface → DistinctNames T root iface →
        ∃ methods methods', extractMethods T S root iface = .ok methods ∧
          extractMethods T S' root' iface = .ok methods' ∧
          methods.map FuncDecl.signature = methods'.map FuncDecl.signature ∧
          methods.Pairwise (fun m m' => m.Name < m'.Name) ∧
          packageMethods iface methods = packageMethods iface methods' ∧
          interfaceDefinition T iface methods = interfaceDefinition T iface methods') ∧
    (∀ (S S' : MethodSort τ) (comment : GoString) (fs : Tree) (dir path : List GoString),
      (main T S comment fs (some dir) (some path) none).1 = .ok →
        (∀ iface ∈ generatableInterfaces, DistinctNames T (walkedTree fs dir (some path)) iface) →
          main T S' comment (main T S comment fs (some dir) (some path) none).2 (some dir) (some path)
            none = main T S comment fs (some dir) (some path) none) := by
  constructor
  · intro iface root root' S S' hparse hparse' hsame hdistinct
    have hsignature := signature_sortedMethods S S' hsame hdistinct
    refine ⟨sortedMethods T S root iface, sortedMethods T S' root' iface,
      extractMethods_of_parses hparse S iface, extractMethods_of_parses hparse' S' iface, hsignature,
      sortedMethods_increasing S hdistinct, ?_, ?_⟩
    · exact packageMethods_of_signature iface hsignature
    · exact interfaceDefinition_of_signature T iface hsignature
  · intro S S' comment fs dir path hok hdistinct
    exact main_again S' hok hdistinct

section Pair

def shutdownSource : List UInt8 :=
  ascii "package nvfm\n\nfunc (l *library) Shutdown() Return { return SUCCESS }\n"

/-- Both methods in one file, the other way round. -/
def bothSource : List UInt8 :=
  ascii "package nvfm\n\nfunc (l *library) Shutdown() Return\n\nfunc (l *library) Init() Return\n"

def shutdownMethod : FuncDecl GoString :=
  { initMethod (.StarExpr (.Ident (ascii "library"))) with Name := ascii "Shutdown" }

def pairTools : Tools GoString := tableTools
  [(initSource, { Name := ascii "nvfm"
                  Decls := [.FuncDecl (initMethod (.StarExpr (.Ident (ascii "library"))))] }),
   (shutdownSource, { Name := ascii "nvfm", Decls := [.FuncDecl shutdownMethod] }),
   (bothSource, { Name := ascii "nvfm"
                  Decls := [.FuncDecl shutdownMethod,
                            .FuncDecl (initMethod (.StarExpr (.Ident (ascii "library"))))] })]

/-- One file for each method, beside a generated file that is cut off. -/
def splitTree : Tree :=
  .dir (ascii "nvfm") true true
    [.file (ascii "init.go") true true initSource,
     .file (ascii "shutdown.go") true true shutdownSource,
     .file (ascii "zz_generated.api.go") true true (ascii "package nv")]

/-- A source directory that no output has been generated for. -/
def freshTree : Tree := .dir (ascii "go-nvfm") true true [flatTree initSource]

theorem generated_text_of_layout_pair :
    (∃ methods methods',
      extractMethods pairTools (SortSlice.insertion _) (some splitTree) libraryInterface = .ok methods ∧
        extractMethods pairTools (SortSlice.insertion _) (some (flatTree bothSource)) libraryInterface =
          .ok methods' ∧
        methods.map FuncDecl.signature = methods'.map FuncDecl.signature ∧
        methods.Pairwise (fun m m' => m.Name < m'.Name) ∧
        packageMethods libraryInterface methods = packageMethods libraryInterface methods' ∧
        interfaceDefinition pairTools libraryInterface methods =
          interfaceDefinition pairTools libraryInterface methods') ∧
    main pairTools (SortSlice.insertion _) (ascii "// Fabric manager.\n")
        (main pairTools (SortSlice.insertion _) (ascii "// Fabric manager.\n") freshTree
          (some [ascii "nvfm"]) (some [ascii "nvfm", ascii "zz_generated.api.go"]) none).2
        (some [ascii "nvfm"]) (some [ascii "nvfm", ascii "zz_generated.api.go"]) none =
      main pairTools (SortSlice.insertion _) (ascii "// Fabric manager.\n") freshTree
        (some [ascii "nvfm"]) (some [ascii "nvfm", ascii "zz_generated.api.go"]) none := by
  have hsplit : Parses pairTools (some splitTree) := by decide
  have hflat : Parses pairTools (some (flatTree bothSource)) := by decide
  refine ⟨(generated_text_of_layout pairTools).1 _ _ _ _ _ hsplit hflat ?_ ?_,
    (generated_text_of_layout pairTools).2 _ _ _ _ _ _ ?_ ?_⟩
  · unfold SameMethods
    decide
  · unfold DistinctNames
    decide
  · rfl
  · unfold DistinctNames
    decide

end Pair

end Nvfm.Generator
