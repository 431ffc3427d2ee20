-- SUMMARY: Which methods extractMethods returns, against those the package in the source directory declares.
import Nvfm.Generator.Extract

/-!
# Coverage

The generator is to list the methods that one Go package declares on a type: the
package in the source directory itself. It sees every directory below, and a
receiver without parentheses only. The two agree exactly on the trees that have no
method outside the package, and none with another receiver, for the walk to meet.
-/

namespace Nvfm.Generator

open Go Files

variable {τ : Type}

/-! ## Two selections from one list -/

section Selections

variable {α : Type} {p q : α → Bool}

/-- Selecting by `p` everywhere, and by `q` among the marked elements, gives the same
    elements as often exactly when the two agree on every element. -/
theorem filter_perm_filter_iff {items : List (Bool × α)} :
    ((items.filter fun x => p x.2).map (·.2)).Perm
        ((items.filter fun x => x.1 && q x.2).map (·.2)) ↔
      ∀ x ∈ items, p x.2 = (x.1 && q x.2) := by
  classical
  constructor
  · intro hperm x hx
    cases hp : p x.2 with
    | false =>
        by_contra hne
        have hx2 : (x.1 && q x.2) = true := by
          simpa using Ne.symm hne
        have hmem : x.2 ∈ (items.filter fun x => p x.2).map (·.2) :=
          hperm.mem_iff.2 (List.mem_map_of_mem (List.mem_filter.2 ⟨hx, hx2⟩))
        obtain ⟨y, hy, heq⟩ := List.mem_map.1 hmem
        have hpy : p y.2 = true := (List.mem_filter.1 hy).2
        rw [heq, hp] at hpy
        cases hpy
    | true =>
        -- Among the elements equal to `x.2` the first selection keeps all, so the second
        -- keeps as many, and therefore all of them too.
        have hcount := hperm.countP_eq fun a => decide (a = x.2)
        rw [List.countP_map, List.countP_map, List.countP_filter, List.countP_filter] at hcount
        have hfirst : (items.filter fun y => decide (y.2 = x.2)).filter (fun y => y.1 && q y.2) =
            items.filter fun y => decide (y.2 = x.2) := by
          apply List.filter_sublist.eq_of_length
          rw [List.filter_filter, ← List.countP_eq_length_filter, ← List.countP_eq_length_filter]
          refine Eq.trans ?_ (hcount.symm.trans ?_)
          · apply List.countP_congr
            intro y _
            simp [and_comm]
          · apply List.countP_congr
            intro y _
            have himp : y.2 = x.2 → p y.2 = true := fun h => h ▸ hp
            simpa using himp
        have hmem : x ∈ items.filter fun y => decide (y.2 = x.2) :=
          List.mem_filter.2 ⟨hx, decide_eq_true rfl⟩
        exact (List.filter_eq_self.1 hfirst x hmem).symm
  · intro h
    rw [List.filter_congr h]

end Selections

/-! ## Methods of a package -/

/-- An expression without the parentheses around it. -/
def unparen : Expr τ → Expr τ
  | .ParenExpr X => unparen X
  | e => e

/-- The expression is the type `name` or a pointer to it, as Go reads a receiver. -/
def Expr.denotes (name : GoString) (e : Expr τ) : Bool :=
  match unparen e with
  | .Ident Name => Name = name
  | .StarExpr X =>
      match unparen X with
      | .Ident Name => Name = name
      | _ => false
  | _ => false

/-- The function is declared on the type `name`: it has one receiver, of that type. -/
def FuncDecl.declaredOn (name : GoString) (fn : FuncDecl τ) : Bool :=
  match fn.Recv with
  | some [recv] => decide (recv.Names.length ≤ 1) && recv.Typ.denotes name
  | _ => false

/-- The function belongs into the generated API. -/
def FuncDecl.isWanted (T : Tools τ) (iface : GeneratableInterface) (fn : FuncDecl τ) : Bool :=
  fn.declaredOn iface.Typ && (T.isExported fn.Name && !Contains iface.Exclude fn.Name)

/-- The file lies in the source directory itself and belongs to the package `pkg`. -/
def inPackage (pkg : GoString) (source : List GoString × File τ) : Bool :=
  decide (source.1.length = 1) && decide (source.2.Name = pkg)

/-- What the API has to cover: the wanted methods of the package in the source directory. -/
def declaredMethods (T : Tools τ) (root : Option Tree) (pkg : GoString)
    (iface : GeneratableInterface) : List (FuncDecl τ) :=
  (((sources T root).filter (inPackage pkg)).flatMap fun source => source.2.functions).filter
    (·.isWanted T iface)

/-- The function has one receiver, spelled `name` or `*name`. -/
def FuncDecl.PlainOn (name : GoString) (fn : FuncDecl τ) : Prop :=
  ∃ recv, fn.Recv = some [recv] ∧ recv.Names.length ≤ 1 ∧
    (recv.Typ = .Ident name ∨ recv.Typ = .StarExpr (.Ident name))

/-- The trees on which the walk finds the methods of the package, and no others. -/
structure PlainTree (T : Tools τ) (root : Option Tree) (pkg : GoString)
    (iface : GeneratableInterface) : Prop where
  /-- The methods of the package have no parentheses in their receivers. -/
  own : ∀ source ∈ sources T root, inPackage pkg source = true → ∀ fn ∈ source.2.functions,
    fn.isMethodOf T iface = true ∨ fn.isWanted T iface = true → fn.PlainOn iface.Typ
  /-- No other file, such as one in a subdirectory, has a method that passes the checks. -/
  foreign : ∀ source ∈ sources T root, inPackage pkg source = false → ∀ fn ∈ source.2.functions,
    fn.isMethodOf T iface = false

/-! ## One declaration -/

section Declaration

variable {T : Tools τ} {iface : GeneratableInterface} {fn : FuncDecl τ}

theorem typ_ne_nil (h : iface ∈ generatableInterfaces) : iface.Typ ≠ [] := by
  revert iface
  decide

/-- Where both the generator and Go find the type `name`, it is spelled plainly. -/
theorem plain_of_denotes {name : GoString} {e : Expr τ} (hname : name ≠ [])
    (hgen : receiverType e = name) (hgo : e.denotes name = true) :
    e = .Ident name ∨ e = .StarExpr (.Ident name) := by
  cases e with
  | Ident Name => exact .inl (congrArg Expr.Ident hgen)
  | ParenExpr X => exact absurd hgen.symm hname
  | other typ => exact absurd hgen.symm hname
  | StarExpr X =>
      cases X with
      | Ident Name => exact .inr (congrArg (Expr.StarExpr ∘ Expr.Ident) hgen)
      | ParenExpr X => exact absurd hgen.symm hname
      | other typ => exact absurd hgen.symm hname
      | StarExpr X => cases hgo

theorem isMethodOf_eq_true_iff :
    fn.isMethodOf T iface = true ↔ (∃ recv recvs, fn.Recv = some (recv :: recvs) ∧
      receiverType recv.Typ = iface.Typ) ∧ T.isExported fn.Name = true ∧ fn.Name ∉ iface.Exclude := by
  unfold FuncDecl.isMethodOf
  cases hrecv : fn.Recv with
  | none => simp
  | some list =>
      cases list with
      | nil => simp
      | cons recv recvs =>
          simp only [ne_eq, ite_not]
          split
          · next htyp => simp [htyp, Contains_eq_false_iff]
          · next htyp => simp [htyp]

theorem isWanted_eq_true_iff :
    fn.isWanted T iface = true ↔ (∃ recv, fn.Recv = some [recv] ∧ recv.Names.length ≤ 1 ∧
      recv.Typ.denotes iface.Typ = true) ∧ T.isExported fn.Name = true ∧ fn.Name ∉ iface.Exclude := by
  unfold FuncDecl.isWanted FuncDecl.declaredOn
  rw [Bool.and_eq_true, Bool.and_eq_true, Bool.not_eq_true', Contains_eq_false_iff]
  refine and_congr_left fun _ => ?_
  split
  · next recv hrecv => simp [hrecv]
  · next hrecv =>
      constructor
      · intro h
        cases h
      · rintro ⟨recv, h, _⟩
        exact absurd h (hrecv recv)

/-- On one declaration of the package the generator and Go agree exactly when a plain
    receiver is all that either of them finds. -/
theorem isMethodOf_eq_isWanted_iff (hiface : iface ∈ generatableInterfaces) :
    fn.isMethodOf T iface = fn.isWanted T iface ↔
      (fn.isMethodOf T iface = true ∨ fn.isWanted T iface = true → fn.PlainOn iface.Typ) := by
  constructor
  · intro heq hor
    have hmethod : fn.isMethodOf T iface = true := by
      rcases hor with h | h
      · exact h
      · exact heq.trans h
    obtain ⟨⟨recv, hrecv, hnames, hdenotes⟩, _⟩ := isWanted_eq_true_iff.1 (heq.symm.trans hmethod)
    obtain ⟨⟨recv', recvs, hrecv', htyp⟩, _⟩ := isMethodOf_eq_true_iff.1 hmethod
    rw [hrecv] at hrecv'
    cases hrecv'
    exact ⟨recv, hrecv, hnames, plain_of_denotes (typ_ne_nil hiface) htyp hdenotes⟩
  · intro hplain
    rw [Bool.eq_iff_iff]
    constructor
    · intro hmethod
      obtain ⟨recv, hrecv, hnames, hspelled⟩ := hplain (.inl hmethod)
      have hdenotes : recv.Typ.denotes iface.Typ = true := by
        rcases hspelled with h | h <;> simp [h, Expr.denotes, unparen]
      exact isWanted_eq_true_iff.2
        ⟨⟨recv, hrecv, hnames, hdenotes⟩, (isMethodOf_eq_true_iff.1 hmethod).2⟩
    · intro hwanted
      obtain ⟨recv, hrecv, _, hspelled⟩ := hplain (.inr hwanted)
      have htyp : receiverType recv.Typ = iface.Typ := by
        rcases hspelled with h | h <;> rw [h] <;> rfl
      exact isMethodOf_eq_true_iff.2
        ⟨⟨recv, [], hrecv, htyp⟩, (isWanted_eq_true_iff.1 hwanted).2⟩

end Declaration

/-! ## The whole tree -/

section Tree

variable {T : Tools τ} {root : Option Tree} {iface : GeneratableInterface}

/-- The declarations of the eligible files, marked by whether they are of the package. -/
def markedFunctions (T : Tools τ) (root : Option Tree) (pkg : GoString) : List (Bool × FuncDecl τ) :=
  (sources T root).flatMap fun source => source.2.functions.map fun fn => (inPackage pkg source, fn)

theorem functions_filter (pkg : GoString) (p : FuncDecl τ → Bool) :
    (functions T root).filter p =
      ((markedFunctions T root pkg).filter fun x => p x.2).map (·.2) := by
  unfold functions markedFunctions
  induction sources T root with
  | nil => rfl
  | cons source rest ih =>
      rw [List.flatMap_cons, List.flatMap_cons, List.filter_append, List.filter_append,
        List.map_append, ih, List.filter_map, List.map_map]
      exact congrArg (· ++ _) (List.map_id _).symm

theorem declaredMethods_eq (pkg : GoString) :
    declaredMethods T root pkg iface =
      ((markedFunctions T root pkg).filter fun x => x.1 && x.2.isWanted T iface).map (·.2) := by
  unfold declaredMethods markedFunctions
  induction sources T root with
  | nil => rfl
  | cons source rest ih =>
      rw [List.flatMap_cons, List.filter_append, List.map_append, ← ih, List.filter_cons,
        List.filter_map, List.map_map]
      cases hin : inPackage pkg source with
      | false =>
          have hnone : source.2.functions.filter
              ((fun x : Bool × FuncDecl τ => x.1 && x.2.isWanted T iface) ∘ fun fn => (false, fn)) = [] :=
            List.filter_eq_nil_iff.2 fun fn _ h => by cases h
          rw [hnone]
          rfl
      | true =>
          rw [if_pos rfl, List.flatMap_cons, List.filter_append]
          exact congrArg (· ++ _) (List.map_id _).symm

theorem extractMethods_perm_declaredMethods_iff (S : MethodSort τ) (pkg : GoString)
    (hparse : Parses T root) :
    (∃ methods, extractMethods T S root iface = .ok methods ∧
        methods.Perm (declaredMethods T root pkg iface)) ↔
      ((functions T root).filter (·.isMethodOf T iface)).Perm (declaredMethods T root pkg iface) := by
  rw [extractMethods_of_parses hparse]
  constructor
  · rintro ⟨methods, heq, hperm⟩
    cases heq
    exact (S.perm _).symm.trans hperm
  · intro hperm
    exact ⟨_, rfl, (S.perm _).trans hperm⟩

/-- The methods that are extracted are those the package declares, each as often as it
    is declared, exactly on the plain trees. -/
theorem extractMethods_perm_iff (S : MethodSort τ) (pkg : GoString) (hparse : Parses T root)
    (hiface : iface ∈ generatableInterfaces) :
    (∃ methods, extractMethods T S root iface = .ok methods ∧
        methods.Perm (declaredMethods T root pkg iface)) ↔
      PlainTree T root pkg iface := by
  rw [extractMethods_perm_declaredMethods_iff S pkg hparse, functions_filter pkg, declaredMethods_eq]
  refine (filter_perm_filter_iff (p := FuncDecl.isMethodOf T iface)
    (q := FuncDecl.isWanted T iface)).trans ?_
  constructor
  · intro h
    have hmem : ∀ source ∈ sources T root, ∀ fn ∈ source.2.functions,
        fn.isMethodOf T iface = (inPackage pkg source && fn.isWanted T iface) := by
      intro source hsource fn hfn
      exact h (inPackage pkg source, fn)
        (List.mem_flatMap.2 ⟨source, hsource, List.mem_map_of_mem hfn⟩)
    constructor
    · intro source hsource hin fn hfn
      have heq := hmem source hsource fn hfn
      rw [hin, Bool.true_and] at heq
      exact (isMethodOf_eq_isWanted_iff hiface).1 heq
    · intro source hsource hin fn hfn
      rw [hmem source hsource fn hfn, hin, Bool.false_and]
  · intro h x hx
    obtain ⟨source, hsource, hx⟩ := List.mem_flatMap.1 hx
    obtain ⟨fn, hfn, rfl⟩ := List.mem_map.1 hx
    cases hin : inPackage pkg source with
    | false => exact h.foreign source hsource hin fn hfn
    | true =>
        rw [Bool.true_and]
        exact (isMethodOf_eq_isWanted_iff hiface).2 (h.own source hsource hin fn hfn)

end Tree

/-! ## Two trees of sources -/

section Sources

def initSource : List UInt8 := ascii "package nvfm\n\nfunc (l *library) Init() Return { return SUCCESS }\n"

/-- The same method with its receiver type in parentheses. -/
def parenSource : List UInt8 := ascii "package nvfm\n\nfunc (l (*library)) Init() Return { return SUCCESS }\n"

def fakeSource : List UInt8 := ascii "package fake\n\nfunc (l library) Reset() {}\n"

/-- `Init`, with a receiver of the given type. -/
def initMethod (recv : Expr GoString) : FuncDecl GoString where
  Recv := some [{ Names := [ascii "l"], Typ := recv }]
  Name := ascii "Init"
  Typ := { Params := some [], Results := some [{ Names := [], Typ := .Ident (ascii "Return") }] }

def resetMethod : FuncDecl GoString where
  Recv := some [{ Names := [ascii "l"], Typ := .Ident (ascii "library") }]
  Name := ascii "Reset"
  Typ := { Params := some [], Results := none }

def sampleTools : Tools GoString := tableTools
  [(initSource, { Name := ascii "nvfm"
                  Decls := [.FuncDecl (initMethod (.StarExpr (.Ident (ascii "library"))))] }),
   (parenSource, { Name := ascii "nvfm"
                   Decls := [.FuncDecl (initMethod (.ParenExpr (.StarExpr (.Ident (ascii "library")))))] }),
   (fakeSource, { Name := ascii "fake", Decls := [.FuncDecl resetMethod] })]

/-- One file in the source directory, and one of another package below it. -/
def nestedTree (source : List UInt8) : Tree :=
  .dir (ascii "nvfm") true true
    [.dir (ascii "fake") true true [.file (ascii "fake.go") true true fakeSource],
     .file (ascii "lib.go") true true source]

def flatTree (source : List UInt8) : Tree :=
  .dir (ascii "nvfm") true true [.file (ascii "lib.go") true true source]

/-- The method of a package in a subdirectory comes along. A method with its receiver in
    parentheses is missing. -/
theorem extractMethods_other :
    (Parses sampleTools (some (nestedTree initSource)) ∧
      ¬ ∃ methods, extractMethods sampleTools (SortSlice.insertion _) (some (nestedTree initSource))
          libraryInterface = .ok methods ∧
        methods.Perm (declaredMethods sampleTools (some (nestedTree initSource)) (ascii "nvfm")
          libraryInterface)) ∧
    (Parses sampleTools (some (flatTree parenSource)) ∧
      ¬ ∃ methods, extractMethods sampleTools (SortSlice.insertion _) (some (flatTree parenSource))
          libraryInterface = .ok methods ∧
        methods.Perm (declaredMethods sampleTools (some (flatTree parenSource)) (ascii "nvfm")
          libraryInterface)) := by
  have hnested : Parses sampleTools (some (nestedTree initSource)) := by decide
  have hflat : Parses sampleTools (some (flatTree parenSource)) := by decide
  rw [extractMethods_perm_declaredMethods_iff _ _ hnested, extractMethods_perm_declaredMethods_iff _ _ hflat]
  refine ⟨⟨hnested, ?_⟩, hflat, ?_⟩
  · decide
  · decide

theorem extractMethods_perm_flat :
    ∃ methods, extractMethods sampleTools (SortSlice.insertion _) (some (flatTree initSource))
        libraryInterface = .ok methods ∧
      methods.Perm (declaredMethods sampleTools (some (flatTree initSource)) (ascii "nvfm")
        libraryInterface) := by
  have hsources : sources sampleTools (some (flatTree initSource)) =
      [([ascii "lib.go"],
        { Name := ascii "nvfm"
          Decls := [.FuncDecl (initMethod (.StarExpr (.Ident (ascii "library"))))] })] := by
    rfl
  refine (extractMethods_perm_iff (SortSlice.insertion _) (ascii "nvfm") (by decide)
    List.mem_cons_self).2 ⟨?_, ?_⟩
  · intro source hsource _ fn hfn _
    rw [hsources, List.mem_singleton] at hsource
    subst hsource
    obtain rfl := List.mem_singleton.1 hfn
    exact ⟨_, rfl, by decide, .inr rfl⟩
  · intro source hsource hin
    rw [hsources, List.mem_singleton] at hsource
    subst hsource
    cases hin

end Sources

end Nvfm.Generator
