-- SUMMARY: The generated file, read by Go's grammar, declares the methods of the package, as variables and in interfaces.
import Nvfm.Generator.Source
import Nvfm.Generator.RoundTrip
import Nvfm.Generator.Effects

/-!
# The Generated API

Each part of the text is read back with the next part after it. So the whole text is
read as a file of one group of variables and two interfaces, whose methods are those
that were extracted. On a plain tree these are the methods of the package.
-/

namespace Nvfm.Generator

open Go Files

variable {τ : Type}

/-! ## What a text declares -/

/-- `Name = X.Name` for a method of the value `X`. -/
def FuncDecl.alias (iface : GeneratableInterface) (fn : FuncDecl τ) : ValueSpec where
  Name := fn.Name
  X := iface.PackageMethodsAliasedFrom
  Sel := fn.Name

/-- The file that the methods of each interface make up. -/
def apiFile (methods : GeneratableInterface → List (FuncDecl τ)) : SourceFile τ where
  Name := ascii "nvfm"
  Decls :=
    [.vars ((methods libraryInterface).map (FuncDecl.alias libraryInterface)),
     .interface libraryInterface.Interface ((methods libraryInterface).map FuncDecl.spec),
     .interface fabricManagerInterface.Interface ((methods fabricManagerInterface).map FuncDecl.spec)]

/-! ## Words and lines -/

section Words

theorem readKeyword_append {keyword rest : GoString} (h : keyword.all isIdentByte = true)
    (hrest : ∀ b, rest.head? = some b → isIdentByte b = false) :
    readKeyword keyword (keyword ++ rest) = some rest := by
  obtain ⟨htake, hdrop⟩ := span_append (List.all_eq_true.1 h) hrest
  unfold readKeyword
  rw [htake, hdrop, if_pos rfl]

/-- A list of lines is at least as long as it has lines. -/
theorem length_le_length_flatMap {α : Type} {line : α → GoString} (h : ∀ x, line x ≠ [])
    (xs : List α) : xs.length ≤ (xs.flatMap line).length := by
  induction xs with
  | nil => exact Nat.le_refl 0
  | cons x xs ih =>
      have hx := List.length_pos_iff.2 (h x)
      rw [List.flatMap_cons, List.length_append, List.length_cons]
      omega

end Words

/-! ## Variables -/

section Variables

variable {iface : GeneratableInterface} {R : Reader τ}

theorem parseValueSpecs_newline (fuel : Nat) (s : GoString) :
    parseValueSpecs R fuel (10 :: s) = parseValueSpecs R fuel s := by
  cases fuel with
  | zero => rfl
  | succ fuel => rfl

/-- A variable is read back from its line. -/
theorem parseValueSpec_alias (hfrom : isIdentifier R.unicode iface.PackageMethodsAliasedFrom = true)
    {fn : FuncDecl τ} (hname : isIdentifier R.unicode fn.Name = true) (rest : GoString) :
    parseValueSpec R (fn.Name ++ 32 :: 61 :: 32 ::
        (iface.PackageMethodsAliasedFrom ++ 46 :: (fn.Name ++ 10 :: rest))) =
      some (fn.alias iface, 10 :: rest) := by
  have hskip : skipBlanks (32 :: (iface.PackageMethodsAliasedFrom ++ 46 :: (fn.Name ++ 10 :: rest))) =
      iface.PackageMethodsAliasedFrom ++ 46 :: (fn.Name ++ 10 :: rest) :=
    ((startsToken_of_isIdentifier hfrom).append _).skipBlanks_eq
  have hskip' : skipBlanks (fn.Name ++ 10 :: rest) = fn.Name ++ 10 :: rest :=
    ((startsToken_of_isIdentifier hname).append _).skipBlanks_eq
  have hequals : ∀ s : GoString, readByte 61 (32 :: 61 :: s) = some s := fun _ => rfl
  have hdot : ∀ s : GoString, readByte 46 (46 :: s) = some s := fun _ => rfl
  unfold parseValueSpec
  simp only [readIdentifier_append hname (stops_cons (b := 32) rfl _), Option.bind_eq_bind,
    Option.bind_some, hequals, hskip, readIdentifier_append hfrom (stops_cons (b := 46) rfl _), hdot,
    hskip', readIdentifier_append hname (stops_cons (b := 10) rfl _)]
  rfl

theorem parseValueSpecs_line (hfrom : isIdentifier R.unicode iface.PackageMethodsAliasedFrom = true)
    {fn : FuncDecl τ} (hname : isIdentifier R.unicode fn.Name = true) (fuel : Nat) (rest : GoString) :
    parseValueSpecs R (fuel + 1) (packageMethodLine iface fn ++ rest) =
      (parseValueSpecs R fuel (10 :: rest)).map fun r => (fn.alias iface :: r.1, r.2) := by
  have hstarts := (startsToken_of_isIdentifier hname).append
    (32 :: 61 :: 32 :: (iface.PackageMethodsAliasedFrom ++ 46 :: (fn.Name ++ 10 :: rest)))
  have hline : skipSpace (packageMethodLine iface fn ++ rest) = fn.Name ++ 32 :: 61 :: 32 ::
      (iface.PackageMethodsAliasedFrom ++ 46 :: (fn.Name ++ 10 :: rest)) := by
    have htab : packageMethodLine iface fn ++ rest = 9 :: (fn.Name ++ 32 :: 61 :: 32 ::
        (iface.PackageMethodsAliasedFrom ++ 46 :: (fn.Name ++ 10 :: rest))) := by
      simp [packageMethodLine, ascii]
    rw [htab]
    exact hstarts.skipSpace_eq
  rw [parseValueSpecs, hline, if_neg (hstarts.head?_ne (by decide)), parseValueSpec_alias hfrom hname]
  rfl

/-- All variables up to a closing parenthesis are read back, in order. -/
theorem parseValueSpecs_lines (hfrom : isIdentifier R.unicode iface.PackageMethodsAliasedFrom = true)
    {methods : List (FuncDecl τ)} (h : ∀ method ∈ methods, isIdentifier R.unicode method.Name = true)
    {fuel : Nat} (hfuel : methods.length < fuel) (rest : GoString) :
    parseValueSpecs R fuel (methods.flatMap (packageMethodLine iface) ++ 41 :: rest) =
      some (methods.map (FuncDecl.alias iface), rest) := by
  induction methods generalizing fuel with
  | nil =>
      obtain ⟨fuel, rfl⟩ := Nat.exists_eq_succ_of_ne_zero (Nat.ne_of_gt hfuel)
      rfl
  | cons method methods ih =>
      obtain ⟨fuel, rfl⟩ := Nat.exists_eq_succ_of_ne_zero (Nat.ne_of_gt (Nat.zero_lt_of_lt hfuel))
      rw [List.flatMap_cons, List.append_assoc,
        parseValueSpecs_line hfrom (h method List.mem_cons_self), parseValueSpecs_newline,
        ih (fun m hm => h m (List.mem_cons_of_mem _ hm)) (Nat.lt_of_succ_lt_succ hfuel)]
      rfl

end Variables

/-! ## Declarations -/

section Declarations

variable {T : Tools τ} {iface : GeneratableInterface} {methods : List (FuncDecl τ)}

/-- A declaration with a line of comment before it. -/
theorem parseDecls_text (R : Reader τ) {line text : GoString}
    (hline : 10 ∉ line) (hskip : skipComments false text = text) (hne : text ≠ []) {decl : TopLevel τ}
    {rest : GoString} (hdecl : parseDecl R text = some (decl, 10 :: rest)) (fuel : Nat) :
    parseDecls R (fuel + 1) (ascii "//" ++ line ++ 10 :: text) =
      (parseDecls R fuel (10 :: rest)).map (decl :: ·) := by
  rw [parseDecls_comment R (isComment_line hline), parseDecls, hskip, if_neg hne, hdecl]
  rfl

/-- The package-level methods are read as a group of variables. -/
theorem parseDecls_packageMethods (R : Reader τ)
    (hfrom : isIdentifier R.unicode iface.PackageMethodsAliasedFrom = true) (htyp : 10 ∉ iface.Typ)
    (h : ∀ method ∈ methods, isIdentifier R.unicode method.Name = true) (fuel : Nat) (rest : GoString) :
    parseDecls R (fuel + 1) (packageMethods iface methods ++ rest) =
      (parseDecls R fuel (10 :: rest)).map (.vars (methods.map (FuncDecl.alias iface)) :: ·) := by
  have htext : packageMethods iface methods ++ rest =
      ascii "//" ++ (ascii " The variables below represent package-level methods from the " ++
        iface.Typ ++ ascii " type.") ++ 10 :: (ascii "var" ++ 32 :: 40 :: 10 ::
        (methods.flatMap (packageMethodLine iface) ++ 41 :: 10 :: rest)) := by
    simp [packageMethods, ascii]
  rw [htext]
  refine parseDecls_text R ?_ rfl (by simp [ascii]) ?_ fuel
  · simp [htyp, ascii]
  · have hfuel : methods.length <
        (10 :: (methods.flatMap (packageMethodLine iface) ++ 41 :: 10 :: rest)).length + 1 := by
      have hlength : methods.length ≤ (methods.flatMap (packageMethodLine iface)).length :=
        length_le_length_flatMap (fun fn => by simp [packageMethodLine, ascii]) methods
      rw [List.length_cons, List.length_append]
      omega
    unfold parseDecl
    rw [readKeyword_append rfl (stops_cons rfl _)]
    simp only [parseVarGroup]
    have hopen : ∀ s : GoString, readByte 40 (32 :: 40 :: s) = some s := fun _ => rfl
    simp only [hopen, Option.bind_eq_bind, Option.bind_some, parseValueSpecs_newline,
      parseValueSpecs_lines hfrom h hfuel]
    rfl

/-- An interface is read with all its methods. -/
theorem parseDecls_interfaceDefinition (G : TypeSyntax T)
    (hinterface : isIdentifier G.unicode iface.Interface = true) (htyp : 10 ∉ iface.Typ)
    (h : ∀ method ∈ methods, method.WellFormed G) (fuel : Nat) (rest : GoString) :
    parseDecls G.toReader (fuel + 1) (interfaceDefinition T iface methods ++ rest) =
      (parseDecls G.toReader fuel (10 :: rest)).map
        (.interface iface.Interface (methods.map FuncDecl.spec) :: ·) := by
  have htext : interfaceDefinition T iface methods ++ rest =
      ascii "//" ++ (ascii " " ++ iface.Interface ++ ascii " represents the interface for the " ++
        iface.Typ ++ ascii " type.") ++ 10 :: (ascii "type" ++ 32 :: (iface.Interface ++ 32 ::
        (ascii "interface" ++ 32 :: 123 :: 10 ::
          (methods.flatMap (interfaceMethodLine T) ++ 125 :: 10 :: rest)))) := by
    simp [interfaceDefinition, ascii]
  have hline : 10 ∉ iface.Interface := by
    intro hmem
    cases isIdentByte_of_mem hinterface hmem
  rw [htext]
  refine parseDecls_text G.toReader ?_ rfl (by simp [ascii]) ?_ fuel
  · simp [htyp, hline, ascii]
  · have hfuel : methods.length <
        (10 :: (methods.flatMap (interfaceMethodLine T) ++ 125 :: 10 :: rest)).length + 1 := by
      have hlength : methods.length ≤ (methods.flatMap (interfaceMethodLine T)).length :=
        length_le_length_flatMap (fun fn => by simp [interfaceMethodLine, ascii]) methods
      rw [List.length_cons, List.length_append]
      omega
    have hvar : ∀ s : GoString, readKeyword (ascii "var") (ascii "type" ++ 32 :: s) = none := fun _ => rfl
    have hskip : ∀ s : GoString, skipBlanks (32 :: (iface.Interface ++ s)) = iface.Interface ++ s :=
      fun s => ((startsToken_of_isIdentifier hinterface).append s).skipBlanks_eq
    have hword : ∀ s : GoString, readKeyword (ascii "interface")
        (skipBlanks (32 :: (ascii "interface" ++ 32 :: s))) = some (32 :: s) :=
      fun s => readKeyword_append rfl (stops_cons rfl s)
    have hopen : ∀ s : GoString, readByte 123 (32 :: 123 :: s) = some s := fun _ => rfl
    unfold parseDecl
    rw [hvar, readKeyword_append rfl (stops_cons rfl _)]
    simp only [parseInterfaceType, hskip, Option.bind_eq_bind, Option.bind_some,
      readIdentifier_append hinterface (stops_cons (b := 32) rfl _), hword, hopen,
      parseMethods_newline, parseMethods_lines G h hfuel]
    rfl

end Declarations

/-! ## The whole file -/

section Whole

variable {T : Tools τ} {methods : GeneratableInterface → List (FuncDecl τ)}

theorem parseDecls_newline (R : Reader τ) (fuel : Nat) (s : GoString) :
    parseDecls R fuel (10 :: s) = parseDecls R fuel s :=
  parseDecls_comment R (s := []) rfl fuel s

/-- The text with the parts that are read one after the other. -/
theorem generated_eq (comment : GoString) :
    generated T comment methods =
      comment ++ 10 :: (ascii "// Generated Code; DO NOT EDIT." ++ 10 :: 10 :: (ascii "package" ++ 32 ::
        (ascii "nvfm" ++ 10 :: 10 ::
          (packageMethods libraryInterface (methods libraryInterface) ++ 10 ::
            (interfaceDefinition T libraryInterface (methods libraryInterface) ++ 10 ::
              (interfaceDefinition T fabricManagerInterface (methods fabricManagerInterface) ++ [])))))) := by
  simp [generated, header, ascii]

/-- The declarations are read in order. -/
theorem parseDecls_generated (G : TypeSyntax T)
    (h : ∀ iface ∈ generatableInterfaces, ∀ method ∈ methods iface, method.WellFormed G) (fuel : Nat) :
    parseDecls G.toReader (fuel + 4)
        (packageMethods libraryInterface (methods libraryInterface) ++ 10 ::
          (interfaceDefinition T libraryInterface (methods libraryInterface) ++ 10 ::
            (interfaceDefinition T fabricManagerInterface (methods fabricManagerInterface) ++ []))) =
      some (apiFile methods).Decls := by
  have hlibrary := h libraryInterface List.mem_cons_self
  have hmanager := h fabricManagerInterface (List.mem_cons_of_mem _ List.mem_cons_self)
  rw [parseDecls_packageMethods G.toReader rfl (by decide)
      fun method hmethod => (hlibrary method hmethod).name,
    parseDecls_newline, parseDecls_newline,
    parseDecls_interfaceDefinition G rfl (by decide) hlibrary,
    parseDecls_newline, parseDecls_newline,
    parseDecls_interfaceDefinition G rfl (by decide) hmanager, parseDecls_newline]
  rfl

/-- The text that is generated is read as the file its methods make up. -/
theorem parseSource_generated (G : TypeSyntax T) {comment : GoString} (hcomment : isComment comment = true)
    (h : ∀ iface ∈ generatableInterfaces, ∀ method ∈ methods iface, method.WellFormed G) :
    parseSource G.toReader (generated T comment methods) = some (apiFile methods) := by
  have hgenerated : isComment (ascii "// Generated Code; DO NOT EDIT.") = true := by rfl
  have hnewline : ∀ s : GoString, skipComments false (10 :: s) = skipComments false s := fun _ => rfl
  have hkeyword : ∀ s : GoString, skipComments false (ascii "package" ++ s) = ascii "package" ++ s :=
    fun _ => rfl
  have hskip : ∀ s : GoString, skipBlanks (32 :: (ascii "nvfm" ++ s)) = ascii "nvfm" ++ s := fun _ => rfl
  have hend : ∀ s : GoString, skipBlanks (10 :: s) = 10 :: s ∧ endsDecl (10 :: s) = true ∧
      skipSemicolon (10 :: s) = 10 :: s := fun _ => ⟨rfl, rfl, rfl⟩
  rw [generated_eq]
  generalize htail : packageMethods libraryInterface (methods libraryInterface) ++ 10 :: _ = tail
  have hfuel : 2 ≤ tail.length := by
    rw [← htail]
    simp [packageMethods, ascii]
  obtain ⟨fuel, hfuel⟩ := Nat.exists_eq_add_of_le hfuel
  have hdecls : parseDecls G.toReader ((10 :: 10 :: tail).length + 1) (10 :: 10 :: tail) =
      some (apiFile methods).Decls := by
    rw [parseDecls_newline, parseDecls_newline, List.length_cons, List.length_cons, hfuel]
    have hsum : 2 + fuel + 1 + 1 + 1 = fuel + 1 + 4 := by omega
    rw [hsum, ← htail]
    exact parseDecls_generated G h (fuel + 1)
  unfold parseSource
  rw [skipComments_comment hcomment, skipComments_comment hgenerated, hnewline, hkeyword,
    readKeyword_append rfl (stops_cons rfl _)]
  simp only [Option.bind_eq_bind, Option.bind_some, hskip,
    readIdentifier_append (show isIdentifier G.unicode (ascii "nvfm") = true by rfl) (stops_cons (b := 10) rfl _),
    hend, if_true, hdecls]
  rfl

end Whole

/-! ## What a run leaves -/

section Run

variable {T : Tools τ} {fs : Tree} {root : Option Tree}

/-- `format.Source` keeps what the text declares. -/
def KeepsSource (G : TypeSyntax T) (text : GoString) : Prop :=
  ∀ file formatted, parseSource G.toReader text = some file → T.formatSource text = some formatted →
    parseSource G.toReader formatted = some file

/-- On a plain tree the generator takes the methods of the package. -/
theorem perm_declaredMethods {pkg : GoString} {iface : GeneratableInterface}
    (hiface : iface ∈ generatableInterfaces) (hplain : PlainTree T root pkg iface) :
    ((functions T root).filter (·.isMethodOf T iface)).Perm (declaredMethods T root pkg iface) := by
  rw [functions_filter pkg, declaredMethods_eq]
  refine filter_perm_filter_iff.2 fun x hx => ?_
  obtain ⟨source, hsource, hx⟩ := List.mem_flatMap.1 hx
  obtain ⟨fn, hfn, rfl⟩ := List.mem_map.1 hx
  cases hin : inPackage pkg source with
  | false => exact hplain.foreign source hsource hin fn hfn
  | true =>
      rw [Bool.true_and]
      exact (isMethodOf_eq_isWanted_iff hiface).2 (hplain.own source hsource hin fn hfn)

/-- A run that succeeds leaves a file of the package `nvfm` that Go reads as follows. One
    group sets a variable to each method of the library, and the two interfaces have the
    methods of the library and of the fabric manager, with their signatures, in order. On
    a plain tree these are the methods that the package declares. -/
theorem main_writes_api (G : TypeSyntax T) (S : MethodSort τ) {comment : GoString}
    (hcomment : isComment comment = true) {dir path : List GoString} {failed : Option Nat}
    (hroot : walkedTree fs dir (some path) = root)
    (hmethods : ∀ iface ∈ generatableInterfaces, ∀ fn ∈ sortedMethods T S root iface, fn.WellFormed G)
    (hformat : KeepsSource G (generated T comment (sortedMethods T S root)))
    (hstatus : (main T S comment fs (some dir) (some path) failed).1.status = 0) :
    (∃ text, content path (main T S comment fs (some dir) (some path) failed).2 = some text ∧
      parseSource G.toReader text = some (apiFile (sortedMethods T S root))) ∧
    ∀ iface ∈ generatableInterfaces,
      (sortedMethods T S root iface).Pairwise (fun m m' => ¬ m'.Name < m.Name) ∧
      ∀ pkg, PlainTree T root pkg iface →
        (sortedMethods T S root iface).Perm (declaredMethods T root pkg iface) := by
  obtain ⟨_, fs', buf, formatted, hdir, hwriter, hgen, hformatted, hmain⟩ :=
    main_ok (Exit.eq_ok_of_status hstatus)
  cases hdir
  rw [walkedTree, hwriter, Option.bind_some] at hroot
  subst hroot
  have hparse : Parses T (lookup dir fs') := by
    by_contra hnot
    obtain ⟨e, he⟩ := generate_of_not_parses hnot S comment
    rw [he] at hgen
    cases hgen
  refine ⟨⟨formatted, ?_, ?_⟩, ?_⟩
  · have hfile : (content path fs').isSome = true := by
      rw [content_create hwriter]
      rfl
    rw [hmain]
    exact content_write formatted hfile
  · rw [generate_of_parses hparse] at hgen
    cases hgen
    exact hformat _ _ (parseSource_generated G hcomment hmethods) hformatted
  · intro iface hiface
    refine ⟨S.sorted _, ?_⟩
    intro pkg hplain
    exact (S.perm _).trans (perm_declaredMethods hiface hplain)

/-! ## A package with one method -/

theorem initMethod_wellFormed (table : List (List UInt8 × File GoString)) :
    (initMethod (.StarExpr (.Ident (ascii "library")))).WellFormed (simpleTypes table) where
  name := (by decide : isIdentifier asciiOnly (ascii "Init") = true)
  params :=
    { valid := fun _ h => absurd h List.not_mem_nil
      identifiers := fun _ h => absurd h List.not_mem_nil
      uniform := .inr fun _ h => absurd h List.not_mem_nil }
  results :=
    { valid := by
        intro field hfield
        obtain rfl := List.mem_singleton.1 hfield
        exact ⟨ascii "Return", by decide, .inl rfl⟩
      identifiers := by
        intro field hfield name hname
        obtain rfl := List.mem_singleton.1 hfield
        exact absurd hname List.not_mem_nil
      uniform := .inr (by decide) }

theorem main_writes_api_init :
    ∃ text, content apiPath (main sampleTools (SortSlice.insertion _) (ascii "// Fabric manager.") freshTree
        (some [ascii "nvfm"]) (some apiPath) none).2 = some text ∧
      parseSource simpleReader text = some
        { Name := ascii "nvfm"
          Decls := [.vars [{ Name := ascii "Init", X := ascii "libnvfm", Sel := ascii "Init" }],
                    .interface (ascii "Interface") [(initMethod (.Ident (ascii "library"))).spec],
                    .interface (ascii "Handle") []] } := by
  have hmethods : ∀ iface ∈ generatableInterfaces, ∀ fn ∈ sortedMethods sampleTools (SortSlice.insertion _)
      (walkedTree freshTree [ascii "nvfm"] (some apiPath)) iface,
      fn.WellFormed (T := sampleTools) (simpleTypes _) := by
    have hfunctions : functions sampleTools (walkedTree freshTree [ascii "nvfm"] (some apiPath)) =
        [initMethod (.StarExpr (.Ident (ascii "library")))] := by rfl
    intro iface _ fn hfn
    have hmem := List.mem_of_mem_filter (((SortSlice.insertion _).perm _).mem_iff.1 hfn)
    rw [hfunctions] at hmem
    obtain rfl := List.mem_singleton.1 hmem
    exact initMethod_wellFormed _
  have hformat : KeepsSource (T := sampleTools) (simpleTypes _) (generated sampleTools
      (ascii "// Fabric manager.") (sortedMethods sampleTools (SortSlice.insertion _)
        (walkedTree freshTree [ascii "nvfm"] (some apiPath)))) := by
    intro file formatted hparse hformat
    cases hformat
    exact hparse
  have hstatus : (main sampleTools (SortSlice.insertion _) (ascii "// Fabric manager.") freshTree
      (some [ascii "nvfm"]) (some apiPath) none).1.status = 0 := by rfl
  exact (main_writes_api (simpleTypes _) (SortSlice.insertion _) (by decide) rfl hmethods hformat
    hstatus).1

end Run

end Nvfm.Generator
