-- SUMMARY: The methods of a generated interface, read by Go's grammar, have the signatures they were written from.
import Nvfm.Generator.Text
import Nvfm.Generator.Grammar

/-!
# Round Trip

A list of fields is written as its parameters with commas between them. Each of the
parameters is read back as it was written, and they make up the same fields again.
-/

namespace Nvfm.Generator

open Go

variable {τ : Type}

/-! ## Joined texts -/

theorem Join_append {parts parts' : List GoString} (sep : GoString) (h : parts ≠ []) (h' : parts' ≠ []) :
    Join (parts ++ parts') sep = Join parts sep ++ sep ++ Join parts' sep := by
  unfold Join
  induction parts with
  | nil => exact absurd rfl h
  | cons part parts ih =>
      cases parts with
      | nil => rw [List.singleton_append, List.intercalate_cons_of_ne_nil h', List.intercalate_singleton]
      | cons part' parts =>
          rw [List.cons_append, List.intercalate_cons_of_ne_nil (by simp),
            List.intercalate_cons_of_ne_nil (by simp), ih (by simp)]
          simp only [List.append_assoc]

/-- Joining groups that are joined themselves joins all parts. -/
theorem Join_map_Join {α : Type} {items : List α} {parts : α → List GoString} (sep : GoString)
    (h : ∀ item ∈ items, parts item ≠ []) :
    Join (items.map fun item => Join (parts item) sep) sep = Join (items.flatMap parts) sep := by
  induction items with
  | nil => rfl
  | cons item items ih =>
      have ih := ih fun item hitem => h item (List.mem_cons_of_mem _ hitem)
      cases items with
      | nil => simp [Join]
      | cons item' items =>
          have hne : (item' :: items).flatMap parts ≠ [] := by
            intro hnil
            exact h item' (by simp) (List.flatMap_eq_nil_iff.1 hnil item' List.mem_cons_self)
          rw [List.flatMap_cons, Join_append sep (h item List.mem_cons_self) hne, ← ih]
          exact List.intercalate_cons_of_ne_nil (by simp)

theorem length_le_length_Join {parts : List GoString} (sep : GoString) (h : ∀ part ∈ parts, part ≠ []) :
    parts.length ≤ (Join parts sep).length := by
  unfold Join
  induction parts with
  | nil => exact Nat.le_refl 0
  | cons part parts ih =>
      have hpart := List.length_pos_iff.2 (h part List.mem_cons_self)
      have ih := ih fun p hp => h p (List.mem_cons_of_mem _ hp)
      cases parts with
      | nil => simpa [Nat.one_le_iff_ne_zero] using h part List.mem_cons_self
      | cons part' parts =>
          rw [List.intercalate_cons_cons]
          simp only [List.length_append, List.length_cons] at ih ⊢
          omega

/-! ## Single tokens -/

section Tokens

variable {unicode : GoString → Bool}

theorem isIdentByte_of_mem {name : GoString} (h : isIdentifier unicode name = true) {b : UInt8} (hb : b ∈ name) :
    isIdentByte b = true := by
  cases name with
  | nil => cases h
  | cons c rest =>
      simp only [isIdentifier, Bool.and_eq_true] at h
      exact List.all_eq_true.1 h.1.1.2 b hb

theorem isIdentifier_ne_nil {name : GoString} (h : isIdentifier unicode name = true) : name ≠ [] := by
  rintro rfl
  cases h

/-- A text is split where the bytes of one kind end. -/
theorem span_append {p : UInt8 → Bool} {s rest : GoString} (h : ∀ b ∈ s, p b = true)
    (hrest : ∀ b, rest.head? = some b → p b = false) :
    (s ++ rest).takeWhile p = s ∧ (s ++ rest).dropWhile p = rest := by
  rw [List.takeWhile_append_of_pos h, List.dropWhile_append_of_pos h]
  cases rest with
  | nil => exact ⟨List.append_nil s, rfl⟩
  | cons b rest => simp [hrest b rfl]

/-- An identifier is read up to the first byte that cannot be in one. -/
theorem readIdentifier_append {name rest : GoString} (h : isIdentifier unicode name = true)
    (hrest : ∀ b, rest.head? = some b → isIdentByte b = false) :
    readIdentifier unicode (name ++ rest) = some (name, rest) := by
  obtain ⟨htake, hdrop⟩ := span_append (fun b hb => isIdentByte_of_mem h hb) hrest
  unfold readIdentifier
  rw [htake, hdrop, if_pos h]

theorem stops_cons {b : UInt8} (hb : isIdentByte b = false) (s : GoString) :
    ∀ c, (b :: s).head? = some c → isIdentByte c = false := by
  intro c hc
  cases hc
  exact hb

theorem skipBlanks_cons {b : UInt8} (h : isBlank b = false) (s : GoString) :
    skipBlanks (b :: s) = b :: s := by
  simp [skipBlanks, h]

theorem skipBlanks_of_endsParam {s : GoString} (h : endsParam s = true) : skipBlanks s = s := by
  cases s with
  | nil => rfl
  | cons b s =>
      simp only [endsParam, List.head?_cons, Option.some.injEq, Bool.or_eq_true, decide_eq_true_eq] at h
      rcases h with rfl | rfl
      · rfl
      · rfl

theorem not_isIdentByte_of_endsParam {s : GoString} (h : endsParam s = true) {b : UInt8}
    (hb : s.head? = some b) : isIdentByte b = false := by
  simp only [endsParam, hb, Option.some.injEq, Bool.or_eq_true, decide_eq_true_eq] at h
  rcases h with rfl | rfl
  · rfl
  · rfl

theorem delimits_of_endsParam {s : GoString} (h : endsParam s = true) : delimits s = true := by
  simp only [endsParam, Bool.or_eq_true] at h
  rcases h with h | h <;> simp [delimits, of_decide_eq_true h]

theorem not_isIdentByte_of_mem_separators {b : UInt8} (h : b ∈ separators) : isIdentByte b = false := by
  have hall : separators.all (fun b => !isIdentByte b) = true := rfl
  simpa using List.all_eq_true.1 hall b h

theorem startsToken_of_isIdentifier {name : GoString} (h : isIdentifier unicode name = true) : StartsToken name := by
  obtain ⟨b, s, rfl⟩ := List.exists_cons_of_ne_nil (isIdentifier_ne_nil h)
  refine ⟨b, s, rfl, ?_⟩
  intro hmem
  have hb := isIdentByte_of_mem h List.mem_cons_self
  rw [not_isIdentByte_of_mem_separators hmem] at hb
  cases hb

end Tokens

/-! ## Starts of texts -/

namespace StartsToken

variable {s : GoString}

theorem append (h : StartsToken s) (rest : GoString) : StartsToken (s ++ rest) := by
  obtain ⟨b, s, rfl, hb⟩ := h
  exact ⟨b, s ++ rest, rfl, hb⟩

theorem ne_nil (h : StartsToken s) : s ≠ [] := by
  obtain ⟨b, s, rfl, _⟩ := h
  exact List.cons_ne_nil b s

theorem head?_ne (h : StartsToken s) {b : UInt8} (hb : b ∈ separators) : s.head? ≠ some b := by
  obtain ⟨c, s, rfl, hc⟩ := h
  intro heq
  cases heq
  exact hc hb

theorem skipSpace_eq (h : StartsToken s) : skipSpace s = s := by
  obtain ⟨b, s, rfl, hb⟩ := h
  simp only [separators, List.mem_cons, not_or] at hb
  simp [skipSpace, isBlank, hb]

theorem skipBlanks_eq (h : StartsToken s) : skipBlanks s = s := by
  obtain ⟨b, s, rfl, hb⟩ := h
  simp only [separators, List.mem_cons, not_or] at hb
  exact skipBlanks_cons (by simp [isBlank, hb]) s

/-- There is something to read before the parameter ends. -/
theorem endsParam_eq (h : StartsToken s) : endsParam s = false := by
  have hcomma : s.head? ≠ some 44 := h.head?_ne (by decide)
  have hparen : s.head? ≠ some 41 := h.head?_ne (by decide)
  simp [endsParam, hcomma, hparen]

theorem endsMethod_eq (h : StartsToken s) : endsMethod s = false := by
  have hline : s.head? ≠ some 10 := h.head?_ne (by decide)
  have hsemicolon : s.head? ≠ some 59 := h.head?_ne (by decide)
  have hbrace : s.head? ≠ some 125 := h.head?_ne (by decide)
  simp [endsMethod, h.ne_nil, hline, hsemicolon, hbrace]

end StartsToken

/-! ## One parameter -/

section Parameter

variable {T : Tools τ}

/-- The parameter as it is written. -/
def Param.text (T : Tools τ) : Param τ → GoString
  | .name Name => Name
  | .named Name Typ => Name ++ ascii " " ++ T.formatNode Typ
  | .typ Typ => T.formatNode Typ

/-- The parameter is one that the grammar finds in a text: a type whose text is an
    identifier is found as a name. -/
def Param.WellFormed (G : TypeSyntax T) : Param τ → Prop
  | .name Name => isIdentifier G.unicode Name = true
  | .named Name Typ => isIdentifier G.unicode Name = true ∧ G.valid Typ
  | .typ Typ => G.valid Typ ∧ isIdentifier G.unicode (T.formatNode Typ) = false

theorem Param.starts (G : TypeSyntax T) {param : Param τ} (h : param.WellFormed G) :
    StartsToken (param.text T) := by
  cases param with
  | name Name => exact startsToken_of_isIdentifier h
  | named Name Typ =>
      rw [Param.text, List.append_assoc]
      exact (startsToken_of_isIdentifier h.1).append _
  | typ Typ => exact G.starts Typ h.1

/-- A type that is no identifier is read as a type, also where it starts with one. -/
theorem parseParamDecl_typ (G : TypeSyntax T) {t : Expr τ} (hvalid : G.valid t)
    (hname : isIdentifier G.unicode (T.formatNode t) = false) {rest : GoString} (hrest : endsParam rest = true) :
    parseParamDecl G.toReader (T.formatNode t ++ rest) = some (.typ t, rest) := by
  have hread := G.read_formatNode t hvalid rest (delimits_of_endsParam hrest)
  have hident : ∀ b ∈ (T.formatNode t).takeWhile isIdentByte, isIdentByte b = true :=
    fun b hb => List.mem_takeWhile_imp hb
  have hsplit := List.takeWhile_append_dropWhile (p := isIdentByte) (l := T.formatNode t)
  unfold parseParamDecl readIdentifier
  cases htail : (T.formatNode t).dropWhile isIdentByte with
  | nil =>
      rw [htail, List.append_nil] at hsplit
      rw [hsplit] at hident
      obtain ⟨htake, _⟩ := span_append hident fun b hb => not_isIdentByte_of_endsParam hrest hb
      rw [htake, hname, hread]
      rfl
  | cons b s =>
      have hb : isIdentByte b = false := by
        have h := List.head?_dropWhile_not isIdentByte (T.formatNode t)
        rw [htail] at h
        simpa using h
      rw [htail] at hsplit
      have htext : T.formatNode t ++ rest =
          (T.formatNode t).takeWhile isIdentByte ++ b :: (s ++ rest) := by
        rw [← List.cons_append, ← List.append_assoc, hsplit]
      obtain ⟨htake, hdrop⟩ := span_append hident (stops_cons hb (s ++ rest))
      rw [htext] at hread ⊢
      rw [htake, hdrop]
      split
      · next hnone => rw [hread]; rfl
      · next name s' hsome =>
          split at hsome
          · next hidentifier =>
              cases hsome
              obtain ⟨hglue, hnone⟩ := G.qualified t hvalid _ b s hidentifier hsplit.symm hb
              have hstarts : StartsToken (b :: (s ++ rest)) := by
                refine ⟨b, s ++ rest, rfl, ?_⟩
                rcases hglue with rfl | rfl <;> decide
              have hnone : G.read (b :: (s ++ rest)) = none := hnone rest (delimits_of_endsParam hrest)
              rw [hstarts.skipBlanks_eq, hstarts.endsParam_eq, hnone, hread]
              rfl
          · cases hsome

/-- A parameter is read back as it was written. -/
theorem parseParamDecl_text (G : TypeSyntax T) {param : Param τ} (h : param.WellFormed G)
    {rest : GoString} (hrest : endsParam rest = true) :
    parseParamDecl G.toReader (param.text T ++ rest) = some (param, rest) := by
  cases param with
  | name Name =>
      unfold parseParamDecl
      rw [Param.text, readIdentifier_append h fun b hb => not_isIdentByte_of_endsParam hrest hb]
      simp only [skipBlanks_of_endsParam hrest, hrest, if_true]
  | typ Typ => exact parseParamDecl_typ G h.1 h.2 hrest
  | named Name Typ =>
      have hstarts := (G.starts Typ h.2).append rest
      have hread := G.read_formatNode Typ h.2 rest (delimits_of_endsParam hrest)
      have hskip : skipBlanks (32 :: (T.formatNode Typ ++ rest)) = T.formatNode Typ ++ rest :=
        hstarts.skipBlanks_eq
      have happend : Param.text T (.named Name Typ) ++ rest = Name ++ 32 :: (T.formatNode Typ ++ rest) := by
        simp [Param.text, ascii]
      unfold parseParamDecl
      rw [happend, readIdentifier_append h.1 (stops_cons rfl _)]
      simp only [hskip, hstarts.endsParam_eq, hread, Bool.false_eq_true, if_false]

end Parameter

/-! ## Lists of parameters -/

section Parameters

variable {T : Tools τ}

theorem parseParams_blank (R : Reader τ) (fuel : Nat) (s : GoString) :
    parseParams R fuel (32 :: s) = parseParams R fuel s := by
  cases fuel with
  | zero => rfl
  | succ fuel => rfl

/-- One turn of the loop over the parameters. -/
theorem parseParams_text_append (G : TypeSyntax T) {param : Param τ} (h : param.WellFormed G)
    (fuel : Nat) (s : GoString) :
    parseParams G.toReader (fuel + 1) (param.text T ++ 44 :: s) =
        (parseParams G.toReader fuel s).map (fun r => (param :: r.1, r.2)) ∧
      parseParams G.toReader (fuel + 1) (param.text T ++ 41 :: s) = some ([param], s) := by
  have hstarts := fun rest => (Param.starts G h).append rest
  have hparen := fun rest => (hstarts rest).head?_ne (b := 41) (by decide)
  constructor
  · rw [parseParams, (hstarts _).skipSpace_eq, if_neg (hparen _), parseParamDecl_text G h rfl]
    rfl
  · rw [parseParams, (hstarts _).skipSpace_eq, if_neg (hparen _), parseParamDecl_text G h rfl]
    rfl

/-- All parameters are read back, in order. -/
theorem parseParams_text (G : TypeSyntax T) {params : List (Param τ)}
    (h : ∀ param ∈ params, param.WellFormed G) {fuel : Nat} (hfuel : params.length < fuel)
    (rest : GoString) :
    parseParams G.toReader fuel (Join (params.map (Param.text T)) (ascii ", ") ++ 41 :: rest) =
      some (params, rest) := by
  induction params generalizing fuel with
  | nil =>
      obtain ⟨fuel, rfl⟩ := Nat.exists_eq_succ_of_ne_zero (Nat.ne_of_gt hfuel)
      rfl
  | cons param params ih =>
      obtain ⟨fuel, rfl⟩ := Nat.exists_eq_succ_of_ne_zero (Nat.ne_of_gt (Nat.zero_lt_of_lt hfuel))
      have hparam := h param List.mem_cons_self
      have ih := ih (fun p hp => h p (List.mem_cons_of_mem _ hp)) (Nat.lt_of_succ_lt_succ hfuel)
      cases params with
      | nil =>
          rw [List.map_singleton, Join, List.intercalate_singleton]
          exact (parseParams_text_append G hparam fuel rest).2
      | cons param' params =>
          have hjoin : Join ((param :: param' :: params).map (Param.text T)) (ascii ", ") ++ 41 :: rest =
              param.text T ++ 44 :: 32 ::
                (Join ((param' :: params).map (Param.text T)) (ascii ", ") ++ 41 :: rest) := by
            rw [List.map_cons, List.map_cons, Join, List.intercalate_cons_cons]
            simp [Join, ascii]
          rw [hjoin, (parseParams_text_append G hparam fuel _).1, parseParams_blank, ih]
          rfl

end Parameters

/-! ## Fields -/

section Fields

variable {T : Tools τ}

/-- The parameters that are written for a type with names before it. -/
def namedParams (G : TypeSyntax T) : List GoString → Expr τ → List (Param τ)
  | [], t => [if isIdentifier G.unicode (T.formatNode t) then .name (T.formatNode t) else .typ t]
  | [name], t => [.named name t]
  | name :: name' :: names, t => .name name :: namedParams G (name' :: names) t

/-- The parameters that are written for a field. -/
def Field.params (G : TypeSyntax T) (field : Field τ) : List (Param τ) :=
  namedParams G field.Names field.Typ

/-- A list of fields as a Go declaration has it: all of them have names, or none has. -/
structure WellFormed (G : TypeSyntax T) (fields : List (Field τ)) : Prop where
  valid : ∀ field ∈ fields, G.valid field.Typ
  identifiers : ∀ field ∈ fields, ∀ name ∈ field.Names, isIdentifier G.unicode name = true
  uniform : (∀ field ∈ fields, field.Names ≠ []) ∨ ∀ field ∈ fields, field.Names = []

theorem namedParams_ne_nil (G : TypeSyntax T) (names : List GoString) (t : Expr τ) : namedParams G names t ≠ [] := by
  unfold namedParams
  split
  · simp
  · simp
  · simp

theorem Join_namedParams (G : TypeSyntax T) {names : List GoString} (hnames : names ≠ []) (t : Expr τ) :
    Join ((namedParams G names t).map (Param.text T)) (ascii ", ") =
      Join names (ascii ", ") ++ ascii " " ++ T.formatNode t := by
  unfold Join
  induction names with
  | nil => exact absurd rfl hnames
  | cons name names ih =>
      cases names with
      | nil => simp [namedParams, Param.text]
      | cons name' names =>
          have ih := ih (by simp)
          have hne : (namedParams G (name' :: names) t).map (Param.text T) ≠ [] := by
            simp [namedParams_ne_nil]
          rw [namedParams, List.map_cons, List.intercalate_cons_of_ne_nil hne, ih,
            List.intercalate_cons_cons]
          simp only [Param.text, List.append_assoc]

/-- A field is written as its parameters. -/
theorem fieldPart_eq (G : TypeSyntax T) (field : Field τ) :
    fieldPart T field = Join ((field.params G).map (Param.text T)) (ascii ", ") := by
  unfold fieldPart Field.params
  split
  · next hnames =>
      rw [List.eq_nil_of_length_eq_zero hnames, namedParams]
      split
      · simp [Join, Param.text]
      · simp [Join, Param.text]
  · next hnames => exact (Join_namedParams G (fun h => hnames (by rw [h]; rfl)) field.Typ).symm

theorem Join_fieldPart (G : TypeSyntax T) (fields : List (Field τ)) :
    Join (fields.map (fieldPart T)) (ascii ", ") =
      Join ((fields.flatMap (Field.params G)).map (Param.text T)) (ascii ", ") := by
  have hne : ∀ field ∈ fields, (field.params G).map (Param.text T) ≠ [] := by
    intro field _
    simp [Field.params, namedParams_ne_nil]
  rw [List.map_flatMap, ← Join_map_Join _ hne]
  exact congrArg (Join · _) (List.map_congr_left fun field _ => fieldPart_eq G field)

theorem namedParams_wellFormed (G : TypeSyntax T) {names : List GoString} {t : Expr τ}
    (hnames : ∀ name ∈ names, isIdentifier G.unicode name = true) (hvalid : G.valid t) :
    ∀ param ∈ namedParams G names t, param.WellFormed G := by
  induction names with
  | nil =>
      intro param hparam
      rw [namedParams, List.mem_singleton] at hparam
      subst hparam
      split
      · next h => exact h
      · next h => exact ⟨hvalid, by simpa using h⟩
  | cons name names ih =>
      have hname := hnames name List.mem_cons_self
      have ih := ih fun n hn => hnames n (List.mem_cons_of_mem _ hn)
      cases names with
      | nil =>
          intro param hparam
          rw [namedParams, List.mem_singleton] at hparam
          subst hparam
          exact ⟨hname, hvalid⟩
      | cons name' names =>
          intro param hparam
          rcases List.mem_cons.1 hparam with rfl | hparam
          · exact hname
          · exact ih param hparam

/-- The names of a field wait until their type comes. -/
theorem collect_namedParams (G : TypeSyntax T) {names : List GoString} (hnames : names ≠ []) (t : Expr τ)
    (params : List (Param τ)) (waiting : List GoString) :
    collect waiting (namedParams G names t ++ params) =
      (collect [] params).map fun fields => { Names := waiting ++ names, Typ := t } :: fields := by
  induction names generalizing waiting with
  | nil => exact absurd rfl hnames
  | cons name names ih =>
      cases names with
      | nil => rfl
      | cons name' names =>
          rw [namedParams, List.cons_append, collect, ih (by simp), List.append_assoc]
          rfl

theorem collect_params (G : TypeSyntax T) {fields : List (Field τ)} (h : ∀ field ∈ fields, field.Names ≠ []) :
    collect [] (fields.flatMap (Field.params G)) = some fields := by
  induction fields with
  | nil => rfl
  | cons field fields ih =>
      rw [List.flatMap_cons, Field.params, collect_namedParams G (h field List.mem_cons_self),
        ih fun f hf => h f (List.mem_cons_of_mem _ hf)]
      rfl

theorem exists_isNamed (G : TypeSyntax T) {names : List GoString} (hnames : names ≠ []) (t : Expr τ) :
    ∃ param ∈ namedParams G names t, param.isNamed = true := by
  induction names with
  | nil => exact absurd rfl hnames
  | cons name names ih =>
      cases names with
      | nil => exact ⟨_, List.mem_singleton_self _, rfl⟩
      | cons name' names =>
          obtain ⟨param, hparam, hnamed⟩ := ih (by simp)
          exact ⟨param, List.mem_cons_of_mem _ hparam, hnamed⟩

/-- The type of a field without names comes back, also where its text is a name. -/
theorem unnamed_params (G : TypeSyntax T) {field : Field τ} (hvalid : G.valid field.Typ)
    (hnames : field.Names = []) :
    (field.params G).all (fun param => !param.isNamed) = true ∧
      (field.params G).map Param.unnamed = [field] := by
  obtain ⟨Names, Typ⟩ := field
  simp only at hnames hvalid
  subst hnames
  unfold Field.params
  rw [namedParams]
  split
  · next hident =>
      -- Reading the text back gives both the type itself and the identifier.
      have htyp : Typ = .Ident (T.formatNode Typ) := by
        have hread := G.read_formatNode Typ hvalid [] rfl
        have hread' := G.read_formatNode _ (G.valid_Ident _ hident) [] rfl
        rw [G.formatNode_Ident _ hident, hread] at hread'
        exact congrArg Prod.fst (Option.some.inj hread')
      refine ⟨rfl, ?_⟩
      rw [List.map_singleton, Param.unnamed, ← htyp]
  · exact ⟨rfl, rfl⟩

/-- The parameters of a list make up its fields. -/
theorem distribute_params (G : TypeSyntax T) {fields : List (Field τ)} (h : WellFormed G fields) :
    distribute (fields.flatMap (Field.params G)) = some fields := by
  unfold distribute
  rcases h.uniform with hnamed | hunnamed
  · cases fields with
    | nil => rfl
    | cons field fields =>
        obtain ⟨param, hparam, hisNamed⟩ := exists_isNamed G (hnamed field List.mem_cons_self) field.Typ
        have hall : ¬ ((field :: fields).flatMap (Field.params G)).all (fun param => !param.isNamed) = true := by
          intro hall
          have hmem : param ∈ (field :: fields).flatMap (Field.params G) :=
            List.mem_flatMap.2 ⟨field, List.mem_cons_self, hparam⟩
          have := List.all_eq_true.1 hall param hmem
          rw [hisNamed] at this
          cases this
        rw [if_neg hall]
        exact collect_params G hnamed
  · have hall : (fields.flatMap (Field.params G)).all (fun param => !param.isNamed) = true := by
      rw [List.all_eq_true]
      intro param hparam
      obtain ⟨field, hfield, hparam⟩ := List.mem_flatMap.1 hparam
      exact List.all_eq_true.1 (unnamed_params G (h.valid field hfield) (hunnamed field hfield)).1 param hparam
    rw [if_pos hall, List.map_flatMap]
    have hsingle : ∀ field ∈ fields, (field.params G).map Param.unnamed = [field] :=
      fun field hfield => (unnamed_params G (h.valid field hfield) (hunnamed field hfield)).2
    rw [List.flatMap_congr hsingle, List.flatMap_singleton']

end Fields

/-! ## Methods -/

section Methods

variable {T : Tools τ}

/-- What the grammar is to read for a declaration: absent lists are empty. -/
def FuncDecl.spec (fn : FuncDecl τ) : MethodSpec τ where
  Name := fn.Name
  Params := fn.Typ.Params.getD []
  Results := fn.Typ.Results.getD []

/-- The declaration of a method, as Go allows it. -/
structure FuncDecl.WellFormed (G : TypeSyntax T) (fn : FuncDecl τ) : Prop where
  name : isIdentifier G.unicode fn.Name = true
  params : Generator.WellFormed G (fn.Typ.Params.getD [])
  results : Generator.WellFormed G (fn.Typ.Results.getD [])

/-- A list of fields in parentheses is read back. -/
theorem parseParameters_fieldPart (G : TypeSyntax T) {fields : List (Field τ)} (h : WellFormed G fields)
    (rest : GoString) :
    parseParameters G.toReader (Join (fields.map (fieldPart T)) (ascii ", ") ++ 41 :: rest) =
      some (fields, rest) := by
  have hparams : ∀ param ∈ fields.flatMap (Field.params G), param.WellFormed G := by
    intro param hparam
    obtain ⟨field, hfield, hparam⟩ := List.mem_flatMap.1 hparam
    exact namedParams_wellFormed G (h.identifiers field hfield) (h.valid field hfield) param hparam
  have hfuel : (fields.flatMap (Field.params G)).length <
      (Join (fields.map (fieldPart T)) (ascii ", ") ++ 41 :: rest).length + 1 := by
    have hne : ∀ part ∈ (fields.flatMap (Field.params G)).map (Param.text T), part ≠ [] := by
      intro part hpart
      obtain ⟨param, hparam, rfl⟩ := List.mem_map.1 hpart
      exact (Param.starts G (hparams param hparam)).ne_nil
    have hlength := length_le_length_Join (ascii ", ") hne
    rw [List.length_map, ← Join_fieldPart G] at hlength
    rw [List.length_append]
    omega
  unfold parseParameters
  rw [Join_fieldPart G] at hfuel ⊢
  rw [parseParams_text G hparams hfuel]
  simp [distribute_params G h]

theorem fieldList_append (fields : Option (List (Field τ))) (rest : GoString) :
    fieldList T fields ++ rest =
      40 :: (Join ((fields.getD []).map (fieldPart T)) (ascii ", ") ++ 41 :: rest) := by
  cases fields with
  | none => rfl
  | some list => simp [fieldList, ascii]

/-- Results in parentheses are read back. -/
theorem parseResult_fieldList (G : TypeSyntax T) {fields : Option (List (Field τ))}
    (h : WellFormed G (fields.getD [])) (rest : GoString) :
    parseResult G.toReader (ascii " " ++ fieldList T fields ++ rest) = some (fields.getD [], rest) := by
  have hskip : skipBlanks (ascii " " ++ fieldList T fields ++ rest) =
      40 :: (Join ((fields.getD []).map (fieldPart T)) (ascii ", ") ++ 41 :: rest) := by
    rw [List.append_assoc, fieldList_append]
    rfl
  unfold parseResult
  rw [hskip, List.head?_cons, if_pos rfl]
  exact parseParameters_fieldPart G h rest

/-- A single type is read back, as it does not start like anything else that may follow. -/
theorem parseResult_type (G : TypeSyntax T) {t : Expr τ} (h : G.valid t) (rest : GoString) :
    parseResult G.toReader (ascii " " ++ T.formatNode t ++ 10 :: rest) =
      some ([{ Names := [], Typ := t }], 10 :: rest) := by
  have hstarts := (G.starts t h).append (10 :: rest)
  have hskip : skipBlanks (ascii " " ++ T.formatNode t ++ 10 :: rest) = T.formatNode t ++ 10 :: rest :=
    hstarts.skipBlanks_eq
  unfold parseResult
  rw [hskip, if_neg (hstarts.head?_ne (by decide)), hstarts.endsMethod_eq, G.read_formatNode t h _ rfl]
  rfl

/-- In each of the three spellings the results are read back. -/
theorem parseResult_results (G : TypeSyntax T) {fields : Option (List (Field τ))}
    (h : WellFormed G (fields.getD [])) (rest : GoString) :
    parseResult G.toReader (results T fields ++ 10 :: rest) = some (fields.getD [], 10 :: rest) := by
  unfold results
  split
  · rfl
  · rfl
  · next field =>
      split
      · next hnames =>
          have hread := parseResult_type G (h.valid field List.mem_cons_self) rest
          obtain ⟨Names, Typ⟩ := field
          obtain rfl : Names = [] := List.eq_nil_of_length_eq_zero hnames
          exact hread
      · exact parseResult_fieldList G h _
  · exact parseResult_fieldList G h _

/-- A method is read back from its text, whatever the next lines are. -/
theorem parseMethodSpec_methodText (G : TypeSyntax T) {fn : FuncDecl τ} (h : fn.WellFormed G)
    (rest : GoString) :
    parseMethodSpec G.toReader (methodText T fn ++ 10 :: rest) = some (fn.spec, 10 :: rest) := by
  have htext : methodText T fn ++ 10 :: rest = fn.Name ++
      40 :: (Join ((fn.Typ.Params.getD []).map (fieldPart T)) (ascii ", ") ++
        41 :: (results T fn.Typ.Results ++ 10 :: rest)) := by
    rw [methodText, List.append_assoc, List.append_assoc, fieldList_append]
  unfold parseMethodSpec
  rw [htext, readIdentifier_append h.name (stops_cons rfl _)]
  simp only [Option.bind_eq_bind, Option.bind_some, skipBlanks_cons (show isBlank 40 = false from rfl),
    List.head?_cons, if_true, List.tail_cons, parseParameters_fieldPart G h.params,
    parseResult_results G h.results]
  rfl

/-- One line of an interface is one method. -/
theorem parseMethods_interfaceMethodLine (G : TypeSyntax T) {fn : FuncDecl τ} (h : fn.WellFormed G)
    (fuel : Nat) (rest : GoString) :
    parseMethods G.toReader (fuel + 1) (interfaceMethodLine T fn ++ rest) =
      (parseMethods G.toReader fuel (10 :: rest)).map fun r => (fn.spec :: r.1, r.2) := by
  have hstarts : StartsToken (methodText T fn ++ 10 :: rest) := by
    rw [methodText, List.append_assoc, List.append_assoc]
    exact (startsToken_of_isIdentifier h.name).append _
  have hline : skipSpace (interfaceMethodLine T fn ++ rest) = methodText T fn ++ 10 :: rest := by
    have htab : interfaceMethodLine T fn ++ rest = 9 :: (methodText T fn ++ 10 :: rest) := by
      simp [interfaceMethodLine, ascii]
    rw [htab]
    exact hstarts.skipSpace_eq
  rw [parseMethods, hline, if_neg (hstarts.head?_ne (by decide)), parseMethodSpec_methodText G h]
  rfl

theorem parseMethods_newline (R : Reader τ) (fuel : Nat) (s : GoString) :
    parseMethods R fuel (10 :: s) = parseMethods R fuel s := by
  cases fuel with
  | zero => rfl
  | succ fuel => rfl

/-- The text of an interface before its methods. -/
def interfaceStart (iface : GeneratableInterface) : GoString :=
  ascii "// " ++ iface.Interface ++ ascii " represents the interface for the " ++ iface.Typ ++
    ascii " type.\n" ++ ascii "type " ++ iface.Interface ++ ascii " interface \x7b\n"

/-- The methods of an interface, and its closing brace. -/
def interfaceBody (T : Tools τ) (methods : List (FuncDecl τ)) : GoString :=
  methods.flatMap (interfaceMethodLine T) ++ ascii "\x7d\n"

/-- All methods up to a closing brace are read back, in order. -/
theorem parseMethods_lines (G : TypeSyntax T) {methods : List (FuncDecl τ)}
    (h : ∀ method ∈ methods, method.WellFormed G) {fuel : Nat} (hfuel : methods.length < fuel)
    (rest : GoString) :
    parseMethods G.toReader fuel (methods.flatMap (interfaceMethodLine T) ++ 125 :: rest) =
      some (methods.map FuncDecl.spec, rest) := by
  induction methods generalizing fuel with
  | nil =>
      obtain ⟨fuel, rfl⟩ := Nat.exists_eq_succ_of_ne_zero (Nat.ne_of_gt hfuel)
      rfl
  | cons method methods ih =>
      obtain ⟨fuel, rfl⟩ := Nat.exists_eq_succ_of_ne_zero (Nat.ne_of_gt (Nat.zero_lt_of_lt hfuel))
      rw [List.flatMap_cons, List.append_assoc,
        parseMethods_interfaceMethodLine G (h method List.mem_cons_self), parseMethods_newline,
        ih (fun m hm => h m (List.mem_cons_of_mem _ hm)) (Nat.lt_of_succ_lt_succ hfuel)]
      rfl

theorem parseMethods_interfaceBody (G : TypeSyntax T) {methods : List (FuncDecl τ)}
    (h : ∀ method ∈ methods, method.WellFormed G) {fuel : Nat} (hfuel : methods.length < fuel) :
    parseMethods G.toReader fuel (interfaceBody T methods) = some (methods.map FuncDecl.spec, ascii "\n") :=
  parseMethods_lines G h hfuel (ascii "\n")

/-- Each method of an interface, and the interface as a whole, is read with the
    signatures of the declarations it was written from. -/
theorem interfaceDefinition_round_trip (G : TypeSyntax T) {methods : List (FuncDecl τ)}
    (h : ∀ method ∈ methods, method.WellFormed G) (iface : GeneratableInterface) :
    (∀ method ∈ methods, ∀ rest, parseMethodSpec G.toReader (methodText T method ++ 10 :: rest) =
        some (method.spec, 10 :: rest)) ∧
      interfaceDefinition T iface methods = interfaceStart iface ++ interfaceBody T methods ∧
      parseMethods G.toReader (methods.length + 1) (interfaceBody T methods) =
        some (methods.map FuncDecl.spec, ascii "\n") := by
  refine ⟨?_, ?_, ?_⟩
  · intro method hmethod rest
    exact parseMethodSpec_methodText G (h method hmethod) rest
  · unfold interfaceDefinition interfaceStart interfaceBody
    rw [List.append_assoc]
  · exact parseMethods_interfaceBody G h (Nat.lt_succ_self _)

end Methods

/-! ## Names, and pointers to, slices of and any number of them -/

section SimpleTypes

/-- No name has characters beyond ASCII. -/
def asciiOnly (_ : GoString) : Bool := false

/-- The type `name`, `*name`, `[]name` or `...name`. -/
def IsSimple (t : Expr GoString) : Prop :=
  ∃ name, isIdentifier asciiOnly name = true ∧ (t = .Ident name ∨ t = .StarExpr (.Ident name) ∨
    t = .other (ascii "[]" ++ name) ∨ t = .other (ascii "..." ++ name))

def readSimple (s : GoString) : Option (Expr GoString × GoString) :=
  match s with
  | 42 :: s => (readIdentifier asciiOnly s).map fun r => (.StarExpr (.Ident r.1), r.2)
  | 91 :: 93 :: s => (readIdentifier asciiOnly s).map fun r => (.other (ascii "[]" ++ r.1), r.2)
  | 46 :: 46 :: 46 :: s => (readIdentifier asciiOnly s).map fun r => (.other (ascii "..." ++ r.1), r.2)
  | s => (readIdentifier asciiOnly s).map fun r => (.Ident r.1, r.2)

/-- The reader of these types, and of names in ASCII. -/
def simpleReader : Reader GoString := ⟨asciiOnly, readSimple⟩

theorem not_isIdentByte_of_delimits {s : GoString} (h : delimits s = true) :
    ∀ b, s.head? = some b → isIdentByte b = false := by
  intro b hb
  cases s with
  | nil => cases hb
  | cons c s =>
      cases hb
      simp only [delimits, List.head?_cons, Option.some.injEq, reduceCtorEq, decide_false,
        Bool.false_or, Bool.or_eq_true, decide_eq_true_eq] at h
      rcases h with (rfl | rfl) | rfl <;> rfl

theorem readSimple_text {t : Expr GoString} (h : IsSimple t) {rest : GoString}
    (hrest : delimits rest = true) : readSimple (t.text ++ rest) = some (t, rest) := by
  obtain ⟨name, hname, ht⟩ := h
  have hread := readIdentifier_append hname (not_isIdentByte_of_delimits hrest)
  rcases ht with rfl | rfl | rfl | rfl
  · obtain ⟨b, s, rfl, _⟩ := startsToken_of_isIdentifier hname
    have hb := isIdentByte_of_mem hname List.mem_cons_self
    unfold readSimple
    split
    · next heq =>
        cases congrArg List.head? heq
        cases hb
    · next heq =>
        cases congrArg List.head? heq
        cases hb
    · next heq =>
        cases congrArg List.head? heq
        cases hb
    · simp only [Expr.text, hread, Option.map_some]
  · simp [Expr.text, ascii, readSimple, hread]
  · simp [Expr.text, ascii, readSimple, hread]
  · simp [Expr.text, ascii, readSimple, hread]

/-- The syntax of these types. -/
def simpleTypes (table : List (List UInt8 × File GoString)) : TypeSyntax (tableTools table) where
  toReader := simpleReader
  valid := IsSimple
  valid_Ident name h := ⟨name, h, .inl rfl⟩
  formatNode_Ident _ _ := rfl
  read_formatNode _ h _ hrest := readSimple_text h hrest
  starts t h := by
    obtain ⟨name, hname, ht⟩ := h
    rcases ht with rfl | rfl | rfl | rfl
    · exact startsToken_of_isIdentifier hname
    · exact ⟨42, name, rfl, by decide⟩
    · exact ⟨91, 93 :: name, rfl, by decide⟩
    · exact ⟨46, 46 :: 46 :: name, rfl, by decide⟩
  qualified t h name b s hname htext hb := by
    obtain ⟨name', hname', ht⟩ := h
    obtain ⟨c, name, rfl, _⟩ := startsToken_of_isIdentifier hname
    have hc := isIdentByte_of_mem hname List.mem_cons_self
    rcases ht with rfl | rfl | rfl | rfl
    · have hmem : b ∈ name' := by
        change name' = _ at htext
        rw [htext]
        simp
      rw [isIdentByte_of_mem hname' hmem] at hb
      cases hb
    · cases congrArg List.head? htext
      cases hc
    · cases congrArg List.head? htext
      cases hc
    · cases congrArg List.head? htext
      cases hc

/-- `Connect(opts ...ConnectOption) (Handle, Return)`. -/
def connectMethod : FuncDecl GoString where
  Recv := none
  Name := ascii "Connect"
  Typ := { Params := some [{ Names := [ascii "opts"], Typ := .other (ascii "...ConnectOption") }]
           Results := some [{ Names := [], Typ := .Ident (ascii "Handle") },
                            { Names := [], Typ := .Ident (ascii "Return") }] }

theorem connectMethod_wellFormed (table : List (List UInt8 × File GoString)) :
    connectMethod.WellFormed (simpleTypes table) where
  name := (by decide : isIdentifier asciiOnly connectMethod.Name = true)
  params :=
    { valid := by
        intro field hfield
        obtain rfl := List.mem_singleton.1 hfield
        exact ⟨ascii "ConnectOption", by decide, .inr (.inr (.inr rfl))⟩
      identifiers := (by decide : ∀ field ∈ connectMethod.Typ.Params.getD [],
        ∀ name ∈ field.Names, isIdentifier asciiOnly name = true)
      uniform := .inl (by decide) }
  results :=
    { valid := by
        intro field hfield
        rcases List.mem_cons.1 hfield with rfl | hfield
        · exact ⟨ascii "Handle", by decide, .inl rfl⟩
        · obtain rfl := List.mem_singleton.1 hfield
          exact ⟨ascii "Return", by decide, .inl rfl⟩
      identifiers := (by decide : ∀ field ∈ connectMethod.Typ.Results.getD [],
        ∀ name ∈ field.Names, isIdentifier asciiOnly name = true)
      uniform := .inr (by decide) }

theorem interfaceDefinition_round_trip_connect :
    parseMethods simpleReader 2 (interfaceBody (tableTools []) [connectMethod]) =
      some ([connectMethod.spec], ascii "\n") :=
  (interfaceDefinition_round_trip (simpleTypes []) (by
    intro method hmethod
    obtain rfl := List.mem_singleton.1 hmethod
    exact connectMethod_wellFormed []) libraryInterface).2.2

end SimpleTypes

end Nvfm.Generator
