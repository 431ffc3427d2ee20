-- SUMMARY: Sequences of operations, the log they leave, and protocols that constrain the answers in it.
import Nvfm.Interaction.Program
import Mathlib.Data.List.Induction

/-!
# Logs

A component offers operations, each of them a program over the same memory. A
sequence of operations leaves a log. An invariant of the log follows from one
step lemma per operation; when the outside world keeps to a protocol, the
invariant may mention the state of the protocol too.
-/

namespace Interaction

variable {σ E : Type} {Ans : E → Type} {Op ρ χ χ' : Type}

/-- One operation of a log: its result, the memory it started in, and the memory
    and the calls it ended with. -/
structure Record (σ : Type) {E : Type} (Ans : E → Type) (Op ρ : Type) where
  op : Op
  result : ρ
  before : σ
  after : World σ Ans

structure Log (σ : Type) {E : Type} (Ans : E → Type) (Op ρ : Type) where
  mem : σ
  records : List (Record σ Ans Op ρ)

namespace Log

/-- `J` holds of every record of a list and of the records before it. -/
def EachAfter {α : Type} (J : List α → α → Prop) (xs : List α) : Prop :=
  ∀ past x rest, xs = past ++ x :: rest → J past x

theorem eachAfter_nil {α : Type} {J : List α → α → Prop} : EachAfter J [] := by
  intro past x rest h
  simp at h

theorem EachAfter.concat {α : Type} {J : List α → α → Prop} {xs : List α} {x : α}
    (h : EachAfter J xs) (hx : J xs x) : EachAfter J (xs ++ [x]) := by
  intro past y rest heq
  rcases List.eq_nil_or_concat rest with rfl | ⟨rest', z, rfl⟩
  · obtain ⟨rfl, hy⟩ := List.append_inj' heq rfl
    obtain rfl : x = y := by simpa using hy
    exact hx
  · rw [List.concat_eq_append, ← List.cons_append, ← List.append_assoc] at heq
    exact h past y rest' (List.append_inj' heq rfl).1

theorem EachAfter.of_append {α : Type} {J : List α → α → Prop} {xs ys : List α}
    (h : EachAfter J (xs ++ ys)) : EachAfter J xs := by
  intro past x rest heq
  refine h past x (rest ++ ys) ?_
  rw [heq, List.append_assoc, List.cons_append]

/-- Each record by its place. -/
theorem eachAfter_iff {α : Type} {J : List α → α → Prop} {xs : List α} :
    EachAfter J xs ↔ ∀ (i : ℕ) (h : i < xs.length), J (xs.take i) xs[i] := by
  constructor
  · intro h i hi
    exact h (xs.take i) xs[i] (xs.drop (i + 1)) (by simp)
  · rintro h past x rest rfl
    simpa using h past.length (by simp)

instance {α : Type} {J : List α → α → Prop} [∀ past x, Decidable (J past x)] (xs : List α) :
    Decidable (EachAfter J xs) :=
  decidable_of_iff _ eachAfter_iff.symm

/-- The log before the first operation. -/
def start (s : σ) : Log σ Ans Op ρ := ⟨s, []⟩

/-- All calls of the log, in order. -/
def events (l : Log σ Ans Op ρ) : List (Event σ Ans) := l.records.flatMap (·.after.events)

/-- The log after one more operation with the result `a` and the outcome `w`. -/
def append (l : Log σ Ans Op ρ) (op : Op) (a : ρ) (w : World σ Ans) : Log σ Ans Op ρ :=
  ⟨w.mem, l.records ++ [⟨op, a, l.mem, w⟩]⟩

/-- Perform one operation, with the answers `o` still has to give. -/
def perform (prog : Op → Prog σ Ans ρ) (o : Oracle Ans) (l : Log σ Ans Op ρ) (op : Op) :
    Log σ Ans Op ρ :=
  let out := (prog op).run (o.drop l.events.length) ⟨l.mem, []⟩
  l.append op out.1 out.2

theorem perform_of_run {prog : Op → Prog σ Ans ρ} {o : Oracle Ans} {l : Log σ Ans Op ρ} {op : Op}
    {a : ρ} {w : World σ Ans} (h : (prog op).run (o.drop l.events.length) ⟨l.mem, []⟩ = (a, w)) :
    l.perform prog o op = l.append op a w := by
  unfold perform
  rw [h]

/-- Perform a sequence of operations. -/
def extend (prog : Op → Prog σ Ans ρ) (o : Oracle Ans) (l : Log σ Ans Op ρ) (ops : List Op) :
    Log σ Ans Op ρ :=
  ops.foldl (perform prog o) l

@[simp] theorem start_mem (s : σ) : (start s : Log σ Ans Op ρ).mem = s := rfl
@[simp] theorem start_records (s : σ) : (start s : Log σ Ans Op ρ).records = [] := rfl
@[simp] theorem start_events (s : σ) : (start s : Log σ Ans Op ρ).events = [] := rfl

@[simp] theorem append_mem (l : Log σ Ans Op ρ) (op : Op) (a : ρ) (w : World σ Ans) :
    (l.append op a w).mem = w.mem := rfl

@[simp] theorem append_records (l : Log σ Ans Op ρ) (op : Op) (a : ρ) (w : World σ Ans) :
    (l.append op a w).records = l.records ++ [⟨op, a, l.mem, w⟩] := rfl

@[simp] theorem append_events (l : Log σ Ans Op ρ) (op : Op) (a : ρ) (w : World σ Ans) :
    (l.append op a w).events = l.events ++ w.events := by
  simp [events]

/-- What holds of all operations so far, and of one more, holds of all operations. -/
theorem forall_mem_append {l : Log σ Ans Op ρ} {op : Op} {a : ρ} {w : World σ Ans}
    {I : Record σ Ans Op ρ → Prop} (h : ∀ r ∈ l.records, I r) (hlast : I ⟨op, a, l.mem, w⟩) :
    ∀ r ∈ (l.append op a w).records, I r := by
  intro r hr
  rcases List.mem_append.1 hr with hr | hr
  · exact h r hr
  · obtain rfl := List.mem_singleton.1 hr
    exact hlast

@[simp] theorem extend_nil (prog : Op → Prog σ Ans ρ) (o : Oracle Ans) (l : Log σ Ans Op ρ) :
    l.extend prog o [] = l := rfl

theorem extend_append (prog : Op → Prog σ Ans ρ) (o : Oracle Ans) (l : Log σ Ans Op ρ)
    (ops ops' : List Op) :
    l.extend prog o (ops ++ ops') = (l.extend prog o ops).extend prog o ops' :=
  List.foldl_append ..

theorem extend_concat (prog : Op → Prog σ Ans ρ) (o : Oracle Ans) (l : Log σ Ans Op ρ)
    (ops : List Op) (op : Op) :
    l.extend prog o (ops ++ [op]) = (l.extend prog o ops).perform prog o op := by
  rw [extend_append]; rfl

theorem extend_cons (prog : Op → Prog σ Ans ρ) (o : Oracle Ans) (l : Log σ Ans Op ρ) (op : Op)
    (ops : List Op) : l.extend prog o (op :: ops) = (l.perform prog o op).extend prog o ops := rfl

theorem perform_events (prog : Op → Prog σ Ans ρ) (o : Oracle Ans) (l : Log σ Ans Op ρ) (op : Op) :
    ∃ es, (l.perform prog o op).events = l.events ++ es :=
  ⟨_, append_events ..⟩

/-- More operations only add to the calls of a log. -/
theorem extend_events (prog : Op → Prog σ Ans ρ) (o : Oracle Ans) (l : Log σ Ans Op ρ)
    (ops : List Op) : ∃ es, (l.extend prog o ops).events = l.events ++ es := by
  induction ops generalizing l with
  | nil => exact ⟨[], (List.append_nil _).symm⟩
  | cons op ops ih =>
      obtain ⟨es, hes⟩ := l.perform_events prog o op
      obtain ⟨fs, hfs⟩ := ih (l.perform prog o op)
      exact ⟨es ++ fs, by rw [extend_cons, hfs, hes, List.append_assoc]⟩

end Log

/-- The log of a sequence of operations from the memory `s`. -/
def exec (prog : Op → Prog σ Ans ρ) (o : Oracle Ans) (s : σ) (ops : List Op) : Log σ Ans Op ρ :=
  (Log.start s).extend prog o ops

theorem exec_concat (prog : Op → Prog σ Ans ρ) (o : Oracle Ans) (s : σ) (ops : List Op) (op : Op) :
    exec prog o s (ops ++ [op]) = (exec prog o s ops).perform prog o op :=
  Log.extend_concat ..

section Relabel

variable {Op' : Type} (f : Op' → Op)

/-- The record of an operation that carries more data than the program uses. -/
def Record.relabel (r : Record σ Ans Op' ρ) : Record σ Ans Op ρ :=
  ⟨f r.op, r.result, r.before, r.after⟩

def Log.relabel (l : Log σ Ans Op' ρ) : Log σ Ans Op ρ :=
  ⟨l.mem, l.records.map (Record.relabel f)⟩

@[simp] theorem Log.relabel_events (l : Log σ Ans Op' ρ) : (l.relabel f).events = l.events := by
  simp [Log.events, Log.relabel, Record.relabel, List.flatMap_map]

/-- The log of the operations is that of their programs. -/
theorem exec_relabel (prog : Op → Prog σ Ans ρ) (o : Oracle Ans) (s : σ) (ops : List Op') :
    exec prog o s (ops.map f) = (exec (fun op => prog (f op)) o s ops).relabel f := by
  induction ops using List.reverseRecOn with
  | nil => rfl
  | append_singleton ops op ih =>
      rw [List.map_append, List.map_singleton, exec_concat, exec_concat, ih]
      simp [Log.perform, Log.append, Log.relabel, Record.relabel, Log.events, List.flatMap_map]

end Relabel

theorem exec_records_length (prog : Op → Prog σ Ans ρ) (o : Oracle Ans) (s : σ) (ops : List Op) :
    (exec prog o s ops).records.length = ops.length := by
  induction ops using List.reverseRecOn with
  | nil => rfl
  | append_singleton ops op ih =>
      rw [exec_concat]
      simp [Log.perform, ih]

/-- A specification of the operations of a component: the outcomes each of them
    can have from a given memory. -/
def Specifies (prog : Op → Prog σ Ans ρ) (outcome : Op → σ → ρ → World σ Ans → Prop) : Prop :=
  ∀ op s, (prog op).wp .recording (outcome op s) ⟨s, []⟩

/-- The specification of operations that carry more data than the program uses. -/
theorem Specifies.comap {prog : Op → Prog σ Ans ρ} {outcome : Op → σ → ρ → World σ Ans → Prop}
    (h : Specifies prog outcome) {Op' : Type} (f : Op' → Op) :
    Specifies (fun op => prog (f op)) (fun op => outcome (f op)) :=
  fun op s => h (f op) s

section Induction

variable {prog : Op → Prog σ Ans ρ} {outcome : Op → σ → ρ → World σ Ans → Prop}

theorem Specifies.perform (h : Specifies prog outcome) (o : Oracle Ans) (l : Log σ Ans Op ρ)
    (op : Op) : ∃ a w, outcome op l.mem a w ∧ l.perform prog o op = l.append op a w :=
  ⟨_, _, Prog.run_of_wp (h op l.mem) _, rfl⟩

/-- An invariant of the log that every outcome of every operation keeps. -/
theorem Specifies.induction (h : Specifies prog outcome) {I : Log σ Ans Op ρ → Prop} {s : σ}
    (start : I (.start s))
    (step : ∀ l op a w, I l → outcome op l.mem a w → I (l.append op a w))
    (o : Oracle Ans) (ops : List Op) : I (exec prog o s ops) := by
  induction ops using List.reverseRecOn with
  | nil => exact start
  | append_singleton ops op ih =>
      obtain ⟨a, w, hout, heq⟩ := h.perform o (exec prog o s ops) op
      rw [exec_concat, heq]
      exact step _ op a w ih hout

/-- An invariant of the logs of fewer than `N` operations. -/
theorem Specifies.induction_lt (h : Specifies prog outcome) {N : ℕ} {I : Log σ Ans Op ρ → Prop}
    {s : σ} (start : I (.start s))
    (step : ∀ l op a w, l.records.length + 1 < N → I l → outcome op l.mem a w → I (l.append op a w))
    (o : Oracle Ans) {ops : List Op} (hlen : ops.length < N) : I (exec prog o s ops) := by
  have hrun : (exec prog o s ops).records.length < N → I (exec prog o s ops) := by
    refine h.induction (I := fun l => l.records.length < N → I l) (fun _ => start) ?_ o ops
    intro l op a w ih hout hlt
    rw [Log.append_records, List.length_append] at hlt
    exact step l op a w hlt (ih (Nat.lt_of_succ_lt hlt)) hout
  refine hrun ?_
  rw [exec_records_length]
  exact hlen

end Induction

/-! ## Protocols -/

/-- What the outside world promises, as an automaton over the calls and their
    answers: an answer with no step breaks the promise. -/
structure Protocol (σ : Type) {E : Type} (Ans : E → Type) (χ : Type) where
  start : χ
  step : χ → Event σ Ans → Option χ

namespace Protocol

/-- The state of the protocol after the calls `es`, when they all keep to it. -/
def after (P : Protocol σ Ans χ) (x : χ) : List (Event σ Ans) → Option χ
  | [] => some x
  | e :: es => (P.step x e).bind fun x' => P.after x' es

/-- The calls `es` keep to the protocol. -/
def Accepts (P : Protocol σ Ans χ) (es : List (Event σ Ans)) : Prop :=
  (P.after P.start es).isSome

instance (P : Protocol σ Ans χ) (es : List (Event σ Ans)) : Decidable (P.Accepts es) :=
  inferInstanceAs (Decidable (_ = true))

@[simp] theorem after_nil (P : Protocol σ Ans χ) (x : χ) : P.after x [] = some x := rfl

@[simp] theorem after_cons (P : Protocol σ Ans χ) (x : χ) (e : Event σ Ans)
    (es : List (Event σ Ans)) :
    P.after x (e :: es) = (P.step x e).bind fun x' => P.after x' es := rfl

theorem after_append (P : Protocol σ Ans χ) (x : χ) (es fs : List (Event σ Ans)) :
    P.after x (es ++ fs) = (P.after x es).bind fun x' => P.after x' fs := by
  induction es generalizing x with
  | nil => rfl
  | cons e es ih => cases h : P.step x e <;> simp [h, ih]

theorem after_append_of_eq {P : Protocol σ Ans χ} {x y : χ} {es : List (Event σ Ans)}
    (h : P.after x es = some y) (fs : List (Event σ Ans)) : P.after x (es ++ fs) = P.after y fs := by
  rw [after_append, h]
  rfl

/-- Calls that keep to the protocol do so from the beginning on. -/
theorem after_of_append {P : Protocol σ Ans χ} {x y : χ} {es fs : List (Event σ Ans)}
    (h : P.after x (es ++ fs) = some y) : ∃ x', P.after x es = some x' ∧ P.after x' fs = some y := by
  rw [after_append] at h
  exact Option.bind_eq_some_iff.1 h

theorem Accepts.of_append {P : Protocol σ Ans χ} {es fs : List (Event σ Ans)}
    (h : P.Accepts (es ++ fs)) : P.Accepts es := by
  obtain ⟨y, hy⟩ := Option.isSome_iff_exists.1 h
  obtain ⟨x, hx, _⟩ := after_of_append hy
  exact Option.isSome_iff_exists.2 ⟨x, hx⟩

/-- Both promises at once. -/
def prod (P : Protocol σ Ans χ) (P' : Protocol σ Ans χ') : Protocol σ Ans (χ × χ') where
  start := (P.start, P'.start)
  step x e := (P.step x.1 e).bind fun y => (P'.step x.2 e).map fun y' => (y, y')

theorem after_prod (P : Protocol σ Ans χ) (P' : Protocol σ Ans χ') (x : χ) (x' : χ')
    (es : List (Event σ Ans)) :
    (P.prod P').after (x, x') es =
      (P.after x es).bind fun y => (P'.after x' es).map fun y' => (y, y') := by
  induction es generalizing x x' with
  | nil => rfl
  | cons e es ih =>
      cases h : P.step x e with
      | none => simp [prod, h]
      | some y =>
          cases h' : P'.step x' e with
          | none => cases hy : P.after y es <;> simp [prod, h, h', hy]
          | some y' => simp [prod, h, h', ← ih]

/-- The two halves of a run that keeps to both promises. -/
theorem after_prod_eq_some {P : Protocol σ Ans χ} {P' : Protocol σ Ans χ'} {x y : χ} {x' y' : χ'}
    {es : List (Event σ Ans)} :
    (P.prod P').after (x, x') es = some (y, y') ↔ P.after x es = some y ∧ P'.after x' es = some y' := by
  rw [after_prod]
  cases P.after x es <;> cases P'.after x' es <;> simp

end Protocol

/-- An invariant of the log and of the state of a protocol, for the sequences in
    which the outside world keeps to the protocol. -/
theorem Specifies.protocol_induction {prog : Op → Prog σ Ans ρ}
    {outcome : Op → σ → ρ → World σ Ans → Prop} (h : Specifies prog outcome)
    (P : Protocol σ Ans χ) {I : Log σ Ans Op ρ → χ → Prop} {s : σ}
    (start : I (.start s) P.start)
    (step : ∀ l x op a w x', I l x → outcome op l.mem a w → P.after x w.events = some x' →
      I (l.append op a w) x')
    {o : Oracle Ans} {ops : List Op} {x : χ}
    (hx : P.after P.start (exec prog o s ops).events = some x) : I (exec prog o s ops) x := by
  induction ops using List.reverseRecOn generalizing x with
  | nil => cases hx; exact start
  | append_singleton ops op ih =>
      obtain ⟨a, w, hout, heq⟩ := h.perform o (exec prog o s ops) op
      rw [exec_concat, heq] at hx ⊢
      rw [Log.append_events, Protocol.after_append, Option.bind_eq_some_iff] at hx
      obtain ⟨y, hy, hx⟩ := hx
      exact step _ y op a w x (ih hy) hout hx

/-- Such an invariant for the logs of fewer than `N` operations. -/
theorem Specifies.protocol_induction_lt {prog : Op → Prog σ Ans ρ}
    {outcome : Op → σ → ρ → World σ Ans → Prop} (h : Specifies prog outcome)
    (P : Protocol σ Ans χ) {N : ℕ} {I : Log σ Ans Op ρ → χ → Prop} {s : σ}
    (start : I (.start s) P.start)
    (step : ∀ l x op a w x', l.records.length + 1 < N → I l x → outcome op l.mem a w →
      P.after x w.events = some x' → I (l.append op a w) x')
    {o : Oracle Ans} {ops : List Op} {x : χ} (hlen : ops.length < N)
    (hx : P.after P.start (exec prog o s ops).events = some x) : I (exec prog o s ops) x := by
  have hrun : (exec prog o s ops).records.length < N → I (exec prog o s ops) x := by
    refine h.protocol_induction P (I := fun l x => l.records.length < N → I l x)
      (fun _ => start) ?_ hx
    intro l x op a w x' ih hout hafter hlt
    rw [Log.append_records, List.length_append] at hlt
    exact step l x op a w x' hlt (ih (Nat.lt_of_succ_lt hlt)) hout hafter
  refine hrun ?_
  rw [exec_records_length]
  exact hlen

end Interaction
