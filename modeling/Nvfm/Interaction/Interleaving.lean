-- SUMMARY: Agents that run programs over shared state, interleaved step by step, and a local proof rule for them.
import Nvfm.Interaction.Program
import Mathlib.Logic.Function.Basic
import Mathlib.Logic.Relation

/-!
# Interleaving

Any number of agents run programs, one after the other, and meet in a shared
state. Each step of an agent is atomic; the steps of different agents come in
any order. A property of every agent follows from a proof about one agent alone,
when no step of the others changes what it sees of the shared state.
-/

namespace Interaction

/-! ## Systems -/

/-- One call: the shared state before and after it, the call and its answer. -/
structure Action (γ : Type) {E : Type} (Ans : E → Type) where
  before : γ
  call : E
  answer : Ans call
  after : γ

/-- What an agent did in one operation: the memories it read, and its calls. -/
structure Trace (σ γ : Type) {E : Type} (Ans : E → Type) where
  reads : List σ
  actions : List (Action γ Ans)

/-- An operation an agent is in the middle of, with what is left of it to run. -/
structure Job (σ γ : Type) {E : Type} (Ans : E → Type) (Op ρ : Type) where
  op : Op
  rest : Prog σ Ans ρ
  trace : Trace σ γ Ans

/-- An operation an agent has finished. -/
structure Finished (σ γ : Type) {E : Type} (Ans : E → Type) (Op ρ : Type) where
  op : Op
  result : ρ
  trace : Trace σ γ Ans

/-- The programs of the agents `A`, and the environment each of them runs in. -/
structure System (A σ γ : Type) {E : Type} (Ans : E → Type) (Op ρ : Type) where
  prog : A → Op → Prog σ Ans ρ
  env : A → Env σ Ans γ

/-- The shared state, what every agent is doing, and what it has done. -/
structure Config (A σ γ : Type) {E : Type} (Ans : E → Type) (Op ρ : Type) where
  shared : γ
  running : A → Option (Job σ γ Ans Op ρ)
  finished : A → List (Finished σ γ Ans Op ρ)

variable {A σ γ κ E : Type} {Ans : E → Type} {Op ρ : Type}

namespace Trace

def empty : Trace σ γ Ans := ⟨[], []⟩

def read (t : Trace σ γ Ans) (s : σ) : Trace σ γ Ans := { t with reads := t.reads ++ [s] }

def act (t : Trace σ γ Ans) (x : Action γ Ans) : Trace σ γ Ans :=
  { t with actions := t.actions ++ [x] }

@[simp] theorem empty_actions : (empty : Trace σ γ Ans).actions = [] := rfl
@[simp] theorem read_actions (t : Trace σ γ Ans) (s : σ) : (t.read s).actions = t.actions := rfl
@[simp] theorem act_actions (t : Trace σ γ Ans) (x : Action γ Ans) :
    (t.act x).actions = t.actions ++ [x] := rfl
@[simp] theorem empty_reads : (empty : Trace σ γ Ans).reads = [] := rfl
@[simp] theorem read_reads (t : Trace σ γ Ans) (s : σ) : (t.read s).reads = t.reads ++ [s] := rfl
@[simp] theorem act_reads (t : Trace σ γ Ans) (x : Action γ Ans) : (t.act x).reads = t.reads := rfl

end Trace

namespace Config

variable (c : Config A σ γ Ans Op ρ)

/-- Nothing has run yet. -/
def start (g : γ) : Config A σ γ Ans Op ρ := ⟨g, fun _ => none, fun _ => []⟩

/-- All calls of an agent, those of the operation it is in the middle of last. -/
def actions (a : A) : List (Action γ Ans) :=
  (c.finished a).flatMap (·.trace.actions) ++ (c.running a).elim [] (·.trace.actions)

variable [DecidableEq A]

/-- The agent `a` goes on with `job` in the shared state `g`. -/
def run (a : A) (job : Job σ γ Ans Op ρ) (g : γ) : Config A σ γ Ans Op ρ :=
  { c with shared := g, running := Function.update c.running a (some job) }

/-- The agent `a` finishes its operation. -/
def finish (a : A) (f : Finished σ γ Ans Op ρ) : Config A σ γ Ans Op ρ where
  shared := c.shared
  running := Function.update c.running a none
  finished := Function.update c.finished a (c.finished a ++ [f])

variable {c} {a b : A} {job : Job σ γ Ans Op ρ} {g : γ} {f : Finished σ γ Ans Op ρ}

@[simp] theorem run_shared : (c.run a job g).shared = g := rfl
@[simp] theorem run_finished : (c.run a job g).finished = c.finished := rfl

@[simp] theorem run_running_self : (c.run a job g).running a = some job :=
  Function.update_self ..

theorem run_running_of_ne (hb : b ≠ a) : (c.run a job g).running b = c.running b :=
  Function.update_of_ne hb ..

@[simp] theorem finish_shared : (c.finish a f).shared = c.shared := rfl

@[simp] theorem finish_running_self : (c.finish a f).running a = none :=
  Function.update_self ..

theorem finish_running_of_ne (hb : b ≠ a) : (c.finish a f).running b = c.running b :=
  Function.update_of_ne hb ..

@[simp] theorem finish_finished_self : (c.finish a f).finished a = c.finished a ++ [f] :=
  Function.update_self ..

theorem finish_finished_of_ne (hb : b ≠ a) : (c.finish a f).finished b = c.finished b :=
  Function.update_of_ne hb ..

theorem run_actions_self : (c.run a job g).actions a =
    (c.finished a).flatMap (·.trace.actions) ++ job.trace.actions := by
  simp [actions]

theorem finish_actions_self : (c.finish a f).actions a =
    (c.finished a).flatMap (·.trace.actions) ++ f.trace.actions := by
  simp [actions]

end Config

section Steps

variable [DecidableEq A]

/-- One step of one agent: it begins an operation, reads or updates its memory,
    makes a call, or finishes the operation. -/
inductive System.Step (S : System A σ γ Ans Op ρ) :
    Config A σ γ Ans Op ρ → Config A σ γ Ans Op ρ → Prop where
  | begin {c : Config A σ γ Ans Op ρ} {a : A} (op : Op) (hidle : c.running a = none) :
      Step S c (c.run a ⟨op, S.prog a op, .empty⟩ c.shared)
  | get {c : Config A σ γ Ans Op ρ} {a : A} {op : Op} {k : σ → Prog σ Ans ρ} {t : Trace σ γ Ans}
      {s : σ} {g : γ} (hjob : c.running a = some ⟨op, .get k, t⟩)
      (hget : (S.env a).get c.shared s g) : Step S c (c.run a ⟨op, k s, t.read s⟩ g)
  | modify {c : Config A σ γ Ans Op ρ} {a : A} {op : Op} {f : σ → σ} {k : Prog σ Ans ρ}
      {t : Trace σ γ Ans} {g : γ} (hjob : c.running a = some ⟨op, .modify f k, t⟩)
      (hmodify : (S.env a).modify c.shared f g) : Step S c (c.run a ⟨op, k, t⟩ g)
  | call {c : Config A σ γ Ans Op ρ} {a : A} {op : Op} {e : E} {k : Ans e → Prog σ Ans ρ}
      {t : Trace σ γ Ans} {r : Ans e} {g : γ} (hjob : c.running a = some ⟨op, .call e k, t⟩)
      (hcall : (S.env a).call c.shared e r g) :
      Step S c (c.run a ⟨op, k r, t.act ⟨c.shared, e, r, g⟩⟩ g)
  | finish {c : Config A σ γ Ans Op ρ} {a : A} {op : Op} {r : ρ} {t : Trace σ γ Ans}
      (hjob : c.running a = some ⟨op, .ret r, t⟩) : Step S c (c.finish a ⟨op, r, t⟩)

/-- The configurations of all runs that start in the shared state `g`. -/
def System.Reachable (S : System A σ γ Ans Op ρ) (g : γ) : Config A σ γ Ans Op ρ → Prop :=
  Relation.ReflTransGen S.Step (.start g)

end Steps

/-! ## Reasoning about one agent -/

/-- What an agent knows in the middle of an operation: its view of the shared
    state, and what it did so far. -/
structure Known (κ σ γ : Type) {E : Type} (Ans : E → Type) where
  view : κ
  trace : Trace σ γ Ans

/-- The environment of an agent in terms of what it knows. `J` holds of every
    shared state. -/
def Env.seen (ε : Env σ Ans γ) (J : γ → Prop) (view : γ → κ) : Env σ Ans (Known κ σ γ Ans) where
  get l s l' := ∃ g g', J g ∧ view g = l.view ∧ ε.get g s g' ∧ l' = ⟨view g', l.trace.read s⟩
  modify l f l' := ∃ g g', J g ∧ view g = l.view ∧ ε.modify g f g' ∧ l' = ⟨view g', l.trace⟩
  ready l e := ∀ g, J g → view g = l.view → ε.ready g e
  call l e r l' := ∃ g g', J g ∧ view g = l.view ∧ ε.call g e r g' ∧
    l' = ⟨view g', l.trace.act ⟨g, e, r, g'⟩⟩

/-- A step from `g` to `g'` that keeps `J`, and what every agent but `a` sees. -/
structure Frame (J : γ → Prop) (view : A → γ → κ) (a : A) (g g' : γ) : Prop where
  inv : J g'
  others : ∀ b, b ≠ a → view b g' = view b g

/-- No agent changes what another sees, as long as it only makes calls it is
    ready for. -/
structure System.Isolates (S : System A σ γ Ans Op ρ) (J : γ → Prop) (view : A → γ → κ) : Prop where
  get : ∀ {a g s g'}, J g → (S.env a).get g s g' → Frame J view a g g'
  modify : ∀ {a g f g'}, J g → (S.env a).modify g f g' → Frame J view a g g'
  call : ∀ {a g e r g'}, J g → (S.env a).ready g e → (S.env a).call g e r g' → Frame J view a g g'

/-- The invariant of one agent: between two operations `I` holds of its view and of
    what it has done, and in an operation it is on its way to make `I` hold again. -/
structure System.Agrees (S : System A σ γ Ans Op ρ) (J : γ → Prop) (view : A → γ → κ)
    (I : A → κ → List (Finished σ γ Ans Op ρ) → Prop) (c : Config A σ γ Ans Op ρ) (a : A) : Prop where
  idle : c.running a = none → I a (view a c.shared) (c.finished a)
  running : ∀ job, c.running a = some job → job.rest.wp ((S.env a).seen J (view a))
    (fun r l => I a l.view (c.finished a ++ [⟨job.op, r, l.trace⟩])) ⟨view a c.shared, job.trace⟩
  past : ∃ k, I a k (c.finished a)
  ready : ∀ x ∈ c.actions a, (S.env a).ready x.before x.call

/-- The invariant of a run. -/
structure System.Keeps (S : System A σ γ Ans Op ρ) (J : γ → Prop) (view : A → γ → κ)
    (I : A → κ → List (Finished σ γ Ans Op ρ) → Prop) (c : Config A σ γ Ans Op ρ) : Prop where
  shared : J c.shared
  agents : ∀ a, S.Agrees J view I c a

namespace System

variable {S : System A σ γ Ans Op ρ} {J : γ → Prop} {view : A → γ → κ}
  {I : A → κ → List (Finished σ γ Ans Op ρ) → Prop} {c : Config A σ γ Ans Op ρ}

theorem Keeps.start {g : γ} (hJ : J g) (hI : ∀ a, I a (view a g) []) :
    S.Keeps J view I (.start g) where
  shared := hJ
  agents a :=
    { idle := fun _ => hI a
      running := fun _ hjob => nomatch hjob
      past := ⟨view a g, hI a⟩
      ready := fun _ hx => absurd hx List.not_mem_nil }

/-- An agent is not concerned by a step that changes neither its view nor its work. -/
theorem Agrees.frame {c' : Config A σ γ Ans Op ρ} {a : A} (h : S.Agrees J view I c a)
    (hview : view a c'.shared = view a c.shared) (hrunning : c'.running a = c.running a)
    (hfinished : c'.finished a = c.finished a) : S.Agrees J view I c' a := by
  have hactions : c'.actions a = c.actions a := by
    unfold Config.actions
    rw [hrunning, hfinished]
  constructor
  case idle =>
    rw [hview, hrunning, hfinished]
    exact h.idle
  case running =>
    rw [hview, hrunning, hfinished]
    exact h.running
  case past =>
    rw [hfinished]
    exact h.past
  case ready =>
    rw [hactions]
    exact h.ready

/-- The calls of the operation an agent is in the middle of. -/
theorem Agrees.ready_job {a : A} (h : S.Agrees J view I c a) {job : Job σ γ Ans Op ρ}
    (hjob : c.running a = some job) {x : Action γ Ans} (hx : x ∈ job.trace.actions) :
    (S.env a).ready x.before x.call := by
  apply h.ready x
  unfold Config.actions
  rw [hjob]
  exact List.mem_append_right _ hx

/-- The calls of the operations an agent has finished. -/
theorem Agrees.ready_finished {a : A} (h : S.Agrees J view I c a) {x : Action γ Ans}
    (hx : x ∈ (c.finished a).flatMap (·.trace.actions)) : (S.env a).ready x.before x.call :=
  h.ready x (List.mem_append_left _ hx)

/-- Every operation, run from what an agent knows between two operations, makes
    only calls it is ready for and brings the agent back there. -/
def Restores (S : System A σ γ Ans Op ρ) (J : γ → Prop) (view : A → γ → κ)
    (I : A → κ → List (Finished σ γ Ans Op ρ) → Prop) : Prop :=
  ∀ a op k past, I a k past → (S.prog a op).wp ((S.env a).seen J (view a))
    (fun r l => I a l.view (past ++ [⟨op, r, l.trace⟩])) ⟨k, .empty⟩

variable [DecidableEq A]

/-- An agent goes on with an operation. -/
theorem Keeps.run (h : S.Keeps J view I c) {a : A} {job : Job σ γ Ans Op ρ} {g : γ}
    (hframe : Frame J view a c.shared g)
    (hwp : job.rest.wp ((S.env a).seen J (view a))
      (fun r l => I a l.view (c.finished a ++ [⟨job.op, r, l.trace⟩])) ⟨view a g, job.trace⟩)
    (hready : ∀ x ∈ job.trace.actions, (S.env a).ready x.before x.call) :
    S.Keeps J view I (c.run a job g) := by
  refine ⟨hframe.inv, ?_⟩
  intro b
  rcases eq_or_ne b a with rfl | hb
  · constructor
    case idle =>
      intro hidle
      rw [Config.run_running_self] at hidle
      cases hidle
    case running =>
      intro job' hjob
      rw [Config.run_running_self] at hjob
      obtain rfl := Option.some.inj hjob
      exact hwp
    case past => exact (h.agents b).past
    case ready =>
      intro x hx
      rw [Config.run_actions_self, List.mem_append] at hx
      rcases hx with hx | hx
      · exact (h.agents b).ready_finished hx
      · exact hready x hx
  · exact (h.agents b).frame (hframe.others b hb) (Config.run_running_of_ne hb) rfl

/-- An agent finishes an operation. -/
theorem Keeps.finish (h : S.Keeps J view I c) {a : A} {op : Op} {r : ρ} {t : Trace σ γ Ans}
    (hjob : c.running a = some ⟨op, .ret r, t⟩) : S.Keeps J view I (c.finish a ⟨op, r, t⟩) := by
  have hdone : I a (view a c.shared) (c.finished a ++ [⟨op, r, t⟩]) := (h.agents a).running _ hjob
  refine ⟨h.shared, ?_⟩
  intro b
  rcases eq_or_ne b a with rfl | hb
  · constructor
    case idle =>
      intro _
      rw [Config.finish_finished_self]
      exact hdone
    case running =>
      intro job hrunning
      rw [Config.finish_running_self] at hrunning
      cases hrunning
    case past =>
      rw [Config.finish_finished_self]
      exact ⟨_, hdone⟩
    case ready =>
      intro x hx
      rw [Config.finish_actions_self, List.mem_append] at hx
      rcases hx with hx | hx
      · exact (h.agents b).ready_finished hx
      · exact (h.agents b).ready_job hjob hx
  · exact (h.agents b).frame rfl (Config.finish_running_of_ne hb) (Config.finish_finished_of_ne hb)

theorem Keeps.step (hiso : S.Isolates J view) (hop : S.Restores J view I)
    {c c' : Config A σ γ Ans Op ρ} (h : S.Keeps J view I c) (hstep : S.Step c c') :
    S.Keeps J view I c' := by
  cases hstep with
  | @begin a op hidle =>
      have hframe : Frame J view a c.shared c.shared := ⟨h.shared, fun _ _ => rfl⟩
      have hwp := hop a op _ _ ((h.agents a).idle hidle)
      exact h.run hframe hwp fun _ hx => absurd hx List.not_mem_nil
  | get hjob hget =>
      have hwp := (h.agents _).running _ hjob
      refine h.run (hiso.get h.shared hget) ?_ fun _ hx => (h.agents _).ready_job hjob hx
      exact hwp _ _ ⟨_, _, h.shared, rfl, hget, rfl⟩
  | modify hjob hmodify =>
      have hwp := (h.agents _).running _ hjob
      refine h.run (hiso.modify h.shared hmodify) ?_ fun _ hx => (h.agents _).ready_job hjob hx
      exact hwp _ ⟨_, _, h.shared, rfl, hmodify, rfl⟩
  | call hjob hcall =>
      have hwp := (h.agents _).running _ hjob
      have hready := hwp.1 _ h.shared rfl
      refine h.run (hiso.call h.shared hready hcall) ?_ ?_
      · exact hwp.2 _ _ ⟨_, _, h.shared, rfl, hcall, rfl⟩
      · intro x hx
        rcases List.mem_append.1 hx with hx | hx
        · exact (h.agents _).ready_job hjob hx
        · obtain rfl := List.mem_singleton.1 hx
          exact hready
  | finish hjob => exact h.finish hjob

/-- The proof rule: isolated agents that restore their own invariant keep it in
    every interleaving. -/
theorem keeps_of_reachable (hiso : S.Isolates J view) (hop : S.Restores J view I) {g : γ}
    (hJ : J g) (hI : ∀ a, I a (view a g) []) (hc : S.Reachable g c) : S.Keeps J view I c := by
  induction hc with
  | refl => exact .start hJ hI
  | tail _ hstep ih => exact ih.step hiso hop hstep

end System

end Interaction
