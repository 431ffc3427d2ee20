-- SUMMARY: Programs as interaction trees over a memory, run against an oracle, with a weakest-precondition calculus.
import Mathlib.Data.List.Basic

/-!
# Interaction Programs

A program is a tree. Each node reads or updates a memory of type `σ`, or makes
one call to the outside world and branches on the answer. The answers are not
part of the program: an oracle supplies them in a run, and an environment
describes which of them are possible in a proof.
-/

namespace Interaction

/-- A program over the memory `σ`. It makes calls of type `E`; the call `e` is
    answered in `Ans e`. -/
inductive Prog (σ : Type) {E : Type} (Ans : E → Type) (α : Type) : Type where
  | ret (a : α) : Prog σ Ans α
  | get (k : σ → Prog σ Ans α) : Prog σ Ans α
  | modify (f : σ → σ) (k : Prog σ Ans α) : Prog σ Ans α
  | call (e : E) (k : Ans e → Prog σ Ans α) : Prog σ Ans α

namespace Prog

variable {σ E : Type} {Ans : E → Type} {α β : Type}

def bind : Prog σ Ans α → (α → Prog σ Ans β) → Prog σ Ans β
  | .ret a, f => f a
  | .get k, f => .get fun s => (k s).bind f
  | .modify g k, f => .modify g (k.bind f)
  | .call e k, f => .call e fun r => (k r).bind f

instance : Monad (Prog σ Ans) where
  pure := .ret
  bind := .bind

/-- Read the memory. -/
def load : Prog σ Ans σ := .get .ret

/-- Update the memory. -/
def update (f : σ → σ) : Prog σ Ans Unit := .modify f (.ret ())

/-- Make one call and return its answer. -/
def invoke (e : E) : Prog σ Ans (Ans e) := .call e .ret

@[simp] theorem pure_eq (a : α) : (pure a : Prog σ Ans α) = .ret a := rfl
@[simp] theorem bind_ret (a : α) (f : α → Prog σ Ans β) : (Prog.ret a >>= f) = f a := rfl
@[simp] theorem bind_get (k : σ → Prog σ Ans α) (f : α → Prog σ Ans β) :
    (Prog.get k >>= f) = .get fun s => k s >>= f := rfl
@[simp] theorem bind_modify (g : σ → σ) (k : Prog σ Ans α) (f : α → Prog σ Ans β) :
    (Prog.modify g k >>= f) = .modify g (k >>= f) := rfl
@[simp] theorem bind_call (e : E) (k : Ans e → Prog σ Ans α) (f : α → Prog σ Ans β) :
    (Prog.call e k >>= f) = .call e fun r => k r >>= f := rfl

@[simp] theorem load_bind (f : σ → Prog σ Ans β) : (load >>= f) = .get f := rfl
@[simp] theorem update_bind (g : σ → σ) (f : Unit → Prog σ Ans β) :
    (update g >>= f) = .modify g (f ()) := rfl
@[simp] theorem invoke_bind (e : E) (f : Ans e → Prog σ Ans β) : (invoke e >>= f) = .call e f := rfl

end Prog

/-! ## Programs on a part of the memory -/

/-- A part `τ` of the memory `σ`. -/
structure Lens (σ τ : Type) where
  get : σ → τ
  set : τ → σ → σ
  get_set : ∀ t s, get (set t s) = t
  set_get : ∀ s, set (get s) s = s
  set_set : ∀ t t' s, set t (set t' s) = set t s

namespace Lens

variable {σ τ : Type}

def modify (l : Lens σ τ) (f : τ → τ) (s : σ) : σ := l.set (f (l.get s)) s

@[simp] theorem get_modify (l : Lens σ τ) (f : τ → τ) (s : σ) : l.get (l.modify f s) = f (l.get s) :=
  l.get_set _ _

end Lens

namespace Prog

variable {σ τ E : Type} {Ans : E → Type} {α β : Type}

/-- A program for the part `l` of the memory, as a program for the whole of it. -/
def zoom (l : Lens σ τ) : Prog τ Ans α → Prog σ Ans α
  | .ret a => .ret a
  | .get k => .get fun s => (k (l.get s)).zoom l
  | .modify f k => .modify (l.modify f) (k.zoom l)
  | .call e k => .call e fun r => (k r).zoom l

@[simp] theorem zoom_ret (l : Lens σ τ) (a : α) : (Prog.ret a : Prog τ Ans α).zoom l = .ret a := rfl
@[simp] theorem zoom_get (l : Lens σ τ) (k : τ → Prog τ Ans α) :
    (Prog.get k).zoom l = .get fun s => (k (l.get s)).zoom l := rfl
@[simp] theorem zoom_modify (l : Lens σ τ) (f : τ → τ) (k : Prog τ Ans α) :
    (Prog.modify f k).zoom l = .modify (l.modify f) (k.zoom l) := rfl
@[simp] theorem zoom_call (l : Lens σ τ) (e : E) (k : Ans e → Prog τ Ans α) :
    (Prog.call e k).zoom l = .call e fun r => (k r).zoom l := rfl

end Prog

/-! ## Programs that share a mutex -/

/-- What a program asks for that shares its memory with others: the mutex, or a call of
    the outside world. -/
inductive Sync (E : Type) where
  | Lock
  | Unlock
  | outside (e : E)

/-- The mutex answers nothing. -/
abbrev Sync.Answer {E : Type} (Ans : E → Type) : Sync E → Type
  | .Lock | .Unlock => Unit
  | .outside e => Ans e

namespace Prog

variable {σ E : Type} {Ans : E → Type} {α β : Type}

/-- A program that leaves the mutex alone. -/
def lift : Prog σ Ans α → Prog σ (Sync.Answer Ans) α
  | .ret a => .ret a
  | .get k => .get fun s => (k s).lift
  | .modify f k => .modify f k.lift
  | .call e k => .call (.outside e) fun r => (k r).lift

/-- A program with a deferred `Unlock`, which runs once the result is known. -/
def unlocking (p : Prog σ Ans α) : Prog σ (Sync.Answer Ans) α := do
  let a ← p.lift
  invoke Sync.Unlock
  return a

/-- A program that takes the mutex first, and gives it back at its end. -/
def locked (p : Prog σ Ans α) : Prog σ (Sync.Answer Ans) α := do
  invoke Sync.Lock
  p.unlocking

@[simp] theorem unlocking_ret (a : α) : (Prog.ret a : Prog σ Ans α).unlocking =
    .call .Unlock fun _ => .ret a := rfl
@[simp] theorem unlocking_get (k : σ → Prog σ Ans α) :
    (Prog.get k).unlocking = .get fun s => (k s).unlocking := rfl
@[simp] theorem unlocking_modify (f : σ → σ) (k : Prog σ Ans α) :
    (Prog.modify f k).unlocking = .modify f k.unlocking := rfl
@[simp] theorem unlocking_call (e : E) (k : Ans e → Prog σ Ans α) :
    (Prog.call e k).unlocking = .call (.outside e) fun r => (k r).unlocking := rfl

theorem locked_eq (p : Prog σ Ans α) : p.locked = .call .Lock fun _ => p.unlocking := rfl

theorem unlocking_map (p : Prog σ Ans α) (f : α → β) :
    (p.unlocking >>= fun a => .ret (f a)) = (p >>= fun a => .ret (f a)).unlocking := by
  induction p with
  | ret a => rfl
  | get k ih => simp only [unlocking_get, bind_get, ih]
  | modify g k ih => simp only [unlocking_modify, bind_modify, ih]
  | call e k ih => simp only [unlocking_call, bind_call, ih]

/-- Changing the result comes before or after giving the mutex back. -/
theorem locked_map (p : Prog σ Ans α) (f : α → β) :
    (p.locked >>= fun a => .ret (f a)) = (p >>= fun a => .ret (f a)).locked := by
  rw [locked_eq, locked_eq, bind_call, ← unlocking_map]

end Prog

/-! ## Runs -/

/-- One call of a run: the memory it was made in, the call and its answer. -/
structure Event (σ : Type) {E : Type} (Ans : E → Type) where
  mem : σ
  call : E
  answer : Ans call

/-- The memory, and the calls made so far. -/
structure World (σ : Type) {E : Type} (Ans : E → Type) where
  mem : σ
  events : List (Event σ Ans)

/-- The answers of the outside world: the `n`-th call of a run, when it is `e`,
    is answered by `o n e`. -/
abbrev Oracle {E : Type} (Ans : E → Type) := ℕ → (e : E) → Ans e

variable {σ E : Type} {Ans : E → Type} {α β γ : Type}

/-- The oracle from its `n`-th answer on. -/
def Oracle.drop (o : Oracle Ans) (n : ℕ) : Oracle Ans := fun i e => o (n + i) e

namespace World

def update (w : World σ Ans) (f : σ → σ) : World σ Ans := { w with mem := f w.mem }

def record (w : World σ Ans) (e : E) (r : Ans e) : World σ Ans :=
  { w with events := w.events ++ [⟨w.mem, e, r⟩] }

@[simp] theorem update_mem (w : World σ Ans) (f : σ → σ) : (w.update f).mem = f w.mem := rfl
@[simp] theorem update_events (w : World σ Ans) (f : σ → σ) : (w.update f).events = w.events := rfl
@[simp] theorem record_mem (w : World σ Ans) (e : E) (r : Ans e) : (w.record e r).mem = w.mem := rfl
@[simp] theorem record_events (w : World σ Ans) (e : E) (r : Ans e) :
    (w.record e r).events = w.events ++ [⟨w.mem, e, r⟩] := rfl

end World

/-- Run a program to its end, with the answers of `o`. -/
def Prog.run (o : Oracle Ans) : Prog σ Ans α → World σ Ans → α × World σ Ans
  | .ret a, w => (a, w)
  | .get k, w => (k w.mem).run o w
  | .modify f k, w => k.run o (w.update f)
  | .call e k, w =>
      let r := o w.events.length e
      (k r).run o (w.record e r)

/-! ### Runs on a part of the memory -/

section Within

variable {τ : Type}

/-- An event of a part of the memory, as one of the whole memory `s`. -/
def Event.within (l : Lens σ τ) (s : σ) (e : Event τ Ans) : Event σ Ans :=
  ⟨l.set e.mem s, e.call, e.answer⟩

def World.within (l : Lens σ τ) (s : σ) (w : World τ Ans) : World σ Ans :=
  ⟨l.set w.mem s, w.events.map (Event.within l s)⟩

theorem World.within_start (l : Lens σ τ) (s : σ) :
    (⟨l.get s, []⟩ : World τ Ans).within l s = ⟨s, []⟩ := by
  rw [World.within, l.set_get]
  rfl

theorem World.update_within (l : Lens σ τ) (s : σ) (w : World τ Ans) (f : τ → τ) :
    (w.within l s).update (l.modify f) = (w.update f).within l s := by
  simp [World.within, World.update, Lens.modify, l.get_set, l.set_set]

theorem World.record_within (l : Lens σ τ) (s : σ) (w : World τ Ans) (e : E) (r : Ans e) :
    (w.within l s).record e r = (w.record e r).within l s := by
  simp [World.within, World.record, Event.within]

end Within

/-! ## Weakest preconditions -/

/-- What a program can meet while it runs, in terms of what is known about the
    world, `γ`: how a read, an update and an answer change the knowledge, and what
    has to be known for a call to be made. -/
structure Env (σ : Type) {E : Type} (Ans : E → Type) (γ : Type) where
  get : γ → σ → γ → Prop
  modify : γ → (σ → σ) → γ → Prop
  ready : γ → E → Prop
  call : γ → (e : E) → Ans e → γ → Prop

namespace Prog

/-- From the knowledge `g`, the program makes only calls it is ready for, and
    `Q` holds of its result and of the knowledge at its end. -/
def wp (ε : Env σ Ans γ) : Prog σ Ans α → (α → γ → Prop) → γ → Prop
  | .ret a, Q, g => Q a g
  | .get k, Q, g => ∀ s g', ε.get g s g' → (k s).wp ε Q g'
  | .modify f k, Q, g => ∀ g', ε.modify g f g' → k.wp ε Q g'
  | .call e k, Q, g => ε.ready g e ∧ ∀ r g', ε.call g e r g' → (k r).wp ε Q g'

theorem wp_mono {ε : Env σ Ans γ} {p : Prog σ Ans α} {Q R : α → γ → Prop} {g : γ}
    (hQR : ∀ a g, Q a g → R a g) (h : p.wp ε Q g) : p.wp ε R g := by
  induction p generalizing g with
  | ret a => exact hQR a g h
  | get k ih => exact fun s g' hg => ih s (h s g' hg)
  | modify f k ih => exact fun g' hg => ih (h g' hg)
  | call e k ih => exact ⟨h.1, fun r g' hg => ih r (h.2 r g' hg)⟩

theorem wp_bind {ε : Env σ Ans γ} {p : Prog σ Ans α} {f : α → Prog σ Ans β}
    {Q : β → γ → Prop} {g : γ} :
    (p >>= f).wp ε Q g ↔ p.wp ε (fun a => (f a).wp ε Q) g := by
  induction p generalizing g with
  | ret a => rfl
  | get k ih => exact forall_congr' fun s => forall_congr' fun g' => imp_congr_right fun _ => ih s
  | modify h k ih => exact forall_congr' fun g' => imp_congr_right fun _ => ih
  | call e k ih =>
      exact and_congr_right fun _ =>
        forall_congr' fun r => forall_congr' fun g' => imp_congr_right fun _ => ih r

end Prog

/-- A program that is ready for every call has every result that always holds. -/
theorem Prog.wp_of_ready {ε : Env σ Ans γ} {p : Prog σ Ans α} {Q : α → γ → Prop}
    (hready : ∀ g e, ε.ready g e) (hQ : ∀ a g, Q a g) (g : γ) : p.wp ε Q g := by
  induction p generalizing g with
  | ret a => exact hQ a g
  | get k ih => exact fun s g' _ => ih s g'
  | modify f k ih => exact fun g' _ => ih g'
  | call e k ih => exact ⟨hready g e, fun r g' _ => ih r g'⟩

/-- Every step of `ε` is one of `ε'`, and `R` relates what is known in the two. -/
structure Env.Simulates {κ : Type} (ε : Env σ Ans γ) (ε' : Env σ Ans κ) (R : γ → κ → Prop) :
    Prop where
  get : ∀ {g k s g'}, R g k → ε.get g s g' → ∃ k', ε'.get k s k' ∧ R g' k'
  modify : ∀ {g k f g'}, R g k → ε.modify g f g' → ∃ k', ε'.modify k f k' ∧ R g' k'
  ready : ∀ {g k e}, R g k → ε'.ready k e → ε.ready g e
  call : ∀ {g k e r g'}, R g k → ε'.ready k e → ε.call g e r g' → ∃ k', ε'.call k e r k' ∧ R g' k'

/-- What holds of a program in an environment holds of it in those it simulates. -/
theorem Prog.wp_simulates {κ : Type} {ε : Env σ Ans γ} {ε' : Env σ Ans κ} {R : γ → κ → Prop}
    (hsim : ε.Simulates ε' R) {p : Prog σ Ans α} {Q : α → γ → Prop} {g : γ} {k : κ} (hR : R g k)
    (h : p.wp ε' (fun a k' => ∀ g', R g' k' → Q a g') k) : p.wp ε Q g := by
  induction p generalizing g k with
  | ret a => exact h g hR
  | get p ih =>
      intro s g' hget
      obtain ⟨k', hk, hR'⟩ := hsim.get hR hget
      exact ih s hR' (h s k' hk)
  | modify f p ih =>
      intro g' hmodify
      obtain ⟨k', hk, hR'⟩ := hsim.modify hR hmodify
      exact ih hR' (h k' hk)
  | call e p ih =>
      refine ⟨hsim.ready hR h.1, ?_⟩
      intro r g' hcall
      obtain ⟨k', hk, hR'⟩ := hsim.call hR h.1 hcall
      exact ih r hR' (h.2 r k' hk)

/-! ### The environment of a run -/

/-- The environment that knows the whole world and allows every answer. -/
def Env.recording : Env σ Ans (World σ Ans) where
  get w s w' := s = w.mem ∧ w' = w
  modify w f w' := w' = w.update f
  ready _ _ := True
  call w e r w' := w' = w.record e r

namespace Prog

@[simp] theorem wp_recording_ret {a : α} {Q : α → World σ Ans → Prop} {w : World σ Ans} :
    (Prog.ret a).wp .recording Q w ↔ Q a w := Iff.rfl

@[simp] theorem wp_recording_get {k : σ → Prog σ Ans α} {Q : α → World σ Ans → Prop}
    {w : World σ Ans} : (Prog.get k).wp .recording Q w ↔ (k w.mem).wp .recording Q w := by
  simp [wp, Env.recording]

@[simp] theorem wp_recording_modify {f : σ → σ} {k : Prog σ Ans α} {Q : α → World σ Ans → Prop}
    {w : World σ Ans} :
    (Prog.modify f k).wp .recording Q w ↔ k.wp .recording Q (w.update f) := by
  simp [wp, Env.recording]

@[simp] theorem wp_recording_call {e : E} {k : Ans e → Prog σ Ans α}
    {Q : α → World σ Ans → Prop} {w : World σ Ans} :
    (Prog.call e k).wp .recording Q w ↔ ∀ r, (k r).wp .recording Q (w.record e r) := by
  simp [wp, Env.recording]

/-- A specification of a program for a part of the memory holds of it in the whole. -/
theorem wp_zoom {τ : Type} {l : Lens σ τ} {p : Prog τ Ans α} {Q : α → World σ Ans → Prop} {s : σ}
    {w : World τ Ans} (h : p.wp .recording (fun a w' => Q a (w'.within l s)) w) :
    (p.zoom l).wp .recording Q (w.within l s) := by
  induction p generalizing w with
  | ret a => exact h
  | get k ih =>
      rw [zoom_get, wp_recording_get, World.within, l.get_set]
      exact ih _ (wp_recording_get.1 h)
  | modify f k ih =>
      rw [zoom_modify, wp_recording_modify, World.update_within]
      exact ih (wp_recording_modify.1 h)
  | call e k ih =>
      rw [zoom_call, wp_recording_call]
      intro r
      rw [World.record_within]
      exact ih r (wp_recording_call.1 h r)

/-- Adequacy: what the calculus proves of a program holds of each of its runs. -/
theorem run_of_wp {p : Prog σ Ans α} {Q : α → World σ Ans → Prop} {w : World σ Ans}
    (h : p.wp .recording Q w) (o : Oracle Ans) : Q (p.run o w).1 (p.run o w).2 := by
  induction p generalizing w with
  | ret a => exact h
  | get k ih => exact ih _ (wp_recording_get.1 h)
  | modify f k ih => exact ih (wp_recording_modify.1 h)
  | call e k ih => exact ih _ (wp_recording_call.1 h _)

end Prog

end Interaction
