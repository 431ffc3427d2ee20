-- SUMMARY: Callers whose programs lock and unlock a mutex themselves, and what becomes of them when each locks first and unlocks last.
import Nvfm.Interaction.Progress

/-!
# Programs that Lock

Any number of callers share a memory and a mutex, and each operation runs its own
program, one step at a time. The scheduler knows nothing of who may touch the memory:
`Lock` waits while the mutex is taken, `Unlock` frees it, whoever took it, and every
other step is taken at once. When each program takes the mutex first and gives it back
at its end, the callers go through the same turns as under a mutex of the scheduler.
-/

namespace Interaction

/-! ## Configurations -/

/-- The shared memory with all calls made so far, whether the mutex is taken, what every
    caller has left to run, and the history of the callers. -/
structure Concurrent (A σ : Type) {E : Type} (Ans : E → Type) (Op ρ : Type) where
  world : World σ Ans
  taken : Bool
  running : A → Option (Op × Prog σ (Sync.Answer Ans) ρ)
  history : List (Moment A Op ρ)

variable {A σ E : Type} {Ans : E → Type} {Op ρ : Type}

namespace Concurrent

def start (s : σ) : Concurrent A σ Ans Op ρ := ⟨⟨s, []⟩, false, fun _ => none, []⟩

section Turns

variable [DecidableEq A] (c : Concurrent A σ Ans Op ρ)

/-- The caller `a` calls `op`, which runs `p`. -/
def call (a : A) (op : Op) (p : Prog σ (Sync.Answer Ans) ρ) : Concurrent A σ Ans Op ρ :=
  { c with
    running := Function.update c.running a (some (op, p))
    history := c.history ++ [.called a op] }

/-- The caller `a` takes one step of its program, and has `p` left to run. -/
def advance (a : A) (op : Op) (p : Prog σ (Sync.Answer Ans) ρ) (taken : Bool) (w : World σ Ans) :
    Concurrent A σ Ans Op ρ :=
  { c with world := w, taken := taken, running := Function.update c.running a (some (op, p)) }

/-- The operation of the caller `a` returns. -/
def finish (a : A) (op : Op) (r : ρ) : Concurrent A σ Ans Op ρ :=
  { c with
    running := Function.update c.running a none
    history := c.history ++ [.returned a op r] }

variable (code : Op → Prog σ (Sync.Answer Ans) ρ) (o : Oracle Ans)

/-- One turn. A caller that cannot move (it is not in an operation, it is still in one, or
    the mutex is taken) leaves everything as it is. So does one that gives back a mutex
    that is free, which ends a Go program: it never moves again. -/
def turn : Turn A Op → Concurrent A σ Ans Op ρ
  | .call a op =>
      match c.running a with
      | none => c.call a op (code op)
      | some _ => c
  | .go a =>
      match c.running a with
      | none => c
      | some (op, .ret r) => c.finish a op r
      | some (op, .get k) => c.advance a op (k c.world.mem) c.taken c.world
      | some (op, .modify f k) => c.advance a op k c.taken (c.world.update f)
      | some (op, .call .Lock k) => if c.taken then c else c.advance a op (k ()) true c.world
      | some (op, .call .Unlock k) => if c.taken then c.advance a op (k ()) false c.world else c
      | some (op, .call (.outside e) k) =>
          let r := o c.world.events.length e
          c.advance a op (k r) c.taken (c.world.record e r)

/-- The configuration after a schedule. -/
def schedule (s : σ) (ts : List (Turn A Op)) : Concurrent A σ Ans Op ρ :=
  ts.foldl (fun c t => c.turn code o t) (.start s)

theorem schedule_concat (s : σ) (ts : List (Turn A Op)) (t : Turn A Op) :
    schedule code o s (ts ++ [t]) = (schedule code o s ts).turn code o t := by
  simp [schedule]

/-- The callers go on with the operations they are in, in the order `turns`. -/
def play (turns : ℕ → A) : ℕ → Concurrent A σ Ans Op ρ
  | 0 => c
  | n + 1 => (play turns n).turn code o (.go (turns n))

end Turns

end Concurrent

/-- The next step of the program needs the mutex: it reads or updates the memory, makes a
    call of the outside world, or gives the mutex back. -/
def Prog.NeedsMutex {α : Type} : Prog σ (Sync.Answer Ans) α → Prop
  | .ret _ | .call .Lock _ => False
  | .get _ | .modify _ _ | .call .Unlock _ | .call (.outside _) _ => True

/-- The caller `a` is between taking the mutex and giving it back. -/
def Concurrent.Inside (c : Concurrent A σ Ans Op ρ) (a : A) : Prop :=
  ∃ op p, c.running a = some (op, p) ∧ p.NeedsMutex

/-! ## Programs that lock first and unlock last -/

theorem Prog.needsMutex_unlocking {α : Type} (p : Prog σ Ans α) : p.unlocking.NeedsMutex := by
  cases p <;> exact trivial

/-- What a caller has left to run, where each operation runs `body` under the mutex. -/
def Phase.code (body : Op → Prog σ Ans ρ) :
    Phase σ Ans Op ρ → Option (Op × Prog σ (Sync.Answer Ans) ρ)
  | .idle => none
  | .waiting op => some (op, (body op).locked)
  | .inside op rest => some (op, rest.unlocking)
  | .leaving op r => some (op, .ret r)

@[simp] theorem Phase.code_eq_none {body : Op → Prog σ Ans ρ} {p : Phase σ Ans Op ρ} :
    p.code body = none ↔ p = .idle := by
  cases p <;> simp [code]

/-- A caller whose next step needs the mutex is inside. -/
theorem Phase.inside_of_needsMutex {body : Op → Prog σ Ans ρ} {phase : Phase σ Ans Op ρ} {op : Op}
    {p : Prog σ (Sync.Answer Ans) ρ} (h : phase.code body = some (op, p)) (hp : p.NeedsMutex) :
    ∃ rest, phase = .inside op rest ∧ p = rest.unlocking := by
  cases phase with
  | idle => cases h
  | waiting op' =>
      obtain ⟨rfl, rfl⟩ := Prod.mk.inj (Option.some.inj h)
      exact absurd hp id
  | inside op' rest =>
      obtain ⟨rfl, rfl⟩ := Prod.mk.inj (Option.some.inj h)
      exact ⟨rest, rfl, rfl⟩
  | leaving op' r =>
      obtain ⟨rfl, rfl⟩ := Prod.mk.inj (Option.some.inj h)
      exact absurd hp id

namespace Guarded

/-- The configuration, with the programs that the callers run in it. -/
def code (body : Op → Prog σ Ans ρ) (c : Guarded A σ Ans Op ρ) : Concurrent A σ Ans Op ρ where
  world := c.world
  taken := c.owner.isSome
  running a := (c.phase a).code body
  history := c.history

section Code

variable {body : Op → Prog σ Ans ρ} {o : Oracle Ans} {c : Guarded A σ Ans Op ρ}
  {a : A} {op : Op} {rest : Prog σ Ans ρ}

@[simp] theorem code_world : (c.code body).world = c.world := rfl
@[simp] theorem code_taken : (c.code body).taken = c.owner.isSome := rfl
@[simp] theorem code_running : (c.code body).running a = (c.phase a).code body := rfl
@[simp] theorem code_history : (c.code body).history = c.history := rfl

variable [DecidableEq A]

/-- One caller's phase changes, and with it what this caller has left to run. -/
theorem running_update (p : Phase σ Ans Op ρ) :
    (fun b => (Function.update c.phase a p b).code body) =
      Function.update (c.code body).running a (p.code body) := by
  funext b
  rcases eq_or_ne b a with rfl | hne
  · simp
  · simp [hne]

theorem code_call : (c.call a op).code body = (c.code body).call a op (body op).locked := by
  simp only [code, call, Concurrent.call, running_update]
  rfl

theorem code_lock : (c.lock a op rest).code body =
    (c.code body).advance a op rest.unlocking true c.world := by
  simp only [code, lock, Concurrent.advance, running_update]
  rfl

theorem code_advance {w : World σ Ans} : (c.advance a op rest w).code body =
    (c.code body).advance a op rest.unlocking c.owner.isSome w := by
  simp only [code, advance, Concurrent.advance, running_update]
  rfl

theorem code_unlock {r : ρ} : (c.unlock a op r).code body =
    (c.code body).advance a op (.ret r) false c.world := by
  simp only [code, unlock, Concurrent.advance, running_update]
  rfl

theorem code_finish {r : ρ} : (c.finish a op r).code body = (c.code body).finish a op r := by
  simp only [code, finish, Concurrent.finish, running_update]
  rfl

/-- Every turn of the programs is one under the mutex. The caller that gives the mutex back
    holds it. -/
theorem code_turn (hheld : ∀ a op rest, c.phase a = .inside op rest → c.owner.isSome)
    (t : Turn A Op) :
    (c.code body).turn (fun op => (body op).locked) o t = (c.turn body o t).code body := by
  cases t with
  | call a op =>
      cases hphase : c.phase a with
      | idle => simp [turn, Concurrent.turn, hphase, Phase.code, code_call]
      | waiting op' => simp [turn, Concurrent.turn, hphase, Phase.code]
      | inside op' rest => simp [turn, Concurrent.turn, hphase, Phase.code]
      | leaving op' r => simp [turn, Concurrent.turn, hphase, Phase.code]
  | go a =>
      cases hphase : c.phase a with
      | idle => simp [turn, Concurrent.turn, hphase, Phase.code]
      | waiting op =>
          cases howner : c.owner with
          | none => simp [turn, Concurrent.turn, hphase, howner, Phase.code, Prog.locked_eq, code_lock]
          | some b => simp [turn, Concurrent.turn, hphase, howner, Phase.code, Prog.locked_eq]
      | inside op rest =>
          have howner := hheld a op rest hphase
          cases rest with
          | ret r =>
              simp [turn, Concurrent.turn, hphase, howner, Phase.code, Prog.step, code_unlock]
          | get k =>
              simp [turn, Concurrent.turn, hphase, Phase.code, Prog.step, code_advance]
          | modify f k =>
              simp [turn, Concurrent.turn, hphase, Phase.code, Prog.step, code_advance]
          | call e k =>
              simp [turn, Concurrent.turn, hphase, Phase.code, Prog.step, code_advance]
      | leaving op r => simp [turn, Concurrent.turn, hphase, Phase.code, code_finish]

theorem Follows.held {l : Log σ Ans (A × Op) ρ} (h : Follows body o c l) :
    ∀ a op rest, c.phase a = .inside op rest → c.owner.isSome := by
  intro a op rest hinside
  rw [h.holder a op rest hinside]
  rfl

/-- Programs that lock first and unlock last go through the schedules of the mutex. -/
theorem code_schedule {prog : Op → Prog σ (Sync.Answer Ans) ρ} (hprog : ∀ op, prog op = (body op).locked)
    (o : Oracle Ans) (s : σ) (ts : List (Turn A Op)) :
    Concurrent.schedule prog o s ts = (schedule body o s ts).code body := by
  obtain rfl : prog = fun op => (body op).locked := funext hprog
  induction ts using List.reverseRecOn with
  | nil => rfl
  | append_singleton ts t ih =>
      obtain ⟨ops, hfollows⟩ := follows_schedule body o s ts
      rw [Concurrent.schedule_concat, schedule_concat, ih, code_turn hfollows.held]

/-- The mutex is taken exactly while a caller is inside. -/
theorem Follows.taken_iff {l : Log σ Ans (A × Op) ρ} (h : Follows body o c l) :
    (c.code body).taken = true ↔ ∃ a, (c.code body).Inside a := by
  constructor
  · intro htaken
    obtain ⟨a, howner⟩ := Option.isSome_iff_exists.1 htaken
    obtain ⟨op, rest, hinside⟩ := h.inside a howner
    refine ⟨a, op, rest.unlocking, ?_, rest.needsMutex_unlocking⟩
    rw [code_running, hinside]
    rfl
  · rintro ⟨a, op, p, hrunning, hneeds⟩
    obtain ⟨rest, hinside, _⟩ := Phase.inside_of_needsMutex hrunning hneeds
    exact h.held a op rest hinside

/-- No two callers are inside. -/
theorem Follows.exclusive {l : Log σ Ans (A × Op) ρ} (h : Follows body o c l) {a b : A}
    (ha : (c.code body).Inside a) (hb : (c.code body).Inside b) : b = a := by
  obtain ⟨op, p, hrunning, hneeds⟩ := ha
  obtain ⟨op', p', hrunning', hneeds'⟩ := hb
  obtain ⟨rest, hinside, _⟩ := Phase.inside_of_needsMutex hrunning hneeds
  obtain ⟨rest', hinside', _⟩ := Phase.inside_of_needsMutex hrunning' hneeds'
  exact h.alone hinside hinside'

theorem code_play {prog : Op → Prog σ (Sync.Answer Ans) ρ} (hprog : ∀ op, prog op = (body op).locked)
    {l : Log σ Ans (A × Op) ρ} (h : Follows body o c l) (turns : ℕ → A) (n : ℕ) :
    (c.code body).play prog o turns n = (c.play body o turns n).code body := by
  obtain rfl : prog = fun op => (body op).locked := funext hprog
  induction n with
  | zero => rfl
  | succ n ih =>
      obtain ⟨l, hfollows⟩ := h.play turns n
      rw [Concurrent.play, play, ih, code_turn hfollows.held]

end Code

end Guarded

end Interaction
