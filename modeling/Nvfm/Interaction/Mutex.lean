-- SUMMARY: Callers that take one mutex for every operation, and the sequential log each of their interleavings amounts to.
import Nvfm.Interaction.Log

/-!
# Operations under a Mutex

Any number of callers share a memory. Each operation waits for the mutex, runs
its program step by step and gives the mutex back; a caller sees the result some
time after that. A schedule says whose turn it is, and keeps the mutex: it is the
pattern that programs with a `Lock` and an `Unlock` of their own have to fit. Every
schedule amounts to a log of the operations one after the other: at each moment of the
callers' history a beginning of the log holds all operations that have returned, and
only operations that have been called.
-/

namespace Interaction

/-! ## Single steps of a program -/

section Single

variable {σ E : Type} {Ans : E → Type} {α : Type}

/-- One step of a program: its result, or what is left of it and the world. -/
def Prog.step (o : Oracle Ans) : Prog σ Ans α → World σ Ans → α ⊕ Prog σ Ans α × World σ Ans
  | .ret a, _ => .inl a
  | .get k, w => .inr (k w.mem, w)
  | .modify f k, w => .inr (k, w.update f)
  | .call e k, w =>
      let r := o w.events.length e
      .inr (k r, w.record e r)

theorem Prog.run_of_step_inl {o : Oracle Ans} {p : Prog σ Ans α} {w : World σ Ans} {a : α}
    (h : p.step o w = .inl a) : p.run o w = (a, w) := by
  cases p with
  | ret b =>
      obtain rfl := Sum.inl.inj h
      rfl
  | get k => cases h
  | modify f k => cases h
  | call e k => cases h

theorem Prog.run_of_step_inr {o : Oracle Ans} {p p' : Prog σ Ans α} {w w' : World σ Ans}
    (h : p.step o w = .inr (p', w')) : p'.run o w' = p.run o w := by
  cases p with
  | ret b => cases h
  | get k =>
      obtain ⟨rfl, rfl⟩ := Prod.mk.inj (Sum.inr.inj h)
      rfl
  | modify f k =>
      obtain ⟨rfl, rfl⟩ := Prod.mk.inj (Sum.inr.inj h)
      rfl
  | call e k =>
      obtain ⟨rfl, rfl⟩ := Prod.mk.inj (Sum.inr.inj h)
      rfl

/-- A world whose run came after the calls `es`. -/
def World.since (es : List (Event σ Ans)) (w : World σ Ans) : World σ Ans :=
  ⟨w.mem, es ++ w.events⟩

/-- A step after the calls `es` is one with the answers that come after theirs. -/
theorem Prog.step_since (o : Oracle Ans) (p : Prog σ Ans α) (es : List (Event σ Ans))
    (w : World σ Ans) :
    p.step o (w.since es) =
      (p.step (o.drop es.length) w).map id (Prod.map id (World.since es)) := by
  cases p with
  | ret a => rfl
  | get k => rfl
  | modify f k => rfl
  | call e k => simp [step, World.since, World.record, Oracle.drop]

/-- A run only adds to the calls. -/
theorem Prog.run_events (o : Oracle Ans) (p : Prog σ Ans α) (w : World σ Ans) :
    w.events <+: (p.run o w).2.events := by
  induction p generalizing w with
  | ret a => exact List.prefix_rfl
  | get k ih => exact ih w.mem w
  | modify f k ih => exact ih (w.update f)
  | call e k ih => exact (List.prefix_append _ _).trans (ih _ (w.record e _))

end Single

/-! ## Histories -/

/-- What a caller sees of an operation: it calls it, and gets its result. -/
inductive Moment (A Op ρ : Type) where
  | called (a : A) (op : Op)
  | returned (a : A) (op : Op) (result : ρ)

section Histories

variable {A σ E : Type} {Ans : E → Type} {Op ρ : Type} [DecidableEq A]

/-- The operations `a` has called, in order. -/
def calls (a : A) (h : List (Moment A Op ρ)) : List Op :=
  h.filterMap fun
    | .called b op => if b = a then some op else none
    | .returned _ _ _ => none

/-- The operations that have returned to `a`, in order, with their results. -/
def returns (a : A) (h : List (Moment A Op ρ)) : List (Op × ρ) :=
  h.filterMap fun
    | .called _ _ => none
    | .returned b op r => if b = a then some (op, r) else none

/-- The operations of `a` in a log, in order, with their results. -/
def effects (a : A) (rs : List (Record σ Ans (A × Op) ρ)) : List (Op × ρ) :=
  rs.filterMap fun r => if r.op.1 = a then some (r.op.2, r.result) else none

variable {a b : A} {op : Op} {r : ρ} {h : List (Moment A Op ρ)} {rs : List (Record σ Ans (A × Op) ρ)}

@[simp] theorem calls_called : calls b (h ++ [.called a op]) =
    calls b h ++ if a = b then [op] else [] := by
  by_cases hab : a = b <;> simp [calls, hab]

@[simp] theorem calls_returned : calls b (h ++ [.returned a op r]) = calls b h := by
  simp [calls]

@[simp] theorem returns_called : returns b (h ++ [.called a op]) = returns b h := by
  simp [returns]

@[simp] theorem returns_returned : returns b (h ++ [.returned a op r]) =
    returns b h ++ if a = b then [(op, r)] else [] := by
  by_cases hab : a = b <;> simp [returns, hab]

@[simp] theorem effects_concat {s : σ} {w : World σ Ans} :
    effects b (rs ++ [⟨(a, op), r, s, w⟩]) = effects b rs ++ if a = b then [(op, r)] else [] := by
  by_cases hab : a = b <;> simp [effects, hab]

/-- The log holds every operation that has returned, with its result, and only
    operations that have been called. -/
structure Covers (h : List (Moment A Op ρ)) (rs : List (Record σ Ans (A × Op) ρ)) : Prop where
  returned : ∀ a, returns a h <+: effects a rs
  called : ∀ a, (effects a rs).map Prod.fst <+: calls a h

/-- The log is an order of the operations that agrees with the history at each of
    its moments: what has returned comes before what has not been called. -/
def Linearizes (h : List (Moment A Op ρ)) (rs : List (Record σ Ans (A × Op) ρ)) : Prop :=
  ∀ h₁, h₁ <+: h → ∃ rs₁, rs₁ <+: rs ∧ Covers h₁ rs₁

theorem linearizes_nil : Linearizes ([] : List (Moment A Op ρ)) ([] : List (Record σ Ans (A × Op) ρ)) := by
  intro h₁ hprefix
  obtain rfl := List.prefix_nil.1 hprefix
  exact ⟨[], List.prefix_rfl, fun _ => List.prefix_rfl, fun _ => List.prefix_rfl⟩

/-- A moment after which the whole log agrees with the history. -/
theorem Linearizes.moment {m : Moment A Op ρ} (hlin : Linearizes h rs)
    (hcovers : Covers (h ++ [m]) rs) : Linearizes (h ++ [m]) rs := by
  intro h₁ hprefix
  rcases List.prefix_concat_iff.1 hprefix with rfl | hprefix
  · exact ⟨rs, List.prefix_rfl, hcovers⟩
  · exact hlin h₁ hprefix

/-- An operation that takes effect. -/
theorem Linearizes.effect (hlin : Linearizes h rs) (r : Record σ Ans (A × Op) ρ) :
    Linearizes h (rs ++ [r]) := by
  intro h₁ hprefix
  obtain ⟨rs₁, hrs, hcovers⟩ := hlin h₁ hprefix
  exact ⟨rs₁, hrs.trans (List.prefix_append _ _), hcovers⟩

end Histories

/-! ## Configurations -/

/-- Where a caller is in an operation: it waits for the mutex, holds it with
    `rest` still to run, or has given it back and not returned yet. -/
inductive Phase (σ : Type) {E : Type} (Ans : E → Type) (Op ρ : Type) where
  | idle
  | waiting (op : Op)
  | inside (op : Op) (rest : Prog σ Ans ρ)
  | leaving (op : Op) (result : ρ)

/-- The operation a caller is in, as long as it has not taken effect. -/
def Phase.pending {σ E : Type} {Ans : E → Type} {Op ρ : Type} : Phase σ Ans Op ρ → Option Op
  | .idle | .leaving _ _ => none
  | .waiting op | .inside op _ => some op

/-- The shared memory with all calls made so far, the holder of the mutex, what
    every caller is doing, and the history of the callers. -/
structure Guarded (A σ : Type) {E : Type} (Ans : E → Type) (Op ρ : Type) where
  world : World σ Ans
  owner : Option A
  phase : A → Phase σ Ans Op ρ
  history : List (Moment A Op ρ)

/-- Whose turn it is: a caller begins an operation, or goes on with the one it is in. -/
inductive Turn (A Op : Type) where
  | call (a : A) (op : Op)
  | go (a : A)

variable {A σ E : Type} {Ans : E → Type} {Op ρ : Type}

namespace Guarded

def start (s : σ) : Guarded A σ Ans Op ρ := ⟨⟨s, []⟩, none, fun _ => .idle, []⟩

section Turns

variable [DecidableEq A] (c : Guarded A σ Ans Op ρ)

/-- The caller `a` calls `op`. -/
def call (a : A) (op : Op) : Guarded A σ Ans Op ρ :=
  { c with phase := Function.update c.phase a (.waiting op), history := c.history ++ [.called a op] }

/-- The caller `a` takes the mutex, with the program `p` to run. -/
def lock (a : A) (op : Op) (p : Prog σ Ans ρ) : Guarded A σ Ans Op ρ :=
  { c with owner := some a, phase := Function.update c.phase a (.inside op p) }

/-- The caller `a` takes one step of its program, and has `p` left to run. -/
def advance (a : A) (op : Op) (p : Prog σ Ans ρ) (w : World σ Ans) : Guarded A σ Ans Op ρ :=
  { c with world := w, phase := Function.update c.phase a (.inside op p) }

/-- The caller `a` gives the mutex back. -/
def unlock (a : A) (op : Op) (r : ρ) : Guarded A σ Ans Op ρ :=
  { c with owner := none, phase := Function.update c.phase a (.leaving op r) }

/-- The operation of the caller `a` returns. -/
def finish (a : A) (op : Op) (r : ρ) : Guarded A σ Ans Op ρ :=
  { c with phase := Function.update c.phase a .idle, history := c.history ++ [.returned a op r] }

variable (prog : Op → Prog σ Ans ρ) (o : Oracle Ans)

/-- One turn. A caller that cannot move (it is not in an operation, it is still in
    one, or the mutex is taken) leaves everything as it is. -/
def turn : Turn A Op → Guarded A σ Ans Op ρ
  | .call a op =>
      match c.phase a with
      | .idle => c.call a op
      | _ => c
  | .go a =>
      match c.phase a with
      | .idle => c
      | .waiting op =>
          match c.owner with
          | none => c.lock a op (prog op)
          | some _ => c
      | .inside op rest =>
          match rest.step o c.world with
          | .inl r => c.unlock a op r
          | .inr (rest, w) => c.advance a op rest w
      | .leaving op r => c.finish a op r

/-- The configuration after a schedule. -/
def schedule (s : σ) (ts : List (Turn A Op)) : Guarded A σ Ans Op ρ :=
  ts.foldl (fun c t => c.turn prog o t) (.start s)

theorem schedule_concat (s : σ) (ts : List (Turn A Op)) (t : Turn A Op) :
    schedule prog o s (ts ++ [t]) = (schedule prog o s ts).turn prog o t := by
  simp [schedule]

/-- What a turn can do, and what it adds to a log of the operations in effect: an
    operation takes effect when the mutex is given back. -/
inductive Turned (l : Log σ Ans (A × Op) ρ) :
    Guarded A σ Ans Op ρ → Log σ Ans (A × Op) ρ → Prop where
  | stayed : Turned l c l
  | called {a : A} (op : Op) (hidle : c.phase a = .idle) : Turned l (c.call a op) l
  | locked {a : A} {op : Op} (hwaiting : c.phase a = .waiting op) (hfree : c.owner = none) :
      Turned l (c.lock a op (prog op)) l
  | advanced {a : A} {op : Op} {rest rest' : Prog σ Ans ρ} {w : World σ Ans}
      (hinside : c.phase a = .inside op rest) (hstep : rest.step o c.world = .inr (rest', w)) :
      Turned l (c.advance a op rest' w) l
  | unlocked {a : A} {op : Op} {rest : Prog σ Ans ρ} {r : ρ}
      (hinside : c.phase a = .inside op rest) (hstep : rest.step o c.world = .inl r) :
      Turned l (c.unlock a op r) (l.perform (fun x => prog x.2) o (a, op))
  | finished {a : A} {op : Op} {r : ρ} (hleaving : c.phase a = .leaving op r) :
      Turned l (c.finish a op r) l

theorem turned (l : Log σ Ans (A × Op) ρ) (t : Turn A Op) :
    ∃ l', c.Turned prog o l (c.turn prog o t) l' := by
  cases t with
  | call a op =>
      simp only [turn]
      split
      · next hidle => exact ⟨l, .called op hidle⟩
      · exact ⟨l, .stayed⟩
  | go a =>
      simp only [turn]
      split
      · exact ⟨l, .stayed⟩
      · next op hwaiting =>
          split
          · next hfree => exact ⟨l, .locked hwaiting hfree⟩
          · exact ⟨l, .stayed⟩
      · next op rest hinside =>
          split
          · next r hstep => exact ⟨_, .unlocked hinside hstep⟩
          · next rest' w hstep => exact ⟨l, .advanced hinside hstep⟩
      · next op r hleaving => exact ⟨l, .finished hleaving⟩

end Turns

end Guarded

/-! ## The log of an interleaving -/

/-- What a caller has called and what has returned to it, beside its operations in
    the log: an operation takes effect when the mutex is given back. -/
def Phase.Agrees : Phase σ Ans Op ρ → List Op → List (Op × ρ) → List (Op × ρ) → Prop
  | .idle, called, returned, effected => returned = effected ∧ called = effected.map Prod.fst
  | .waiting op, called, returned, effected | .inside op _, called, returned, effected =>
      returned = effected ∧ called = effected.map Prod.fst ++ [op]
  | .leaving op r, called, returned, effected =>
      effected = returned ++ [(op, r)] ∧ called = effected.map Prod.fst

theorem Phase.Agrees.returned {p : Phase σ Ans Op ρ} {called : List Op}
    {returned effected : List (Op × ρ)} (h : p.Agrees called returned effected) :
    returned <+: effected := by
  cases p with
  | idle => exact h.1 ▸ List.prefix_rfl
  | waiting op => exact h.1 ▸ List.prefix_rfl
  | inside op rest => exact h.1 ▸ List.prefix_rfl
  | leaving op r => exact h.1 ▸ List.prefix_append _ _

theorem Phase.Agrees.called {p : Phase σ Ans Op ρ} {called : List Op}
    {returned effected : List (Op × ρ)} (h : p.Agrees called returned effected) :
    effected.map Prod.fst <+: called := by
  cases p with
  | idle => exact h.2 ▸ List.prefix_rfl
  | waiting op => exact h.2 ▸ List.prefix_append _ _
  | inside op rest => exact h.2 ▸ List.prefix_append _ _
  | leaving op r => exact h.2 ▸ List.prefix_rfl

namespace Guarded

variable [DecidableEq A] {prog : Op → Prog σ Ans ρ} {o : Oracle Ans}
  {c : Guarded A σ Ans Op ρ} {l : Log σ Ans (A × Op) ρ}

/-- The program `rest` and the world are what a run of `op` from the end of the log has
    come to, with `w` its own calls and memory. -/
structure Running (prog : Op → Prog σ Ans ρ) (o : Oracle Ans) (l : Log σ Ans (A × Op) ρ)
    (world : World σ Ans) (op : Op) (rest : Prog σ Ans ρ) (w : World σ Ans) : Prop where
  world_eq : world = w.since l.events
  run_eq : rest.run (o.drop l.events.length) w =
    (prog op).run (o.drop l.events.length) ⟨l.mem, []⟩

/-- The configuration, beside the log of the operations that have taken effect. -/
structure Follows (prog : Op → Prog σ Ans ρ) (o : Oracle Ans) (c : Guarded A σ Ans Op ρ)
    (l : Log σ Ans (A × Op) ρ) : Prop where
  free : c.owner = none → c.world = ⟨l.mem, l.events⟩
  holder : ∀ a op rest, c.phase a = .inside op rest → c.owner = some a
  inside : ∀ a, c.owner = some a → ∃ op rest, c.phase a = .inside op rest
  running : ∀ a op rest, c.phase a = .inside op rest → ∃ w, Running prog o l c.world op rest w
  agrees : ∀ a, (c.phase a).Agrees (calls a c.history) (returns a c.history) (effects a l.records)
  linearizes : Linearizes c.history l.records

theorem Follows.start (s : σ) : Follows prog o (.start s : Guarded A σ Ans Op ρ) (.start s) where
  free _ := rfl
  holder _ _ _ hinside := nomatch hinside
  inside _ howner := nomatch howner
  running _ _ _ hinside := nomatch hinside
  agrees _ := ⟨rfl, rfl⟩
  linearizes := linearizes_nil

/-- Nobody is inside while the mutex is free. -/
theorem Follows.outside (h : Follows prog o c l) (hfree : c.owner = none) (a : A) (op : Op)
    (rest : Prog σ Ans ρ) : c.phase a ≠ .inside op rest := by
  intro hinside
  have howner := h.holder a op rest hinside
  rw [hfree] at howner
  cases howner

/-- Only the holder of the mutex is inside. -/
theorem Follows.alone (h : Follows prog o c l) {a b : A} {op op' : Op} {rest rest' : Prog σ Ans ρ}
    (ha : c.phase a = .inside op rest) (hb : c.phase b = .inside op' rest') : b = a :=
  Option.some.inj ((h.holder b op' rest' hb).symm.trans (h.holder a op rest ha))

section Steps

variable {a : A} {op : Op} {r : ρ} {rest rest' : Prog σ Ans ρ} {w : World σ Ans}

theorem Follows.call (h : Follows prog o c l) (hidle : c.phase a = .idle) :
    Follows prog o (c.call a op) l := by
  have hagrees : ∀ b, ((c.call a op).phase b).Agrees (calls b (c.call a op).history)
      (returns b (c.call a op).history) (effects b l.records) := by
    intro b
    have hb := h.agrees b
    rcases eq_or_ne b a with rfl | hne
    · rw [hidle] at hb
      simpa [Guarded.call, Phase.Agrees] using hb
    · simpa [Guarded.call, hne, hne.symm] using hb
  have hsame : ∀ b op' rest, (c.call a op).phase b = .inside op' rest →
      c.phase b = .inside op' rest := by
    intro b op' rest hb
    rcases eq_or_ne b a with rfl | hne
    · simp [Guarded.call] at hb
    · simpa [Guarded.call, hne] using hb
  constructor
  case free => exact h.free
  case holder => exact fun b op' rest hb => h.holder b op' rest (hsame b op' rest hb)
  case inside =>
    intro b howner
    obtain ⟨op', rest, hb⟩ := h.inside b howner
    have hne : b ≠ a := by
      rintro rfl
      cases hidle.symm.trans hb
    exact ⟨op', rest, by simpa [Guarded.call, hne] using hb⟩
  case running => exact fun b op' rest hb => h.running b op' rest (hsame b op' rest hb)
  case agrees => exact hagrees
  case linearizes =>
    exact h.linearizes.moment ⟨fun b => (hagrees b).returned, fun b => (hagrees b).called⟩

theorem Follows.finish (h : Follows prog o c l) (hleaving : c.phase a = .leaving op r) :
    Follows prog o (c.finish a op r) l := by
  have hagrees : ∀ b, ((c.finish a op r).phase b).Agrees (calls b (c.finish a op r).history)
      (returns b (c.finish a op r).history) (effects b l.records) := by
    intro b
    have hb := h.agrees b
    rcases eq_or_ne b a with rfl | hne
    · rw [hleaving] at hb
      simpa [Guarded.finish, Phase.Agrees, eq_comm] using hb
    · simpa [Guarded.finish, hne, hne.symm] using hb
  have hsame : ∀ b op' rest, (c.finish a op r).phase b = .inside op' rest →
      c.phase b = .inside op' rest := by
    intro b op' rest hb
    rcases eq_or_ne b a with rfl | hne
    · simp [Guarded.finish] at hb
    · simpa [Guarded.finish, hne] using hb
  constructor
  case free => exact h.free
  case holder => exact fun b op' rest hb => h.holder b op' rest (hsame b op' rest hb)
  case inside =>
    intro b howner
    obtain ⟨op', rest, hb⟩ := h.inside b howner
    have hne : b ≠ a := by
      rintro rfl
      cases hleaving.symm.trans hb
    exact ⟨op', rest, by simpa [Guarded.finish, hne] using hb⟩
  case running => exact fun b op' rest hb => h.running b op' rest (hsame b op' rest hb)
  case agrees => exact hagrees
  case linearizes =>
    exact h.linearizes.moment ⟨fun b => (hagrees b).returned, fun b => (hagrees b).called⟩

theorem Follows.lock (h : Follows prog o c l) (hwaiting : c.phase a = .waiting op)
    (hfree : c.owner = none) : Follows prog o (c.lock a op (prog op)) l := by
  have hself : ∀ b op' rest, (c.lock a op (prog op)).phase b = .inside op' rest →
      b = a ∧ op = op' ∧ prog op = rest := by
    intro b op' rest hb
    rcases eq_or_ne b a with rfl | hne
    · simpa [Guarded.lock] using hb
    · exact absurd (by simpa [Guarded.lock, hne] using hb) (h.outside hfree b op' rest)
  constructor
  case free => intro howner; cases howner
  case holder =>
    intro b op' rest hb
    obtain ⟨rfl, _, _⟩ := hself b op' rest hb
    rfl
  case inside =>
    intro b howner
    obtain rfl : a = b := Option.some.inj howner
    exact ⟨op, prog op, by simp [Guarded.lock]⟩
  case running =>
    intro b op' rest hb
    obtain ⟨rfl, rfl, rfl⟩ := hself b op' rest hb
    refine ⟨⟨l.mem, []⟩, ?_, rfl⟩
    simp [Guarded.lock, World.since, h.free hfree]
  case agrees =>
    intro b
    have hb := h.agrees b
    rcases eq_or_ne b a with rfl | hne
    · rw [hwaiting] at hb
      simpa [Guarded.lock, Phase.Agrees] using hb
    · simpa [Guarded.lock, hne] using hb
  case linearizes => exact h.linearizes

theorem Follows.advance (h : Follows prog o c l) (hinside : c.phase a = .inside op rest)
    (hstep : rest.step o c.world = .inr (rest', w)) : Follows prog o (c.advance a op rest' w) l := by
  have hself : ∀ b op' p, (c.advance a op rest' w).phase b = .inside op' p →
      b = a ∧ op = op' ∧ rest' = p := by
    intro b op' p hb
    rcases eq_or_ne b a with rfl | hne
    · simpa [Guarded.advance] using hb
    · have hb' : c.phase b = .inside op' p := by simpa [Guarded.advance, hne] using hb
      exact absurd (h.alone hinside hb') hne
  have howner := h.holder a op rest hinside
  constructor
  case free =>
    intro hfree
    exact absurd (howner.symm.trans hfree) (Option.some_ne_none a)
  case holder =>
    intro b op' p hb
    obtain ⟨rfl, _, _⟩ := hself b op' p hb
    exact howner
  case inside =>
    intro b hb
    obtain rfl : a = b := Option.some.inj (howner.symm.trans hb)
    exact ⟨op, rest', by simp [Guarded.advance]⟩
  case running =>
    intro b op' p hb
    obtain ⟨rfl, rfl, rfl⟩ := hself b op' p hb
    obtain ⟨v, hv⟩ := h.running b op rest hinside
    rw [hv.world_eq, Prog.step_since] at hstep
    cases hown : rest.step (o.drop l.events.length) v with
    | inl r =>
        rw [hown] at hstep
        cases hstep
    | inr out =>
        rw [hown] at hstep
        obtain ⟨hrest, hw⟩ := Prod.mk.inj (Sum.inr.inj hstep)
        refine ⟨out.2, hw.symm, ?_⟩
        rw [← hrest, ← hv.run_eq]
        exact Prog.run_of_step_inr hown
  case agrees =>
    intro b
    have hb := h.agrees b
    rcases eq_or_ne b a with rfl | hne
    · rw [hinside] at hb
      simpa [Guarded.advance, Phase.Agrees] using hb
    · simpa [Guarded.advance, hne] using hb
  case linearizes => exact h.linearizes

/-- The last step of an operation has come to the end of its run. -/
theorem Follows.run_of_step (h : Follows prog o c l) (hinside : c.phase a = .inside op rest)
    (hstep : rest.step o c.world = .inl r) : ∃ w, c.world = World.since l.events w ∧
      (prog op).run (o.drop l.events.length) ⟨l.mem, []⟩ = (r, w) := by
  obtain ⟨v, hv⟩ := h.running a op rest hinside
  refine ⟨v, hv.world_eq, ?_⟩
  rw [hv.world_eq, Prog.step_since] at hstep
  rw [← hv.run_eq]
  apply Prog.run_of_step_inl
  cases hown : rest.step (o.drop l.events.length) v with
  | inl r' =>
      rw [hown] at hstep
      exact hstep
  | inr out =>
      rw [hown] at hstep
      cases hstep

/-- Giving the mutex back is where an operation takes effect. -/
theorem Follows.unlock (h : Follows prog o c l) (hinside : c.phase a = .inside op rest)
    (hstep : rest.step o c.world = .inl r) :
    Follows prog o (c.unlock a op r) (l.perform (fun x => prog x.2) o (a, op)) := by
  obtain ⟨v, hworld, hrun⟩ := h.run_of_step hinside hstep
  have hperform : l.perform (fun x => prog x.2) o (a, op) = l.append (a, op) r v :=
    Log.perform_of_run hrun
  rw [hperform]
  have hnobody : ∀ b op' p, (c.unlock a op r).phase b ≠ .inside op' p := by
    intro b op' p hb
    rcases eq_or_ne b a with rfl | hne
    · simp [Guarded.unlock] at hb
    · have hb' : c.phase b = .inside op' p := by simpa [Guarded.unlock, hne] using hb
      exact hne (h.alone hinside hb')
  constructor
  case free =>
    intro _
    rw [Log.append_events]
    exact hworld
  case holder => exact fun b op' p hb => absurd hb (hnobody b op' p)
  case inside => intro b howner; cases howner
  case running => exact fun b op' p hb => absurd hb (hnobody b op' p)
  case agrees =>
    intro b
    have hb := h.agrees b
    rw [Log.append_records, effects_concat]
    rcases eq_or_ne b a with rfl | hne
    · rw [hinside] at hb
      obtain ⟨hreturned, hcalled⟩ := hb
      simp [Guarded.unlock, Phase.Agrees, hreturned, hcalled]
    · simpa [Guarded.unlock, hne, hne.symm] using hb
  case linearizes => exact h.linearizes.effect _

end Steps

theorem Follows.turn {c' : Guarded A σ Ans Op ρ} {l' : Log σ Ans (A × Op) ρ}
    (h : Follows prog o c l) (hturned : c.Turned prog o l c' l') : Follows prog o c' l' := by
  cases hturned with
  | stayed => exact h
  | called op hidle => exact h.call hidle
  | locked hwaiting hfree => exact h.lock hwaiting hfree
  | advanced hinside hstep => exact h.advance hinside hstep
  | unlocked hinside hstep => exact h.unlock hinside hstep
  | finished hleaving => exact h.finish hleaving

/-- A turn performs one operation at most. -/
theorem Turned.perform {c' : Guarded A σ Ans Op ρ} {l' : Log σ Ans (A × Op) ρ}
    (h : c.Turned prog o l c' l') : l' = l ∨ ∃ op, l' = l.perform (fun x => prog x.2) o op := by
  cases h with
  | unlocked hinside hstep => exact .inr ⟨_, rfl⟩
  | _ => exact .inl rfl

/-- The history only grows. -/
theorem Turned.history {c' : Guarded A σ Ans Op ρ} {l' : Log σ Ans (A × Op) ρ}
    (h : c.Turned prog o l c' l') : c.history <+: c'.history := by
  cases h with
  | called op hidle => exact List.prefix_append _ _
  | finished hleaving => exact List.prefix_append _ _
  | _ => exact List.prefix_rfl

/-- So do the calls. -/
theorem Turned.events {c' : Guarded A σ Ans Op ρ} {l' : Log σ Ans (A × Op) ρ}
    (h : c.Turned prog o l c' l') : c.world.events <+: c'.world.events := by
  cases h with
  | @advanced a op rest rest' w hinside hstep =>
      cases rest with
      | ret r => cases hstep
      | get k =>
          obtain ⟨_, rfl⟩ := Prod.mk.inj (Sum.inr.inj hstep)
          exact List.prefix_rfl
      | modify f k =>
          obtain ⟨_, rfl⟩ := Prod.mk.inj (Sum.inr.inj hstep)
          exact List.prefix_rfl
      | call e k =>
          obtain ⟨_, rfl⟩ := Prod.mk.inj (Sum.inr.inj hstep)
          exact List.prefix_append _ _
  | _ => exact List.prefix_rfl

/-- The calls made so far are those of the log, and the first calls of the operation the
    holder of the mutex is in. -/
theorem Follows.events (h : Follows prog o c l) :
    c.world.events = l.events ∨ ∃ a op rest, c.phase a = .inside op rest ∧ ∃ es,
      c.world.events = l.events ++ es ∧
      es <+: ((prog op).run (o.drop l.events.length) ⟨l.mem, []⟩).2.events := by
  cases howner : c.owner with
  | none => exact .inl (by rw [h.free howner])
  | some a =>
      obtain ⟨op, rest, ha⟩ := h.inside a howner
      obtain ⟨w, hw⟩ := h.running a op rest ha
      refine .inr ⟨a, op, rest, ha, w.events, ?_, ?_⟩
      · rw [hw.world_eq]
        rfl
      · rw [← hw.run_eq]
        exact Prog.run_events _ _ _

theorem Follows.events_prefix (h : Follows prog o c l) : l.events <+: c.world.events := by
  rcases h.events with heq | ⟨a, op, rest, ha, es, heq, _⟩
  · exact heq ▸ List.prefix_rfl
  · exact heq ▸ List.prefix_append _ _

/-- Every interleaving of operations under a mutex amounts to a log of them, with an
    invariant `I` that every turn keeps. -/
theorem schedule_induction {s : σ} {I : Guarded A σ Ans Op ρ → Log σ Ans (A × Op) ρ → Prop}
    (start : I (.start s) (.start s))
    (turn : ∀ c l c' l', Follows prog o c l → I c l → c.Turned prog o l c' l' → I c' l')
    (ts : List (Turn A Op)) :
    ∃ ops, ops.length ≤ ts.length ∧
      Follows prog o (schedule prog o s ts) (exec (fun x => prog x.2) o s ops) ∧
      I (schedule prog o s ts) (exec (fun x => prog x.2) o s ops) := by
  induction ts using List.reverseRecOn with
  | nil => exact ⟨[], Nat.le_refl 0, .start s, start⟩
  | append_singleton ts t ih =>
      obtain ⟨ops, hlen, hfollows, hinv⟩ := ih
      rw [schedule_concat, List.length_append]
      obtain ⟨l', hturned⟩ := (schedule prog o s ts).turned prog o (exec _ o s ops) t
      have hfollows' := hfollows.turn hturned
      have hinv' := turn _ _ _ _ hfollows hinv hturned
      rcases hturned.perform with rfl | ⟨op, rfl⟩
      · exact ⟨ops, Nat.le_succ_of_le hlen, hfollows', hinv'⟩
      · rw [← exec_concat] at hfollows' hinv'
        refine ⟨ops ++ [op], ?_, hfollows', hinv'⟩
        rw [List.length_append]
        exact Nat.succ_le_succ hlen

/-- Every interleaving of operations under a mutex amounts to a log of them. -/
theorem follows_schedule (prog : Op → Prog σ Ans ρ) (o : Oracle Ans) (s : σ)
    (ts : List (Turn A Op)) :
    ∃ ops, Follows prog o (schedule prog o s ts) (exec (fun x => prog x.2) o s ops) := by
  obtain ⟨ops, _, hfollows, _⟩ : ∃ ops, ops.length ≤ ts.length ∧
      Follows prog o (schedule prog o s ts) (exec (fun x => prog x.2) o s ops) ∧ True :=
    schedule_induction (I := fun _ _ => True) trivial (fun _ _ _ _ _ _ _ => trivial) ts
  exact ⟨ops, hfollows⟩

end Guarded

end Interaction
