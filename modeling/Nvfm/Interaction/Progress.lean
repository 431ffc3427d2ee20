-- SUMMARY: Callers under a mutex that make no new calls: every fair schedule brings all their operations to an end.
import Mathlib.Algebra.Order.BigOperators.Group.Finset
import Mathlib.Data.Set.Finite.Basic
import Nvfm.Interaction.Mutex

/-!
# Progress under a Mutex

The callers go on with the operations they are in, and call nothing new. Each caller
waits, runs its program, gives the mutex back and returns, and no turn takes it back a
phase. When every caller that is in an operation gets a turn again and again, all of
them return.
-/

namespace Interaction

variable {A σ E : Type} {Ans : E → Type} {Op ρ : Type}

/-- How many phases a caller has before its operation returns. -/
def Phase.weight : Phase σ Ans Op ρ → ℕ
  | .idle => 0
  | .leaving _ _ => 1
  | .inside _ _ => 2
  | .waiting _ => 3

theorem Phase.weight_eq_zero {p : Phase σ Ans Op ρ} : p.weight = 0 ↔ p = .idle := by
  cases p <;> simp [weight]

namespace Guarded

variable [DecidableEq A] {prog : Op → Prog σ Ans ρ} {o : Oracle Ans}
  {c : Guarded A σ Ans Op ρ} {l : Log σ Ans (A × Op) ρ}

/-! ## One turn -/

section Turns

variable {a b : A} {op : Op} {rest : Prog σ Ans ρ}

/-- A turn of another caller leaves a caller where it is. -/
theorem phase_go_of_ne (hne : b ≠ a) : (c.turn prog o (.go a)).phase b = c.phase b := by
  simp only [turn]
  split
  · rfl
  · split
    · simp [lock, hne]
    · rfl
  · split
    · simp [unlock, hne]
    · simp [advance, hne]
  · simp [finish, hne]

theorem phase_call_of_ne (hne : b ≠ a) : (c.turn prog o (.call a op)).phase b = c.phase b := by
  simp only [turn]
  split
  · simp [call, hne]
  · rfl

theorem phase_go_of_idle (h : c.phase a = .idle) : (c.turn prog o (.go a)).phase a = .idle := by
  simp only [turn, h]

theorem phase_go_of_leaving {r : ρ} (h : c.phase a = .leaving op r) :
    (c.turn prog o (.go a)).phase a = .idle := by
  simp [turn, h, finish]

theorem phase_go_of_waiting (h : c.phase a = .waiting op) (hfree : c.owner = none) :
    (c.turn prog o (.go a)).phase a = .inside op (prog op) := by
  simp [turn, h, hfree, lock]

theorem phase_go_of_taken (h : c.phase a = .waiting op) (hheld : c.owner ≠ none) :
    (c.turn prog o (.go a)).phase a = .waiting op := by
  obtain ⟨b, hb⟩ := Option.ne_none_iff_exists'.1 hheld
  simp [turn, h, hb]

theorem phase_go_of_result {r : ρ} (h : c.phase a = .inside op rest)
    (hstep : rest.step o c.world = .inl r) :
    (c.turn prog o (.go a)).phase a = .leaving op r := by
  simp [turn, h, hstep, unlock]

theorem phase_go_of_step {rest' : Prog σ Ans ρ} {w : World σ Ans} (h : c.phase a = .inside op rest)
    (hstep : rest.step o c.world = .inr (rest', w)) :
    (c.turn prog o (.go a)).phase a = .inside op rest' := by
  simp [turn, h, hstep, advance]

/-- No turn takes a caller back a phase. -/
theorem weight_go_le (a b : A) : ((c.turn prog o (.go a)).phase b).weight ≤ (c.phase b).weight := by
  rcases eq_or_ne b a with rfl | hne
  · cases hphase : c.phase b with
    | idle => rw [phase_go_of_idle hphase]
    | waiting op =>
        by_cases hfree : c.owner = none
        · rw [phase_go_of_waiting hphase hfree]
          exact Nat.le_succ 2
        · rw [phase_go_of_taken hphase hfree]
    | inside op rest =>
        cases hstep : rest.step o c.world with
        | inl r =>
            rw [phase_go_of_result hphase hstep]
            exact Nat.le_succ 1
        | inr next => rw [phase_go_of_step hphase hstep, Phase.weight, Phase.weight]
    | leaving op r =>
        rw [phase_go_of_leaving hphase]
        exact Nat.zero_le _
  · rw [phase_go_of_ne hne]

end Turns

/-! ## Fair schedules -/

/-- The callers go on with the operations they are in, in the order `turns`. -/
def play (prog : Op → Prog σ Ans ρ) (o : Oracle Ans) (c : Guarded A σ Ans Op ρ) (turns : ℕ → A) :
    ℕ → Guarded A σ Ans Op ρ
  | 0 => c
  | n + 1 => (play prog o c turns n).turn prog o (.go (turns n))

section Play

variable {turns : ℕ → A} {n m : ℕ}

theorem Follows.play (h : Follows prog o c l) (turns : ℕ → A) (n : ℕ) :
    ∃ l, Follows prog o (c.play prog o turns n) l := by
  induction n with
  | zero => exact ⟨l, h⟩
  | succ n ih =>
      obtain ⟨l, h⟩ := ih
      obtain ⟨l', hturned⟩ := (c.play prog o turns n).turned prog o l (.go (turns n))
      exact ⟨l', h.turn hturned⟩

theorem weight_play_le (a : A) (h : n ≤ m) :
    ((c.play prog o turns m).phase a).weight ≤ ((c.play prog o turns n).phase a).weight := by
  induction m, h using Nat.le_induction with
  | base => exact Nat.le_refl _
  | succ m _ ih => exact (weight_go_le (turns m) a).trans ih

/-- A caller stays where it is until its turn. -/
theorem phase_play_of_no_turn {a : A} (h : n ≤ m) (hturns : ∀ k, n ≤ k → k < m → turns k ≠ a) :
    (c.play prog o turns m).phase a = (c.play prog o turns n).phase a := by
  induction m, h using Nat.le_induction with
  | base => rfl
  | succ m hm ih =>
      have hne : a ≠ turns m := (hturns m hm (Nat.lt_succ_self m)).symm
      rw [play, phase_go_of_ne hne]
      exact ih fun k hk hlt => hturns k hk (Nat.lt_succ_of_lt hlt)

/-- The next turn of a caller that gets turns again and again, and where it is then. -/
theorem exists_turn {a : A} (hfair : ∀ n, ∃ m, n ≤ m ∧ turns m = a) (n : ℕ) :
    ∃ m, n ≤ m ∧ turns m = a ∧ (c.play prog o turns m).phase a = (c.play prog o turns n).phase a := by
  classical
  have hnext := hfair n
  obtain ⟨hle, hturn⟩ := Nat.find_spec hnext
  refine ⟨Nat.find hnext, hle, hturn, phase_play_of_no_turn hle ?_⟩
  intro k hk hlt heq
  exact Nat.find_min hnext hlt ⟨hk, heq⟩

/-- The next turn of a caller that is inside is the next step of its program. -/
theorem exists_step {a : A} (hfair : ∀ n, ∃ m, n ≤ m ∧ turns m = a) {op : Op} {rest : Prog σ Ans ρ}
    (h : (c.play prog o turns n).phase a = .inside op rest) :
    ∃ m, n ≤ m ∧
      (∀ r, rest.step o (c.play prog o turns m).world = .inl r →
        (c.play prog o turns (m + 1)).phase a = .leaving op r) ∧
      ∀ rest' w, rest.step o (c.play prog o turns m).world = .inr (rest', w) →
        (c.play prog o turns (m + 1)).phase a = .inside op rest' := by
  obtain ⟨m, hm, rfl, hphase⟩ := exists_turn (c := c) (o := o) hfair n
  rw [h] at hphase
  refine ⟨m, hm, ?_, ?_⟩
  · exact fun r hstep => phase_go_of_result hphase hstep
  · exact fun rest' w hstep => phase_go_of_step hphase hstep

/-- A caller that is inside gives the mutex back: every step leaves it a part of its program. -/
theorem leaves_of_inside {a : A} (hfair : ∀ n, ∃ m, n ≤ m ∧ turns m = a) {op : Op}
    {rest : Prog σ Ans ρ} (h : (c.play prog o turns n).phase a = .inside op rest) :
    ∃ m, n ≤ m ∧ ((c.play prog o turns m).phase a).weight < 2 := by
  induction rest generalizing n with
  | ret r =>
      obtain ⟨m, hm, hresult, _⟩ := exists_step hfair h
      refine ⟨m + 1, Nat.le_succ_of_le hm, ?_⟩
      rw [hresult r rfl]
      exact Nat.lt_succ_self 1
  | get k ih =>
      obtain ⟨m, hm, _, hstep⟩ := exists_step hfair h
      obtain ⟨m', hm', hlt⟩ := ih _ (hstep _ _ rfl)
      exact ⟨m', (Nat.le_succ_of_le hm).trans hm', hlt⟩
  | modify f k ih =>
      obtain ⟨m, hm, _, hstep⟩ := exists_step hfair h
      obtain ⟨m', hm', hlt⟩ := ih (hstep _ _ rfl)
      exact ⟨m', (Nat.le_succ_of_le hm).trans hm', hlt⟩
  | call e k ih =>
      obtain ⟨m, hm, _, hstep⟩ := exists_step hfair h
      obtain ⟨m', hm', hlt⟩ := ih _ (hstep _ _ rfl)
      exact ⟨m', (Nat.le_succ_of_le hm).trans hm', hlt⟩

/-- A caller that has returned stays so. -/
theorem idle_play {a : A} (hidle : (c.play prog o turns n).phase a = .idle) (h : n ≤ m) :
    (c.play prog o turns m).phase a = .idle := by
  have hle : ((c.play prog o turns m).phase a).weight ≤ ((c.play prog o turns n).phase a).weight :=
    weight_play_le a h
  rw [hidle] at hle
  exact Phase.weight_eq_zero.1 (Nat.le_zero.1 hle)

/-- A caller that is in an operation was in it from the start. -/
theorem active_of_play {a : A} (h : (c.play prog o turns n).phase a ≠ .idle) : c.phase a ≠ .idle :=
  fun hidle => h (idle_play (n := 0) hidle (Nat.zero_le n))

/-- Some caller goes on to its next phase, as long as any of them is in an operation: the
    holder of the mutex gives it back, and a free mutex is taken. -/
theorem Follows.exists_weight_lt (h : Follows prog o c l)
    (hfair : ∀ a, c.phase a ≠ .idle → ∀ n, ∃ m, n ≤ m ∧ turns m = a) {a : A}
    (ha : (c.play prog o turns n).phase a ≠ .idle) :
    ∃ b m, n ≤ m ∧ ((c.play prog o turns m).phase b).weight <
      ((c.play prog o turns n).phase b).weight := by
  have hfair' := hfair a (active_of_play ha)
  cases hphase : (c.play prog o turns n).phase a with
  | idle => exact absurd hphase ha
  | leaving op r =>
      obtain ⟨m, hm, rfl, hsame⟩ := exists_turn (c := c) (o := o) hfair' n
      refine ⟨turns m, m + 1, Nat.le_succ_of_le hm, ?_⟩
      rw [Guarded.play, phase_go_of_leaving (hsame.trans hphase), hphase]
      exact Nat.zero_lt_one
  | inside op rest =>
      obtain ⟨m, hm, hlt⟩ := leaves_of_inside hfair' hphase
      refine ⟨a, m, hm, ?_⟩
      rw [hphase]
      exact hlt
  | waiting op =>
      obtain ⟨m, hm, rfl, hsame⟩ := exists_turn (c := c) (o := o) hfair' n
      obtain ⟨l', hfollows⟩ := h.play turns m
      cases howner : (c.play prog o turns m).owner with
      | none =>
          refine ⟨turns m, m + 1, Nat.le_succ_of_le hm, ?_⟩
          rw [Guarded.play, phase_go_of_waiting (hsame.trans hphase) howner, hphase]
          exact Nat.lt_succ_self 2
      | some b =>
          -- The mutex is taken, but its holder will give it back.
          obtain ⟨op', rest, hb⟩ := hfollows.inside b howner
          have hactive : (c.play prog o turns m).phase b ≠ .idle := by
            intro hidle
            cases hb.symm.trans hidle
          obtain ⟨m', hm', hlt⟩ := leaves_of_inside (hfair b (active_of_play hactive)) hb
          have hle : ((c.play prog o turns m).phase b).weight ≤
              ((c.play prog o turns n).phase b).weight := weight_play_le b hm
          rw [hb] at hle
          exact ⟨b, m', hm.trans hm', hlt.trans_le hle⟩

/-- In every fair schedule without new calls, all operations return. -/
theorem Follows.eventually_idle (h : Follows prog o c l) (hfin : {a | c.phase a ≠ .idle}.Finite)
    (hfair : ∀ a, c.phase a ≠ .idle → ∀ n, ∃ m, n ≤ m ∧ turns m = a) :
    ∃ n, ∀ m, n ≤ m → ∀ a, (c.play prog o turns m).phase a = .idle := by
  obtain ⟨active, hactive⟩ := hfin.exists_finset
  -- The phases left to the callers that are in an operation at the start.
  generalize hleft : (fun n => ∑ a ∈ active, ((c.play prog o turns n).phase a).weight) = left
  suffices hdone : ∀ k n, left n = k →
      ∃ n, ∀ m, n ≤ m → ∀ a, (c.play prog o turns m).phase a = .idle from hdone _ 0 rfl
  intro k
  induction k using Nat.strong_induction_on with
  | _ k ih =>
      rintro n rfl
      by_cases hidle : ∀ a, (c.play prog o turns n).phase a = .idle
      · exact ⟨n, fun m hm a => idle_play (hidle a) hm⟩
      · obtain ⟨a, ha⟩ := not_forall.1 hidle
        obtain ⟨b, m, hm, hlt⟩ := h.exists_weight_lt hfair ha
        have hinside : (c.play prog o turns n).phase b ≠ .idle := by
          intro hzero
          rw [hzero] at hlt
          exact Nat.not_lt_zero _ hlt
        have hb : b ∈ active := (hactive b).2 (active_of_play hinside)
        refine ih (left m) ?_ m rfl
        rw [← hleft]
        exact Finset.sum_lt_sum (fun a _ => weight_play_le a hm) ⟨b, hb, hlt⟩

end Play

/-- A schedule leaves only the callers it names in an operation. -/
theorem finite_active (prog : Op → Prog σ Ans ρ) (o : Oracle Ans) (s : σ) (ts : List (Turn A Op)) :
    {a | (schedule prog o s ts).phase a ≠ .idle}.Finite := by
  induction ts using List.reverseRecOn with
  | nil =>
      refine Set.finite_empty.subset ?_
      intro a ha
      exact absurd rfl ha
  | append_singleton ts t ih =>
      rw [schedule_concat]
      cases t with
      | call b op =>
          refine (ih.insert b).subset ?_
          intro a ha
          rcases eq_or_ne a b with rfl | hne
          · exact .inl rfl
          · exact .inr fun hidle => ha ((phase_call_of_ne hne).trans hidle)
      | go b =>
          refine ih.subset ?_
          intro a ha hidle
          have hle : (((schedule prog o s ts).turn prog o (.go b)).phase a).weight ≤
              ((schedule prog o s ts).phase a).weight := weight_go_le b a
          rw [hidle] at hle
          exact ha (Phase.weight_eq_zero.1 (Nat.le_zero.1 hle))

end Guarded

end Interaction
