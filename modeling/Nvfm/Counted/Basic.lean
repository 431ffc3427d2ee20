-- SUMMARY: A counted resource shared by clients: balances, the total, and the multiset of its holders.
import Mathlib.Data.Multiset.Filter
import Mathlib.Data.List.Induction

/-!
# Counted Resources

Clients acquire and release one resource; each request is granted or refused.
The balance of a client is what it was granted and has not given back. When
clients release only what they hold, the balances are the multiplicities in a
multiset of holders, and the total is its size.
-/

namespace Counted

inductive Request where
  | acquire
  | release
deriving DecidableEq

/-- A request of a client, and whether it was granted. -/
structure Call (C : Type) where
  client : C
  request : Request
  granted : Bool

variable {C : Type}

/-- All granted acquires, less all granted releases. -/
def total (cs : List (Call C)) : ℤ :=
  cs.countP (fun x => x.request = .acquire ∧ x.granted) -
    (cs.countP fun x => x.request = .release ∧ x.granted : ℕ)

/-- What one call adds to the total. -/
def gain (x : Call C) : ℤ :=
  if x.granted then match x.request with
    | .acquire => 1
    | .release => -1
  else 0

@[simp] theorem total_nil : total ([] : List (Call C)) = 0 := rfl

theorem total_concat (cs : List (Call C)) (x : Call C) : total (cs ++ [x]) = total cs + gain x := by
  obtain ⟨client, request, granted⟩ := x
  cases request <;> cases granted <;> simp [total, gain] <;> omega

/-- The resource itself: one request, when `n` acquires are outstanding. Only the
    first acquire and the last release may be refused. -/
inductive Step : ℕ → Request → Bool → ℕ → Prop where
  | acquired (n : ℕ) : Step n .acquire true (n + 1)
  | notAcquired : Step 0 .acquire false 0
  | released (n : ℕ) : Step (n + 1) .release true n
  | notReleased {n : ℕ} (hn : n ≤ 1) : Step n .release false n

/-- A step of the resource moves its state by the gain of the call. -/
theorem Step.eq_add_gain {n n' : ℕ} {x : Call C} (h : Step n x.request x.granted n') :
    (n' : ℤ) = n + gain x := by
  obtain ⟨client, request, granted⟩ := x
  cases h with
  | acquired => simp [gain]
  | notAcquired => simp [gain]
  | released =>
      simp only [gain, if_true]
      omega
  | notReleased hn => simp [gain]

theorem Step.le_succ {n n' : ℕ} {request : Request} {granted : Bool}
    (h : Step n request granted n') : n' ≤ n + 1 := by
  cases h with
  | acquired => exact Nat.le_refl _
  | notAcquired => exact Nat.zero_le _
  | released => exact Nat.le_add_right _ 2
  | notReleased hn => exact Nat.le_succ _

/-- A step is also one of any part of what is outstanding, with something to give back. -/
theorem Step.part {n n' m : ℕ} {request : Request} {granted : Bool} (h : Step n request granted n')
    (hle : m ≤ n) (hpos : request = .release → 0 < m) : ∃ m', Step m request granted m' := by
  cases h with
  | acquired => exact ⟨m + 1, .acquired m⟩
  | notAcquired =>
      obtain rfl := Nat.le_zero.1 hle
      exact ⟨0, .notAcquired⟩
  | released =>
      obtain ⟨m', rfl⟩ := Nat.exists_eq_succ_of_ne_zero (Nat.ne_of_gt (hpos rfl))
      exact ⟨m', .released m'⟩
  | notReleased hn => exact ⟨m, .notReleased (hle.trans hn)⟩

section Balances

variable [DecidableEq C]

/-- The acquires granted to `c`, less the releases granted to it. -/
def balance (c : C) (cs : List (Call C)) : ℤ :=
  cs.countP (fun x => x.client = c ∧ x.request = .acquire ∧ x.granted) -
    (cs.countP fun x => x.client = c ∧ x.request = .release ∧ x.granted : ℕ)

@[simp] theorem balance_nil (c : C) : balance c [] = 0 := rfl

theorem balance_concat (c : C) (cs : List (Call C)) (x : Call C) :
    balance c (cs ++ [x]) = balance c cs + if x.client = c then gain x else 0 := by
  obtain ⟨client, request, granted⟩ := x
  by_cases hc : client = c <;> cases request <;> cases granted <;>
    simp [balance, gain, hc] <;> omega

/-! ## Disciplined clients -/

/-- After the calls `past`, no client releases more than it holds. -/
def DisciplinedFrom (past : List (Call C)) : List (Call C) → Prop
  | [] => True
  | x :: cs =>
      (x.request = .release → 0 < balance x.client past) ∧ DisciplinedFrom (past ++ [x]) cs

/-- No client releases more than it holds. -/
def Disciplined (cs : List (Call C)) : Prop := DisciplinedFrom [] cs

instance DisciplinedFrom.decidable (past : List (Call C)) :
    (cs : List (Call C)) → Decidable (DisciplinedFrom past cs)
  | [] => inferInstanceAs (Decidable True)
  | x :: cs =>
      have := DisciplinedFrom.decidable (past ++ [x]) cs
      inferInstanceAs (Decidable (_ ∧ _))

instance (cs : List (Call C)) : Decidable (Disciplined cs) :=
  inferInstanceAs (Decidable (DisciplinedFrom [] cs))

private theorem disciplinedFrom_concat (past cs : List (Call C)) (x : Call C) :
    DisciplinedFrom past (cs ++ [x]) ↔
      DisciplinedFrom past cs ∧ (x.request = .release → 0 < balance x.client (past ++ cs)) := by
  induction cs generalizing past with
  | nil => simp [DisciplinedFrom]
  | cons y cs ih => simp [DisciplinedFrom, ih, and_assoc]

theorem disciplined_concat {cs : List (Call C)} {x : Call C} :
    Disciplined (cs ++ [x]) ↔
      Disciplined cs ∧ (x.request = .release → 0 < balance x.client cs) := by
  simpa [Disciplined] using disciplinedFrom_concat [] cs x

/-! ## Holders -/

/-- The holders after one more call. -/
def hold (s : Multiset C) (x : Call C) : Multiset C :=
  if x.granted then match x.request with
    | .acquire => x.client ::ₘ s
    | .release => s.erase x.client
  else s

/-- The clients that hold the resource, once for each acquire they have not
    released. -/
def holders (cs : List (Call C)) : Multiset C := cs.foldl hold 0

@[simp] theorem holders_concat (cs : List (Call C)) (x : Call C) :
    holders (cs ++ [x]) = hold (holders cs) x := by
  simp [holders]

/-- The balance of a disciplined client is its multiplicity among the holders. -/
theorem count_holders {cs : List (Call C)} (hd : Disciplined cs) (c : C) :
    ((holders cs).count c : ℤ) = balance c cs := by
  induction cs using List.reverseRecOn with
  | nil => rfl
  | append_singleton cs x ih =>
      rw [disciplined_concat] at hd
      have hcount := ih hd.1
      rw [holders_concat, balance_concat, ← hcount]
      obtain ⟨client, request, granted⟩ := x
      cases granted with
      | false => simp [hold, gain]
      | true =>
          by_cases hc : client = c
          · subst hc
            cases request with
            | acquire => simp [hold, gain]
            | release =>
                -- The client holds the resource, so erasing it takes one away.
                have hpos : 0 < balance client cs := hd.2 rfl
                simp only [hold, gain, if_true, Multiset.count_erase_self]
                omega
          · cases request with
            | acquire => simp [hold, hc, Multiset.count_cons_of_ne (Ne.symm hc)]
            | release => simp [hold, hc, Multiset.count_erase_of_ne (Ne.symm hc)]

/-- With disciplined clients the total is the number of holders. -/
theorem card_holders {cs : List (Call C)} (hd : Disciplined cs) :
    ((holders cs).card : ℤ) = total cs := by
  induction cs using List.reverseRecOn with
  | nil => rfl
  | append_singleton cs x ih =>
      have hd' := disciplined_concat.1 hd
      rw [holders_concat, total_concat, ← ih hd'.1]
      obtain ⟨client, request, granted⟩ := x
      cases granted with
      | false => simp [hold, gain]
      | true =>
          cases request with
          | acquire => simp [hold, gain]
          | release =>
              have hpos : 0 < balance client cs := hd'.2 rfl
              rw [← count_holders hd'.1] at hpos
              have hmem : client ∈ holders cs := Multiset.count_pos.1 (by omega)
              have hcard : 0 < (holders cs).card := Multiset.card_pos_iff_exists_mem.2 ⟨_, hmem⟩
              simp only [hold, gain, if_true, Multiset.card_erase_of_mem hmem, Nat.pred_eq_sub_one]
              omega

/-- No client holds more than the total. -/
theorem balance_le_total {cs : List (Call C)} (hd : Disciplined cs) (c : C) :
    balance c cs ≤ total cs := by
  rw [← count_holders hd, ← card_holders hd]
  exact_mod_cast Multiset.count_le_card c _

/-- Two clients together hold no more than the total. -/
theorem balance_add_le_total {cs : List (Call C)} (hd : Disciplined cs) {c d : C} (hne : c ≠ d) :
    balance c cs + balance d cs ≤ total cs := by
  rw [← count_holders hd, ← count_holders hd, ← card_holders hd]
  have hd' : (holders cs).count d ≤ ((holders cs).filter (· ≠ c)).card := by
    rw [← Multiset.count_filter_of_pos (p := (· ≠ c)) hne.symm]
    exact Multiset.count_le_card d _
  have hsplit : (holders cs).count c + ((holders cs).filter (· ≠ c)).card = (holders cs).card := by
    rw [Multiset.count_eq_card_filter_eq, ← Multiset.card_add]
    congr 1
    simpa [eq_comm] using Multiset.filter_add_not (c = ·) (holders cs)
  exact_mod_cast (by omega : (holders cs).count c + (holders cs).count d ≤ (holders cs).card)

end Balances

end Counted
