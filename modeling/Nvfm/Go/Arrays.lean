-- SUMMARY: Fixed-size arrays filled by a loop over their first indices.
import Mathlib.Data.List.FinRange

/-!
# Arrays

A loop that stores one value at each of the first `m` indices of an array leaves
those values, in order, before what was there from `m` on.
-/

namespace Go

variable {α : Type} {n m : ℕ}

theorem getElem_fill (hm : m ≤ n) (f : Fin m → α) (v : Vector α n) {j : ℕ} (hj : j < n) :
    ((List.finRange m).foldl (fun (v : Vector α n) (i : Fin m) =>
      v.set i (f i) (Nat.lt_of_lt_of_le i.isLt hm)) v)[j] = if h : j < m then f ⟨j, h⟩ else v[j] := by
  induction m with
  | zero => simp
  | succ m ih =>
      rw [List.finRange_succ_last, List.foldl_append, List.foldl_map]
      simp only [List.foldl_cons, List.foldl_nil, Fin.val_last, Fin.val_castSucc]
      rcases eq_or_ne m j with rfl | hne
      · rw [Vector.getElem_set_self, dif_pos (Nat.lt_succ_self m)]
        rfl
      · rw [Vector.getElem_set_ne _ _ hne, ih (Nat.le_of_succ_le hm) fun i => f i.castSucc]
        have hiff : j < m ↔ j < m + 1 := by omega
        simp only [hiff]
        rfl

theorem toList_fill (hm : m ≤ n) (f : Fin m → α) (v : Vector α n) :
    ((List.finRange m).foldl (fun (v : Vector α n) (i : Fin m) =>
      v.set i (f i) (Nat.lt_of_lt_of_le i.isLt hm)) v).toList = List.ofFn f ++ v.toList.drop m := by
  apply List.ext_getElem
  · simp only [Vector.length_toList, List.length_append, List.length_ofFn, List.length_drop]
    omega
  · intro j hj _
    rw [Vector.length_toList] at hj
    rw [Vector.getElem_toList, getElem_fill hm f v hj]
    split
    · next h =>
        rw [List.getElem_append_left (by simpa using h), List.getElem_ofFn]
    · next h =>
        have hle : (List.ofFn f).length ≤ j := by simpa using h
        rw [List.getElem_append_right hle, List.getElem_drop, Vector.getElem_toList]
        congr 1
        rw [List.length_ofFn]
        omega

/-- The values of a list at its first `m` indices are its first `m` elements. -/
theorem ofFn_get_take (xs : List α) (hm : m ≤ xs.length) :
    List.ofFn (fun i : Fin m => xs.get ⟨i, Nat.lt_of_lt_of_le i.isLt hm⟩) = xs.take m := by
  apply List.ext_getElem
  · simp [hm]
  · intro j hj _
    simp

end Go
