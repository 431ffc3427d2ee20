-- SUMMARY: sort.Slice as any function that sorts, and the uniqueness of its result for distinct keys.
import Nvfm.Go.Basic
import Mathlib.Data.List.Sort

/-!
# Sorting

`sort.Slice` promises a permutation in the order of its comparison, and nothing
about elements that compare equal. When the keys are distinct the promise leaves
one result only, whatever the order the elements came in.
-/

namespace Go

variable {α β : Type}

/-- A function that sorts as `sort.Slice` does with the comparison of the keys. -/
structure SortSlice (key : α → GoString) where
  sort : List α → List α
  perm : ∀ xs, (sort xs).Perm xs
  sorted : ∀ xs, (sort xs).Pairwise fun a b => ¬ key b < key a

namespace SortSlice

variable {key : α → GoString}

/-- Distinct keys come out in strictly increasing order. -/
theorem pairwise_lt (S : SortSlice key) {xs : List α} (hnodup : (xs.map key).Nodup) :
    (S.sort xs).Pairwise fun a b => key a < key b := by
  have hdistinct : (S.sort xs).Pairwise fun a b => key a ≠ key b := by
    rw [← List.pairwise_map (R := (· ≠ ·))]
    exact ((S.perm xs).map key).nodup_iff.2 hnodup
  refine ((S.sorted xs).and hdistinct).imp ?_
  rintro a b ⟨hle, hne⟩
  by_contra hlt
  exact hne (List.le_antisymm hle hlt)

/-- Two sorts of the same elements, up to what `f` forgets, agree up to that. -/
theorem map_sort_eq (S T : SortSlice key) {f : α → β} {k : β → GoString} (hk : ∀ a, k (f a) = key a)
    {xs ys : List α} (hperm : (xs.map f).Perm (ys.map f)) (hnodup : (xs.map key).Nodup) :
    (S.sort xs).map f = (T.sort ys).map f := by
  have hkeys : ∀ zs : List α, zs.map key = (zs.map f).map k := by
    intro zs
    rw [List.map_map]
    exact List.map_congr_left fun a _ => (hk a).symm
  have hnodup' : (ys.map key).Nodup := by
    rw [hkeys] at hnodup ⊢
    exact (hperm.map k).nodup_iff.1 hnodup
  have hlt : ∀ (U : SortSlice key) (zs : List α), (zs.map key).Nodup →
      ((U.sort zs).map f).Pairwise fun b c => k b < k c := by
    intro U zs hzs
    rw [List.pairwise_map]
    simpa only [hk] using U.pairwise_lt hzs
  refine List.Perm.eq_of_pairwise ?_ (hlt S xs hnodup) (hlt T ys hnodup') ?_
  · intro b c _ _ hbc hcb
    exact absurd hcb (List.lt_asymm hbc)
  · exact ((S.perm xs).map f).trans (hperm.trans ((T.perm ys).map f).symm)

/-- Sorting by insertion. -/
def insertion (key : α → GoString) : SortSlice key where
  sort xs := xs.insertionSort fun a b => key a ≤ key b
  perm xs := List.perm_insertionSort _ xs
  sorted xs := by
    have htotal : Std.Total fun a b : α => key a ≤ key b := ⟨fun a b => List.le_total ..⟩
    have htrans : IsTrans α fun a b => key a ≤ key b := ⟨fun a b c => List.le_trans⟩
    exact List.pairwise_insertionSort _ xs

end SortSlice

end Go
