-- SUMMARY: The two operations of a Handle that take a slice, and what C reads of it.
import Nvfm.Go.Arrays
import Nvfm.Library.Handle

/-!
# Slices

`SetActivatedFabricPartitions` copies its slice into a fixed array with a count,
`ActivateFabricPartitionWithVFs` passes a pointer to its slice and a count. A
slice that is too long is refused; any other reaches C whole.
-/

namespace Nvfm

open Go Interaction Prog Return

/-! ## What C reads -/

/-- The partitions a list names: its first `NumPartitions` entries. -/
def ActivatedFabricPartitionList.requested (list : ActivatedFabricPartitionList) :
    List FabricPartitionId :=
  list.PartitionIds.toList.take list.NumPartitions.toNat

/-- The `numVfs` elements from a pointer on. There are none behind a nil pointer, and
    no more than the memory holds. -/
def readElements {α : Type} (pointer : Option (List α)) (num : UInt32) : Option (List α) :=
  match pointer with
  | none => if num = 0 then some [] else none
  | some mem => if num.toNat ≤ mem.length then some (mem.take num.toNat) else none

/-- The count of a slice that is not longer than `limit` fits into 32 bits. -/
theorem toNat_length {α : Type} {xs : List α} {limit : ℕ} (hlen : xs.length ≤ limit)
    (hlimit : limit < 2 ^ 32) : xs.length.toUInt32.toNat = xs.length :=
  UInt32.toNat_ofNat_of_lt' (Nat.lt_of_le_of_lt hlen hlimit)

namespace FabricManager

variable {σ : Type} (fm : FabricManager)

/-- The array holds the slice, and zeros after it. -/
theorem toList_PartitionIds {ids : List FabricPartitionId}
    (hlen : ids.length ≤ MAX_FABRIC_PARTITIONS) :
    (activatedList ids hlen).PartitionIds.toList =
      ids ++ List.replicate (MAX_FABRIC_PARTITIONS - ids.length) 0 := by
  have hlen64 : ids.length ≤ 64 := hlen
  have hfill := toList_fill hlen64 ids.get (Vector.replicate 64 0)
  rw [List.ofFn_get, Vector.toList_replicate, List.drop_replicate] at hfill
  exact hfill

theorem requested_activatedList {ids : List FabricPartitionId}
    (hlen : ids.length ≤ MAX_FABRIC_PARTITIONS) : (activatedList ids hlen).requested = ids := by
  have hnum : (activatedList ids hlen).NumPartitions.toNat = ids.length :=
    toNat_length hlen (by decide)
  rw [ActivatedFabricPartitionList.requested, hnum, toList_PartitionIds, List.take_left]

/-- The arguments `ActivateFabricPartitionWithVFs` passes for a slice. -/
def vfPointer (vfs : List PciDevice) : Option (List PciDevice) :=
  if vfs.length = 0 then none else some vfs

theorem readElements_vfPointer {vfs : List PciDevice} (hlen : vfs.length ≤ MAX_NUM_GPUS) :
    readElements (vfPointer vfs) vfs.length.toUInt32 = some vfs := by
  unfold vfPointer
  split
  · next hnil =>
      obtain rfl := List.eq_nil_of_length_eq_zero hnil
      rfl
  · have hnum : vfs.length.toUInt32.toNat = vfs.length := toNat_length hlen (by decide)
    simp only [readElements]
    rw [hnum, if_pos (Nat.le_refl _), List.take_length]

/-! ## The calls -/

theorem run_SetActivatedFabricPartitions (o : Oracle Answer) (s : σ)
    (ids : List FabricPartitionId) :
    (fm.SetActivatedFabricPartitions ids).run o ⟨s, []⟩ =
      if hlen : MAX_FABRIC_PARTITIONS < ids.length then (BADPARAM, ⟨s, []⟩)
      else
        let c := Call.fmSetActivatedFabricPartitions fm.handle
          (activatedList ids (Nat.le_of_not_lt hlen))
        ((o 0 c : Return), ⟨s, [⟨s, c, o 0 c⟩]⟩) := by
  unfold SetActivatedFabricPartitions
  split
  · rfl
  · rfl

theorem run_ActivateFabricPartitionWithVFs (o : Oracle Answer) (s : σ) (id : FabricPartitionId)
    (vfs : List PciDevice) :
    (fm.ActivateFabricPartitionWithVFs id vfs).run o ⟨s, []⟩ =
      if MAX_NUM_GPUS < vfs.length then (BADPARAM, ⟨s, []⟩)
      else
        let c := Call.fmActivateFabricPartitionWithVFs fm.handle id (vfPointer vfs)
          vfs.length.toUInt32
        ((o 0 c : Return), ⟨s, [⟨s, c, o 0 c⟩]⟩) := by
  unfold ActivateFabricPartitionWithVFs vfPointer
  split
  · rfl
  · split
    · next hnil =>
        rw [hnil]
        rfl
    · next hne =>
        rw [if_neg hne]
        rfl

/-- Slices of every length, whatever the C functions return: a slice is refused without
    a call when it is too long, and otherwise C reads exactly that slice; so the requests
    of two accepted slices differ when the slices do. -/
theorem slices_reach_C (o : Oracle Answer) (s : σ) :
    (∀ ids : List FabricPartitionId,
      let out := (fm.SetActivatedFabricPartitions ids).run o ⟨s, []⟩
      (MAX_FABRIC_PARTITIONS < ids.length ∧ out = (BADPARAM, ⟨s, []⟩)) ∨
      (ids.length ≤ MAX_FABRIC_PARTITIONS ∧ ∃ (list : ActivatedFabricPartitionList) (r : Return),
        out = (r, ⟨s, [⟨s, .fmSetActivatedFabricPartitions fm.handle list, r⟩]⟩) ∧
        list.NumPartitions.toNat = ids.length ∧ list.requested = ids ∧
        ∀ id ∈ list.PartitionIds.toList.drop list.NumPartitions.toNat, id = 0)) ∧
    (∀ (id : FabricPartitionId) (vfs : List PciDevice),
      let out := (fm.ActivateFabricPartitionWithVFs id vfs).run o ⟨s, []⟩
      (MAX_NUM_GPUS < vfs.length ∧ out = (BADPARAM, ⟨s, []⟩)) ∨
      (vfs.length ≤ MAX_NUM_GPUS ∧ ∃ (vfList : Option (List PciDevice)) (numVfs : UInt32) (r : Return),
        out = (r, ⟨s, [⟨s, .fmActivateFabricPartitionWithVFs fm.handle id vfList numVfs, r⟩]⟩) ∧
        numVfs.toNat = vfs.length ∧ readElements vfList numVfs = some vfs ∧
        (vfList = none → numVfs = 0))) ∧
    (∀ ids ids' : List FabricPartitionId, ids.length ≤ MAX_FABRIC_PARTITIONS →
      ids'.length ≤ MAX_FABRIC_PARTITIONS →
      ((fm.SetActivatedFabricPartitions ids).run o ⟨s, []⟩).2.events.map (·.call) =
        ((fm.SetActivatedFabricPartitions ids').run o ⟨s, []⟩).2.events.map (·.call) →
      ids = ids') ∧
    ∀ (id id' : FabricPartitionId) (vfs vfs' : List PciDevice), vfs.length ≤ MAX_NUM_GPUS →
      vfs'.length ≤ MAX_NUM_GPUS →
      ((fm.ActivateFabricPartitionWithVFs id vfs).run o ⟨s, []⟩).2.events.map (·.call) =
        ((fm.ActivateFabricPartitionWithVFs id' vfs').run o ⟨s, []⟩).2.events.map (·.call) →
      vfs = vfs' := by
  refine ⟨?_, ?_, ?_, ?_⟩
  · intro ids
    simp only [run_SetActivatedFabricPartitions]
    split
    · next hlong => exact .inl ⟨hlong, rfl⟩
    · next hlen =>
        have hle := Nat.le_of_not_lt hlen
        have hnum : (activatedList ids hle).NumPartitions.toNat = ids.length :=
          toNat_length hle (by decide)
        refine .inr ⟨hle, activatedList ids hle, _, rfl, hnum, requested_activatedList hle, ?_⟩
        intro id hid
        rw [hnum, toList_PartitionIds, List.drop_left] at hid
        exact List.eq_of_mem_replicate hid
  · intro id vfs
    simp only [run_ActivateFabricPartitionWithVFs]
    split
    · next hlong => exact .inl ⟨hlong, rfl⟩
    · next hlen =>
        have hle := Nat.le_of_not_lt hlen
        refine .inr ⟨hle, vfPointer vfs, _, _, rfl, toNat_length hle (by decide),
          readElements_vfPointer hle, ?_⟩
        intro hnil
        have hread := readElements_vfPointer hle
        rw [hnil] at hread
        by_contra hne
        simp [readElements, hne] at hread
  · intro ids ids' hle hle' heq
    rw [run_SetActivatedFabricPartitions, dif_neg (Nat.not_lt_of_le hle),
      run_SetActivatedFabricPartitions, dif_neg (Nat.not_lt_of_le hle')] at heq
    have hlist : activatedList ids hle = activatedList ids' hle' := by
      simpa using heq
    rw [← requested_activatedList hle, hlist, requested_activatedList hle']
  · intro id id' vfs vfs' hle hle' heq
    rw [run_ActivateFabricPartitionWithVFs, if_neg (Nat.not_lt_of_le hle),
      run_ActivateFabricPartitionWithVFs, if_neg (Nat.not_lt_of_le hle')] at heq
    have hargs : id = id' ∧ vfPointer vfs = vfPointer vfs' ∧
        vfs.length.toUInt32 = vfs'.length.toUInt32 := by
      simpa using heq
    have hread := readElements_vfPointer hle
    rw [hargs.2.1, hargs.2.2, readElements_vfPointer hle'] at hread
    exact (Option.some.inj hread).symm

end FabricManager

end Nvfm
