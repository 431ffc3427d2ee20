-- SUMMARY: The operations of a Handle and the one call each of them makes.
import Nvfm.Library.Connect

/-!
# Handles

`handle.go`. A handle knows its C handle only: no operation reads the library.
-/

namespace Nvfm

open Go Interaction Prog Return

namespace FabricManager

variable {σ : Type} (fm : FabricManager)

/-- `Disconnect`. -/
def Disconnect : Prog σ Answer Return :=
  invoke (Call.fmDisconnect fm.handle)

/-- `GetSupportedFabricPartitions`. -/
def GetSupportedFabricPartitions : Prog σ Answer (FabricPartitionList × Return) := do
  let partitions : FabricPartitionList := { (default : FabricPartitionList) with
    Version := FabricPartitionListVersion }
  let answer : Return × FabricPartitionList ←
    invoke (Call.fmGetSupportedFabricPartitions fm.handle partitions)
  return (answer.2, answer.1)

/-- `GetUnsupportedFabricPartitions`. -/
def GetUnsupportedFabricPartitions : Prog σ Answer (UnsupportedFabricPartitionList × Return) := do
  let partitions : UnsupportedFabricPartitionList := { (default : UnsupportedFabricPartitionList) with
    Version := UnsupportedFabricPartitionListVersion }
  let answer : Return × UnsupportedFabricPartitionList ←
    invoke (Call.fmGetUnsupportedFabricPartitions fm.handle partitions)
  return (answer.2, answer.1)

/-- `ActivateFabricPartition`. -/
def ActivateFabricPartition (id : FabricPartitionId) : Prog σ Answer Return :=
  invoke (Call.fmActivateFabricPartition fm.handle id)

/-- `ActivateFabricPartitionWithVFs`. -/
def ActivateFabricPartitionWithVFs (id : FabricPartitionId) (vfs : List PciDevice) :
    Prog σ Answer Return := do
  if MAX_NUM_GPUS < vfs.length then
    return BADPARAM
  if vfs.length = 0 then
    invoke (Call.fmActivateFabricPartitionWithVFs fm.handle id none 0)
  else
    invoke (Call.fmActivateFabricPartitionWithVFs fm.handle id (some vfs) vfs.length.toUInt32)

/-- `DeactivateFabricPartition`. -/
def DeactivateFabricPartition (id : FabricPartitionId) : Prog σ Answer Return :=
  invoke (Call.fmDeactivateFabricPartition fm.handle id)

/-- The list `SetActivatedFabricPartitions` passes on. -/
def activatedList (ids : List FabricPartitionId) (hlen : ids.length ≤ MAX_FABRIC_PARTITIONS) :
    ActivatedFabricPartitionList where
  Version := ActivatedFabricPartitionListVersion
  NumPartitions := ids.length.toUInt32
  PartitionIds := (List.finRange ids.length).foldl (fun list (i : Fin ids.length) =>
    list.set i (ids.get i) (Nat.lt_of_lt_of_le i.isLt hlen)) (Vector.replicate 64 0)

/-- `SetActivatedFabricPartitions`. -/
def SetActivatedFabricPartitions (ids : List FabricPartitionId) : Prog σ Answer Return :=
  if hlen : MAX_FABRIC_PARTITIONS < ids.length then
    return BADPARAM
  else
    invoke (Call.fmSetActivatedFabricPartitions fm.handle (activatedList ids (Nat.le_of_not_lt hlen)))

/-- `GetNvlinkFailedDevices`. -/
def GetNvlinkFailedDevices : Prog σ Answer (NvlinkFailedDevices × Return) := do
  let devices : NvlinkFailedDevices := { (default : NvlinkFailedDevices) with
    Version := NvlinkFailedDevicesVersion }
  let answer : Return × NvlinkFailedDevices ←
    invoke (Call.fmGetNvlinkFailedDevices fm.handle devices)
  return (answer.2, answer.1)

end FabricManager

/-! ## The operations together -/

inductive HandleOp where
  | Disconnect
  | GetSupportedFabricPartitions
  | GetUnsupportedFabricPartitions
  | ActivateFabricPartition (id : FabricPartitionId)
  | ActivateFabricPartitionWithVFs (id : FabricPartitionId) (vfs : List PciDevice)
  | DeactivateFabricPartition (id : FabricPartitionId)
  | SetActivatedFabricPartitions (ids : List FabricPartitionId)
  | GetNvlinkFailedDevices

/-- What an operation returns: a code, with the structure of the three that fill one. -/
inductive HandleResult where
  | plain (ret : Return)
  | supported (partitions : FabricPartitionList) (ret : Return)
  | unsupported (partitions : UnsupportedFabricPartitionList) (ret : Return)
  | failed (devices : NvlinkFailedDevices) (ret : Return)

def HandleResult.ret : HandleResult → Return
  | plain ret | supported _ ret | unsupported _ ret | failed _ ret => ret

namespace HandleOp

variable {σ : Type} (fm : FabricManager)

def prog : HandleOp → Prog σ Answer HandleResult
  | Disconnect => do return .plain (← fm.Disconnect)
  | GetSupportedFabricPartitions => do
      let answer ← fm.GetSupportedFabricPartitions
      return .supported answer.1 answer.2
  | GetUnsupportedFabricPartitions => do
      let answer ← fm.GetUnsupportedFabricPartitions
      return .unsupported answer.1 answer.2
  | ActivateFabricPartition id => do return .plain (← fm.ActivateFabricPartition id)
  | ActivateFabricPartitionWithVFs id vfs => do
      return .plain (← fm.ActivateFabricPartitionWithVFs id vfs)
  | DeactivateFabricPartition id => do return .plain (← fm.DeactivateFabricPartition id)
  | SetActivatedFabricPartitions ids => do return .plain (← fm.SetActivatedFabricPartitions ids)
  | GetNvlinkFailedDevices => do
      let answer ← fm.GetNvlinkFailedDevices
      return .failed answer.1 answer.2

/-- The one call an operation makes, none when its slice is too long. -/
def call : HandleOp → Option Call
  | Disconnect => some (.fmDisconnect fm.handle)
  | GetSupportedFabricPartitions => some (.fmGetSupportedFabricPartitions fm.handle
      { (default : FabricPartitionList) with Version := FabricPartitionListVersion })
  | GetUnsupportedFabricPartitions => some (.fmGetUnsupportedFabricPartitions fm.handle
      { (default : UnsupportedFabricPartitionList) with
        Version := UnsupportedFabricPartitionListVersion })
  | ActivateFabricPartition id => some (.fmActivateFabricPartition fm.handle id)
  | ActivateFabricPartitionWithVFs id vfs =>
      if MAX_NUM_GPUS < vfs.length then none
      else some (.fmActivateFabricPartitionWithVFs fm.handle id
        (if vfs.length = 0 then none else some vfs) vfs.length.toUInt32)
  | DeactivateFabricPartition id => some (.fmDeactivateFabricPartition fm.handle id)
  | SetActivatedFabricPartitions ids =>
      if hlen : MAX_FABRIC_PARTITIONS < ids.length then none
      else some (.fmSetActivatedFabricPartitions fm.handle
        (FabricManager.activatedList ids (Nat.le_of_not_lt hlen)))
  | GetNvlinkFailedDevices => some (.fmGetNvlinkFailedDevices fm.handle
      { (default : NvlinkFailedDevices) with Version := NvlinkFailedDevicesVersion })

/-- What an operation can return from the memory `s`. -/
inductive Outcome (s : σ) (op : HandleOp) : HandleResult → World σ Answer → Prop where
  | refused (hc : op.call fm = none) : Outcome s op (.plain BADPARAM) ⟨s, []⟩
  | called {c : Call} (hc : op.call fm = some c) (r : Answer c) (a : HandleResult) :
      Outcome s op a ⟨s, [⟨s, c, r⟩]⟩

/-- An operation that makes its call, and returns `f` of the answer. -/
theorem wp_of_call {op : HandleOp} {s : σ} {c : Call} (hc : op.call fm = some c)
    {f : Answer c → HandleResult} :
    (Prog.call c fun r => .ret (f r)).wp .recording (Outcome fm s op) ⟨s, []⟩ := by
  simp only [wp_recording_call, wp_recording_ret]
  intro r
  exact .called hc r (f r)

theorem wp_prog (op : HandleOp) (s : σ) :
    (op.prog fm).wp .recording (Outcome fm s op) ⟨s, []⟩ := by
  cases op with
  | ActivateFabricPartitionWithVFs id vfs =>
      simp only [prog, FabricManager.ActivateFabricPartitionWithVFs]
      split
      · next hlong => exact .refused (if_pos hlong)
      · next hlong =>
          split
          · next hnil =>
              apply wp_of_call
              simp [call, hnil]
          · next hne =>
              apply wp_of_call
              rw [call, if_neg hlong, if_neg hne]
  | SetActivatedFabricPartitions ids =>
      simp only [prog, FabricManager.SetActivatedFabricPartitions]
      split
      · next hlong => exact .refused (dif_pos hlong)
      · next hlong =>
          apply wp_of_call
          rw [call, dif_neg hlong]
  | Disconnect => exact wp_of_call fm rfl
  | GetSupportedFabricPartitions => exact wp_of_call fm rfl
  | GetUnsupportedFabricPartitions => exact wp_of_call fm rfl
  | ActivateFabricPartition id => exact wp_of_call fm rfl
  | DeactivateFabricPartition id => exact wp_of_call fm rfl
  | GetNvlinkFailedDevices => exact wp_of_call fm rfl

end HandleOp

end Nvfm
