-- SUMMARY: The layouts and versions of the structures in nv_fm_types.h, and what the headers ask of the arguments of a call.
import Nvfm.Bindings.Calls

/-!
# The C Headers

`nv_fm_types.h` gives each structure a version that holds its `sizeof`, which the
library compares with the version it is called with. The Go package computes the
same numbers from structures of its own.
-/

namespace Nvfm

/-! ## Layouts -/

/-- A C type, as far as its layout goes. A scalar is aligned at its size. -/
inductive CType where
  | scalar (bytes : ℕ)
  | array (elem : CType) (n : ℕ)
  | struct (fields : List CType)

namespace CType

mutual
def align : CType → ℕ
  | scalar bytes => bytes
  | array elem _ => elem.align
  | struct fields => alignAll fields

/-- The strictest alignment of the fields of a structure. -/
def alignAll : List CType → ℕ
  | [] => 1
  | t :: ts => max t.align (alignAll ts)
end

/-- The first multiple of `align` from `offset` on. -/
def roundUp (offset align : ℕ) : ℕ := (offset + align - 1) / align * align

mutual
/-- `sizeof`: a structure is padded up to its alignment. -/
def sizeof : CType → ℕ
  | scalar bytes => bytes
  | array elem n => n * elem.sizeof
  | struct fields => roundUp (endOf 0 fields) (alignAll fields)

/-- Where fields end that are placed from `offset` on, each at its alignment. -/
def endOf (offset : ℕ) : List CType → ℕ
  | [] => offset
  | t :: ts => endOf (roundUp offset t.align + t.sizeof) ts
end

def char : CType := scalar 1
def unsignedInt : CType := scalar 4

/-- An enumeration without negative values. -/
def enum : CType := unsignedInt

end CType

/-! ## Structures -/

section Structures

open CType

def FM_MAX_STR_LENGTH : ℕ := 256
def FM_UUID_BUFFER_SIZE : ℕ := 80
def FM_DEVICE_PCI_BUS_ID_BUFFER_SIZE : ℕ := 32
def FM_MAX_NUM_GPUS : ℕ := 16
def FM_MAX_NUM_NVSWITCHES : ℕ := 12
def FM_MAX_FABRIC_PARTITIONS : ℕ := 64
def FM_MAX_NUM_NVLINK_PORTS : ℕ := 64

def fmFabricPartitionId_t : CType := unsignedInt

/-- `version`, `addressInfo`, `timeoutMs`, `addressIsUnixSocket` and `addressType`. -/
def fmConnectParams_v2 : CType :=
  struct [unsignedInt, array char FM_MAX_STR_LENGTH, unsignedInt, unsignedInt, enum]

/-- `physicalId`, `uuid`, `pciBusId`, `numNvLinksAvailable`, `maxNumNvLinks` and
    `nvlinkLineRateMBps`. -/
def fmFabricPartitionGpuInfo_t : CType :=
  struct [unsignedInt, array char FM_UUID_BUFFER_SIZE, array char FM_DEVICE_PCI_BUS_ID_BUFFER_SIZE,
    unsignedInt, unsignedInt, unsignedInt]

/-- `partitionId`, `isActive`, `numGpus` and `gpuInfo`. -/
def fmFabricPartitionInfo_t : CType :=
  struct [fmFabricPartitionId_t, unsignedInt, unsignedInt, array fmFabricPartitionGpuInfo_t FM_MAX_NUM_GPUS]

/-- `version`, `numPartitions`, `maxNumPartitions` and `partitionInfo`. -/
def fmFabricPartitionList_v2 : CType :=
  struct [unsignedInt, unsignedInt, unsignedInt, array fmFabricPartitionInfo_t FM_MAX_FABRIC_PARTITIONS]

/-- `version`, `numPartitions` and `partitionIds`. -/
def fmActivatedFabricPartitionList_v1 : CType :=
  struct [unsignedInt, unsignedInt, array fmFabricPartitionId_t FM_MAX_FABRIC_PARTITIONS]

/-- `uuid`, `pciBusId`, `numPorts` and `portNum`. -/
def fmNvlinkFailedDeviceInfo_t : CType :=
  struct [array char FM_UUID_BUFFER_SIZE, array char FM_DEVICE_PCI_BUS_ID_BUFFER_SIZE, unsignedInt,
    array unsignedInt FM_MAX_NUM_NVLINK_PORTS]

/-- `version`, `numGpus`, `numSwitches`, `gpuInfo` and `switchInfo`. -/
def fmNvlinkFailedDevices_v1 : CType :=
  struct [unsignedInt, unsignedInt, unsignedInt, array fmNvlinkFailedDeviceInfo_t FM_MAX_NUM_GPUS,
    array fmNvlinkFailedDeviceInfo_t FM_MAX_NUM_NVSWITCHES]

/-- `partitionId`, `numGpus` and `gpuPhysicalIds`. -/
def fmUnsupportedFabricPartitionInfo_t : CType :=
  struct [fmFabricPartitionId_t, unsignedInt, array unsignedInt FM_MAX_NUM_GPUS]

/-- `version`, `numPartitions` and `partitionInfo`. -/
def fmUnsupportedFabricPartitionList_v1 : CType :=
  struct [unsignedInt, unsignedInt, array fmUnsupportedFabricPartitionInfo_t FM_MAX_FABRIC_PARTITIONS]

end Structures

/-! ## Versions -/

def MAKE_FM_PARAM_VERSION (typeName : CType) (ver : ℕ) : UInt32 :=
  (typeName.sizeof ||| ver <<< 24).toUInt32

def fmConnectParams_version : UInt32 := MAKE_FM_PARAM_VERSION fmConnectParams_v2 2
def fmFabricPartitionList_version : UInt32 := MAKE_FM_PARAM_VERSION fmFabricPartitionList_v2 1
def fmActivatedFabricPartitionList_version : UInt32 :=
  MAKE_FM_PARAM_VERSION fmActivatedFabricPartitionList_v1 1
def fmNvlinkFailedDevices_version : UInt32 := MAKE_FM_PARAM_VERSION fmNvlinkFailedDevices_v1 1
def fmUnsupportedFabricPartitionList_version : UInt32 :=
  MAKE_FM_PARAM_VERSION fmUnsupportedFabricPartitionList_v1 1

theorem ConnectParamsVersion_eq : ConnectParamsVersion = fmConnectParams_version := by decide

theorem FabricPartitionListVersion_eq :
    FabricPartitionListVersion = fmFabricPartitionList_version := by decide

theorem ActivatedFabricPartitionListVersion_eq :
    ActivatedFabricPartitionListVersion = fmActivatedFabricPartitionList_version := by decide

theorem NvlinkFailedDevicesVersion_eq :
    NvlinkFailedDevicesVersion = fmNvlinkFailedDevices_version := by decide

theorem UnsupportedFabricPartitionListVersion_eq :
    UnsupportedFabricPartitionListVersion = fmUnsupportedFabricPartitionList_version := by decide

/-! ## Arguments -/

/-- `enum nvFmApiAddrTypes`, without the value for an unknown address. -/
def addrTypes : List UInt32 := [ADDR_TYPE_INET, ADDR_TYPE_UNIX, 3]

/-- Connection parameters as the header describes them: the text of the address ends
    inside its field, and the deprecated flag agrees with the type of the address. -/
structure ConnectParams.WellFormed (params : ConnectParams) : Prop where
  version : params.Version = fmConnectParams_version
  terminated : 0 ∈ params.AddressInfo.toList
  addressType : params.AddressType ∈ addrTypes
  unixSocket : params.AddressIsUnixSocket = if params.AddressType = ADDR_TYPE_UNIX then 1 else 0

/-- What the headers ask of the arguments of a call: the version of each structure, and
    counts that are those of the elements and within the limits. -/
def Call.WellFormed : Call → Prop
  | fmConnect params => params.WellFormed
  | fmGetSupportedFabricPartitions _ partitions =>
      partitions.Version = fmFabricPartitionList_version
  | fmGetUnsupportedFabricPartitions _ partitions =>
      partitions.Version = fmUnsupportedFabricPartitionList_version
  | fmActivateFabricPartitionWithVFs _ _ vfList numVfs =>
      numVfs.toNat = (vfList.getD []).length ∧ numVfs.toNat ≤ FM_MAX_NUM_GPUS ∧
        (vfList = none ↔ numVfs = 0)
  | fmSetActivatedFabricPartitions _ list =>
      list.Version = fmActivatedFabricPartitionList_version ∧
        list.NumPartitions.toNat ≤ FM_MAX_FABRIC_PARTITIONS
  | fmGetNvlinkFailedDevices _ devices => devices.Version = fmNvlinkFailedDevices_version
  | _ => True

end Nvfm
