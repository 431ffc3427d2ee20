-- SUMMARY: Return codes, constants and the C structures of the Fabric Manager API, as the generated bindings declare them.
import Nvfm.Go.Basic

/-!
# Types of the Bindings

The constants of `const.go` and `const_static.go` and the structures of
`types_gen.go` that the wrappers use. A structure and its versioned twin
(`ConnectParams` and `ConnectParams_v2`) have the same layout and are one type
here.
-/

namespace Nvfm

open Go

/-! ## Return codes -/

/-- `Return`, the C enumeration `fmReturn_t` as an `int32`. C may answer any
    value of it. -/
abbrev Return := Int32

namespace Return

def SUCCESS : Return := 0
def BADPARAM : Return := -1
def GENERIC_ERROR : Return := -2
def UNINITIALIZED : Return := -4
def IN_USE : Return := -7

theorem UNINITIALIZED_ne_SUCCESS : UNINITIALIZED ≠ SUCCESS := by decide

end Return

def MAX_NUM_GPUS : ℕ := 16
def MAX_FABRIC_PARTITIONS : ℕ := 64

def ADDR_TYPE_INET : UInt32 := 1
def ADDR_TYPE_UNIX : UInt32 := 2

/-! ## Structures -/

/-- The size of a C type in bytes. Every structure below has 4-byte alignment
    and needs no padding, so its size is the sum over its fields. -/
class Sized (α : Type) where
  size : ℕ

instance : Sized UInt32 := ⟨4⟩
instance : Sized Int8 := ⟨1⟩
instance {α : Type} [Sized α] {n : ℕ} : Sized (Vector α n) := ⟨n * Sized.size α⟩

abbrev FabricPartitionId := UInt32

structure ConnectParams where
  Version : UInt32
  AddressInfo : Vector Int8 256
  TimeoutMs : UInt32
  AddressIsUnixSocket : UInt32
  AddressType : UInt32
deriving DecidableEq, Inhabited

instance : Sized ConnectParams :=
  ⟨Sized.size UInt32 + Sized.size (Vector Int8 256) + 3 * Sized.size UInt32⟩

structure PciDevice where
  Domain : UInt32
  Bus : UInt32
  Device : UInt32
  Function : UInt32
deriving DecidableEq, Inhabited

structure FabricPartitionGpuInfo where
  PhysicalId : UInt32
  Uuid : Vector Int8 80
  PciBusId : Vector Int8 32
  NumNvLinksAvailable : UInt32
  MaxNumNvLinks : UInt32
  NvlinkLineRateMBps : UInt32
deriving DecidableEq, Inhabited

instance : Sized FabricPartitionGpuInfo :=
  ⟨Sized.size UInt32 + Sized.size (Vector Int8 80) + Sized.size (Vector Int8 32) +
    3 * Sized.size UInt32⟩

structure FabricPartitionInfo where
  PartitionId : UInt32
  IsActive : UInt32
  NumGpus : UInt32
  GpuInfo : Vector FabricPartitionGpuInfo 16
deriving DecidableEq, Inhabited

instance : Sized FabricPartitionInfo :=
  ⟨3 * Sized.size UInt32 + Sized.size (Vector FabricPartitionGpuInfo 16)⟩

structure FabricPartitionList where
  Version : UInt32
  NumPartitions : UInt32
  MaxNumPartitions : UInt32
  PartitionInfo : Vector FabricPartitionInfo 64
deriving DecidableEq, Inhabited

instance : Sized FabricPartitionList :=
  ⟨3 * Sized.size UInt32 + Sized.size (Vector FabricPartitionInfo 64)⟩

structure ActivatedFabricPartitionList where
  Version : UInt32
  NumPartitions : UInt32
  PartitionIds : Vector UInt32 64
deriving DecidableEq, Inhabited

instance : Sized ActivatedFabricPartitionList :=
  ⟨2 * Sized.size UInt32 + Sized.size (Vector UInt32 64)⟩

structure NvlinkFailedDeviceInfo where
  Uuid : Vector Int8 80
  PciBusId : Vector Int8 32
  NumPorts : UInt32
  PortNum : Vector UInt32 64
deriving DecidableEq, Inhabited

instance : Sized NvlinkFailedDeviceInfo :=
  ⟨Sized.size (Vector Int8 80) + Sized.size (Vector Int8 32) + Sized.size UInt32 +
    Sized.size (Vector UInt32 64)⟩

structure NvlinkFailedDevices where
  Version : UInt32
  NumGpus : UInt32
  NumSwitches : UInt32
  GpuInfo : Vector NvlinkFailedDeviceInfo 16
  SwitchInfo : Vector NvlinkFailedDeviceInfo 12
deriving DecidableEq, Inhabited

instance : Sized NvlinkFailedDevices :=
  ⟨3 * Sized.size UInt32 + Sized.size (Vector NvlinkFailedDeviceInfo 16) +
    Sized.size (Vector NvlinkFailedDeviceInfo 12)⟩

structure UnsupportedFabricPartitionInfo where
  PartitionId : UInt32
  NumGpus : UInt32
  GpuPhysicalIds : Vector UInt32 16
deriving DecidableEq, Inhabited

instance : Sized UnsupportedFabricPartitionInfo :=
  ⟨2 * Sized.size UInt32 + Sized.size (Vector UInt32 16)⟩

structure UnsupportedFabricPartitionList where
  Version : UInt32
  NumPartitions : UInt32
  PartitionInfo : Vector UnsupportedFabricPartitionInfo 64
deriving DecidableEq, Inhabited

instance : Sized UnsupportedFabricPartitionList :=
  ⟨2 * Sized.size UInt32 + Sized.size (Vector UnsupportedFabricPartitionInfo 64)⟩

/-! ## Structure versions -/

/-- The size of the structure in the low 24 bits, its version above them. -/
def STRUCT_VERSION (α : Type) [Sized α] (version : UInt32) : UInt32 :=
  (Sized.size α).toUInt32 ||| (version <<< 24)

def ConnectParamsVersion : UInt32 := STRUCT_VERSION ConnectParams 2
def FabricPartitionListVersion : UInt32 := STRUCT_VERSION FabricPartitionList 1
def ActivatedFabricPartitionListVersion : UInt32 := STRUCT_VERSION ActivatedFabricPartitionList 1
def NvlinkFailedDevicesVersion : UInt32 := STRUCT_VERSION NvlinkFailedDevices 1
def UnsupportedFabricPartitionListVersion : UInt32 :=
  STRUCT_VERSION UnsupportedFabricPartitionList 1

end Nvfm
