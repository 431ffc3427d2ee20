-- SUMMARY: The calls the Go code makes into the runtime, the dynamic loader and libnvfm.so.
import Nvfm.Bindings.Types
import Nvfm.Interaction.Program

/-!
# Calls

Everything the packages `dl` and `nvfm` do outside Go memory is one of the calls
below: pinning the goroutine to its thread, the functions of `dlfcn.h`, and the
functions of `nv_fm_agent.h` as `nvfm.go` passes their arguments on.
-/

namespace Nvfm

open Go Interaction

inductive Call where
  | lockOSThread
  | unlockOSThread
  | dlopen (name : CharBlock) (flags : Int32)
  | dlclose (handle : Option Pointer)
  | dlsym (handle : Option Pointer) (symbol : CharBlock)
  | dlerror
  | fmLibInit
  | fmLibShutdown
  | fmConnect (params : ConnectParams)
  | fmDisconnect (handle : Option Pointer)
  | fmGetSupportedFabricPartitions (handle : Option Pointer) (partitions : FabricPartitionList)
  | fmGetUnsupportedFabricPartitions (handle : Option Pointer)
      (partitions : UnsupportedFabricPartitionList)
  | fmActivateFabricPartition (handle : Option Pointer) (id : FabricPartitionId)
  /-- `vfList` is the memory the pointer argument points to, `none` when it is nil. -/
  | fmActivateFabricPartitionWithVFs (handle : Option Pointer) (id : FabricPartitionId)
      (vfList : Option (List PciDevice)) (numVfs : UInt32)
  | fmDeactivateFabricPartition (handle : Option Pointer) (id : FabricPartitionId)
  | fmSetActivatedFabricPartitions (handle : Option Pointer) (list : ActivatedFabricPartitionList)
  | fmGetNvlinkFailedDevices (handle : Option Pointer) (devices : NvlinkFailedDevices)
deriving DecidableEq

namespace Call

variable {M : Type}

/-- The answer to a call: what it returns and what it leaves at its output
    pointers. A message of `dlerror` has the type `M`. -/
abbrev Answer (M : Type) : Call → Type
  | lockOSThread => Unit
  | unlockOSThread => Unit
  | dlopen _ _ => Option Pointer
  | dlclose _ => Int32
  | dlsym _ _ => Option Pointer
  | dlerror => Option M
  | fmLibInit => Return
  | fmLibShutdown => Return
  | fmConnect _ => Return × Option Pointer
  | fmDisconnect _ => Return
  | fmGetSupportedFabricPartitions _ _ => Return × FabricPartitionList
  | fmGetUnsupportedFabricPartitions _ _ => Return × UnsupportedFabricPartitionList
  | fmActivateFabricPartition _ _ => Return
  | fmActivateFabricPartitionWithVFs _ _ _ _ => Return
  | fmDeactivateFabricPartition _ _ => Return
  | fmSetActivatedFabricPartitions _ _ => Return
  | fmGetNvlinkFailedDevices _ _ => Return × NvlinkFailedDevices

/-- The answers of a world in which everything succeeds. -/
def succeed : (c : Call) → Answer M c
  | lockOSThread | unlockOSThread => ()
  | dlopen _ _ | dlsym _ _ => some ⟨1, by decide⟩
  | dlclose _ => (0 : Int32)
  | dlerror => none
  | fmLibInit | fmLibShutdown | fmDisconnect _ | fmActivateFabricPartition _ _
  | fmActivateFabricPartitionWithVFs _ _ _ _ | fmDeactivateFabricPartition _ _
  | fmSetActivatedFabricPartitions _ _ => Return.SUCCESS
  | fmConnect _ => (Return.SUCCESS, some ⟨1, by decide⟩)
  | fmGetSupportedFabricPartitions _ partitions => (Return.SUCCESS, partitions)
  | fmGetUnsupportedFabricPartitions _ partitions => (Return.SUCCESS, partitions)
  | fmGetNvlinkFailedDevices _ devices => (Return.SUCCESS, devices)

/-- The loader calls that can fail and then leave a message for `dlerror`. -/
def isLoader : Call → Bool
  | dlopen _ _ | dlclose _ | dlsym _ _ => true
  | _ => false

def isDlopen : Call → Bool
  | dlopen _ _ => true
  | _ => false

/-- The calls that enter `libnvfm.so`. -/
def isFm : Call → Bool
  | lockOSThread | unlockOSThread | dlopen _ _ | dlclose _ | dlsym _ _ | dlerror => false
  | _ => true

/-- The calls to the dynamic loader and to `libnvfm.so`. -/
def isOutside (c : Call) : Bool := c.isLoader || c.isFm

end Call

/-- The calls to the dynamic loader and to `libnvfm.so` among `es`, in order. -/
def outside {σ M : Type} (es : List (Event σ (Call.Answer M))) : List Call :=
  (es.map (·.call)).filter Call.isOutside

@[simp] theorem outside_nil {σ M : Type} : outside ([] : List (Event σ (Call.Answer M))) = [] := rfl

@[simp] theorem outside_append {σ M : Type} (es fs : List (Event σ (Call.Answer M))) :
    outside (es ++ fs) = outside es ++ outside fs := by
  simp [outside]

@[simp] theorem outside_cons_fm {σ M : Type} {e : Event σ (Call.Answer M)}
    {es : List (Event σ (Call.Answer M))} (hfm : e.call.isFm) :
    outside (e :: es) = e.call :: outside es := by
  simp [outside, Call.isOutside, hfm]

/-- The events of `es` that enter `libnvfm.so`. -/
def fmEvents {σ M : Type} (es : List (Event σ (Call.Answer M))) : List (Event σ (Call.Answer M)) :=
  es.filter (·.call.isFm)

theorem fmEvents_cons_of_fm {σ M : Type} {e : Event σ (Call.Answer M)}
    {es : List (Event σ (Call.Answer M))} (hfm : e.call.isFm = true) :
    fmEvents (e :: es) = e :: fmEvents es :=
  List.filter_cons_of_pos hfm

theorem fmEvents_cons_of_not_fm {σ M : Type} {e : Event σ (Call.Answer M)}
    {es : List (Event σ (Call.Answer M))} (hfm : e.call.isFm = false) :
    fmEvents (e :: es) = fmEvents es :=
  List.filter_cons_of_neg (by simp [hfm])

theorem mem_fmEvents {σ M : Type} {e : Event σ (Call.Answer M)}
    {es : List (Event σ (Call.Answer M))} : e ∈ fmEvents es ↔ e ∈ es ∧ e.call.isFm :=
  List.mem_filter

end Nvfm
