-- SUMMARY: Connect: its options, the parameters they build and the call it makes.
import Nvfm.Library.Basic
import Mathlib.Data.List.FinRange

/-!
# Connect

`connect.go`, and the string fields of `cgo_helpers_static.go`. Neither `Connect`
nor `ConnectWithParams` reads the library it is called on.
-/

namespace Nvfm

open Go Interaction Prog Return

def defaultAddress : GoString := ascii "127.0.0.1"
def defaultTimeoutMs : UInt32 := 1000

/-! ## String fields -/

/-- `setInt8ArrayString`, on a slice of `n` elements: clear it, and copy the bytes
    that fit before a last zero. -/
def setInt8ArrayString {n : ℕ} (dst : Vector Int8 n) (src : GoString) : Vector Int8 n :=
  let dst := dst.map fun _ => (0 : Int8)
  if hn : n = 0 then dst
  else
    let limit := if src.length < n - 1 then src.length else n - 1
    have hdst : limit < n := by grind
    have hsrc : limit ≤ src.length := by grind
    (List.finRange limit).foldl (fun dst (i : Fin limit) =>
      dst.set i (src.get ⟨i, Nat.lt_of_lt_of_le i.isLt hsrc⟩).toInt8
        (Nat.lt_trans i.isLt hdst)) dst

/-! ## Options -/

structure ConnectOptions where
  address : GoString
  timeout : UInt32
  addrType : UInt32
  unix : Bool

/-- A `ConnectOption` updates the options under construction. -/
abbrev ConnectOption := ConnectOptions → ConnectOptions

def WithAddress (address : GoString) : ConnectOption := fun o =>
  { o with address := address, addrType := ADDR_TYPE_INET, unix := false }

def WithUnixSocket (path : GoString) : ConnectOption := fun o =>
  { o with address := path, addrType := ADDR_TYPE_UNIX, unix := true }

def WithTimeoutMs (timeoutMs : UInt32) : ConnectOption := fun o => { o with timeout := timeoutMs }

def newConnectParams (opts : List ConnectOption) : ConnectParams :=
  let options := opts.foldl (fun o opt => opt o)
    ⟨defaultAddress, defaultTimeoutMs, ADDR_TYPE_INET, false⟩
  { Version := ConnectParamsVersion
    AddressInfo := setInt8ArrayString (Vector.replicate 256 0) options.address
    TimeoutMs := options.timeout
    AddressIsUnixSocket := if options.unix then 1 else 0
    AddressType := options.addrType }

/-! ## Connections -/

/-- `fabricManager`, the `Handle` of a connection. -/
structure FabricManager where
  handle : Option Pointer
deriving DecidableEq

namespace Library

variable {σ : Type}

/-- `(*library).ConnectWithParams`. A nil `Handle` is `none`. -/
def ConnectWithParams (params : ConnectParams) :
    Prog σ Answer (Option FabricManager × Return) := do
  let answer : Return × Option Pointer ← invoke (Call.fmConnect params)
  if answer.1 ≠ SUCCESS then
    return (none, answer.1)
  match answer.2 with
  | none => return (none, GENERIC_ERROR)
  | some handle => return (some ⟨some handle⟩, SUCCESS)

/-- `(*library).Connect`. -/
def Connect (opts : List ConnectOption) : Prog σ Answer (Option FabricManager × Return) :=
  ConnectWithParams (newConnectParams opts)

/-- `ConnectWithParams` makes one call, in the memory it finds, and keeps it. -/
theorem wp_ConnectWithParams {params : ConnectParams} {s : σ}
    {Q : Option FabricManager × Return → World σ Answer → Prop}
    (h : ∀ a r, Q a ⟨s, [⟨s, .fmConnect params, r⟩]⟩) :
    (ConnectWithParams params).wp .recording Q ⟨s, []⟩ := by
  simp only [ConnectWithParams, invoke_bind, wp_recording_call]
  intro answer
  split
  · exact h _ _
  · split
    · exact h _ _
    · exact h _ _

end Library

end Nvfm
