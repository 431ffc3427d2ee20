-- SUMMARY: The texts of return codes: the names of the header, and one text for each code.
import Nvfm.Bindings.Header
import Mathlib

/-!
# Texts of Return Codes

`return.go`. A code of `fmReturn_t` is printed as its name, any other as a number, so
a text in a log tells which code it was.
-/

namespace Nvfm

open Go

/-! ## Codes -/

namespace Return

def NOT_SUPPORTED : Return := -3
def TIMEOUT : Return := -5
def VERSION_MISMATCH : Return := -6
def NOT_CONFIGURED : Return := -8
def CONNECTION_NOT_VALID : Return := -9
def NVLINK_ERROR : Return := -10
def RESOURCE_BAD : Return := -11
def RESOURCE_IN_USE : Return := -12
def RESOURCE_NOT_IN_USE : Return := -13
def RESOURCE_EXHAUSTED : Return := -14
def RESOURCE_NOT_READY : Return := -15
def PARTITION_EXISTS : Return := -16
def PARTITION_ID_IN_USE : Return := -17
def PARTITION_ID_NOT_IN_USE : Return := -18
def PARTITION_NAME_IN_USE : Return := -19
def PARTITION_NAME_NOT_IN_USE : Return := -20
def PARTITION_ID_NAME_MISMATCH : Return := -21
def NOT_READY : Return := -22
def RESOURCE_USED_IN_THIS_PARTITION : Return := -23
def RESOURCE_USED_IN_ANOTHER_PARTITION : Return := -24
def PARTITION_MISWIRED_TRUNKS : Return := -25
def PARTITION_INSUFFICIENT_TRUNKS : Return := -26
def PARTITION_MISSING_SWITCHES : Return := -27
def PARTITION_NETWORK_CONFIG_ERROR : Return := -28
def PARTITION_ROUTE_PROGRAMMING_ERROR : Return := -29

/-- The cases of the switch in `Error`, in order. -/
def cases : List (Return × GoString) :=
  [(SUCCESS, ascii "SUCCESS"),
   (BADPARAM, ascii "BADPARAM"),
   (GENERIC_ERROR, ascii "GENERIC_ERROR"),
   (NOT_SUPPORTED, ascii "NOT_SUPPORTED"),
   (UNINITIALIZED, ascii "UNINITIALIZED"),
   (TIMEOUT, ascii "TIMEOUT"),
   (VERSION_MISMATCH, ascii "VERSION_MISMATCH"),
   (IN_USE, ascii "IN_USE"),
   (NOT_CONFIGURED, ascii "NOT_CONFIGURED"),
   (CONNECTION_NOT_VALID, ascii "CONNECTION_NOT_VALID"),
   (NVLINK_ERROR, ascii "NVLINK_ERROR"),
   (RESOURCE_BAD, ascii "RESOURCE_BAD"),
   (RESOURCE_IN_USE, ascii "RESOURCE_IN_USE"),
   (RESOURCE_NOT_IN_USE, ascii "RESOURCE_NOT_IN_USE"),
   (RESOURCE_EXHAUSTED, ascii "RESOURCE_EXHAUSTED"),
   (RESOURCE_NOT_READY, ascii "RESOURCE_NOT_READY"),
   (PARTITION_EXISTS, ascii "PARTITION_EXISTS"),
   (PARTITION_ID_IN_USE, ascii "PARTITION_ID_IN_USE"),
   (PARTITION_ID_NOT_IN_USE, ascii "PARTITION_ID_NOT_IN_USE"),
   (PARTITION_NAME_IN_USE, ascii "PARTITION_NAME_IN_USE"),
   (PARTITION_NAME_NOT_IN_USE, ascii "PARTITION_NAME_NOT_IN_USE"),
   (PARTITION_ID_NAME_MISMATCH, ascii "PARTITION_ID_NAME_MISMATCH"),
   (NOT_READY, ascii "NOT_READY"),
   (RESOURCE_USED_IN_THIS_PARTITION, ascii "RESOURCE_USED_IN_THIS_PARTITION"),
   (RESOURCE_USED_IN_ANOTHER_PARTITION, ascii "RESOURCE_USED_IN_ANOTHER_PARTITION"),
   (PARTITION_MISWIRED_TRUNKS, ascii "PARTITION_MISWIRED_TRUNKS"),
   (PARTITION_INSUFFICIENT_TRUNKS, ascii "PARTITION_INSUFFICIENT_TRUNKS"),
   (PARTITION_MISSING_SWITCHES, ascii "PARTITION_MISSING_SWITCHES"),
   (PARTITION_NETWORK_CONFIG_ERROR, ascii "PARTITION_NETWORK_CONFIG_ERROR"),
   (PARTITION_ROUTE_PROGRAMMING_ERROR, ascii "PARTITION_ROUTE_PROGRAMMING_ERROR")]

/-- `Error`. The verb `%d` prints the number of a code. -/
protected def Error (r : Return) : GoString :=
  match cases.find? fun entry => entry.1 = r with
  | some entry => entry.2
  | none => ascii "unknown return value: " ++ ascii r.toInt.repr

/-- `String`. -/
protected def String (r : Return) : GoString := r.Error

end Return

/-- `(*library).ErrorString`. -/
def Library.ErrorString (r : Return) : GoString := r.Error

/-- `fmReturn_t`, as `nv_fm_types.h` declares it. -/
def fmReturn_t : List (GoString × ℤ) :=
  [(ascii "FM_ST_SUCCESS", 0),
   (ascii "FM_ST_BADPARAM", -1),
   (ascii "FM_ST_GENERIC_ERROR", -2),
   (ascii "FM_ST_NOT_SUPPORTED", -3),
   (ascii "FM_ST_UNINITIALIZED", -4),
   (ascii "FM_ST_TIMEOUT", -5),
   (ascii "FM_ST_VERSION_MISMATCH", -6),
   (ascii "FM_ST_IN_USE", -7),
   (ascii "FM_ST_NOT_CONFIGURED", -8),
   (ascii "FM_ST_CONNECTION_NOT_VALID", -9),
   (ascii "FM_ST_NVLINK_ERROR", -10),
   (ascii "FM_ST_RESOURCE_BAD", -11),
   (ascii "FM_ST_RESOURCE_IN_USE", -12),
   (ascii "FM_ST_RESOURCE_NOT_IN_USE", -13),
   (ascii "FM_ST_RESOURCE_EXHAUSTED", -14),
   (ascii "FM_ST_RESOURCE_NOT_READY", -15),
   (ascii "FM_ST_PARTITION_EXISTS", -16),
   (ascii "FM_ST_PARTITION_ID_IN_USE", -17),
   (ascii "FM_ST_PARTITION_ID_NOT_IN_USE", -18),
   (ascii "FM_ST_PARTITION_NAME_IN_USE", -19),
   (ascii "FM_ST_PARTITION_NAME_NOT_IN_USE", -20),
   (ascii "FM_ST_PARTITION_ID_NAME_MISMATCH", -21),
   (ascii "FM_ST_NOT_READY", -22),
   (ascii "FM_ST_RESOURCE_USED_IN_THIS_PARTITION", -23),
   (ascii "FM_ST_RESOURCE_USED_IN_ANOTHER_PARTITION", -24),
   (ascii "FM_ST_PARTITION_MISWIRED_TRUNKS", -25),
   (ascii "FM_ST_PARTITION_INSUFFICIENT_TRUNKS", -26),
   (ascii "FM_ST_PARTITION_MISSING_SWITCHES", -27),
   (ascii "FM_ST_PARTITION_NETWORK_CONFIG_ERROR", -28),
   (ascii "FM_ST_PARTITION_ROUTE_PROGRAMMING_ERROR", -29)]

/-! ## Printed numbers -/

section Numbers

/-- The bytes of two texts of small characters are equal only if the texts are. -/
theorem map_bytes_inj {s t : List Char} (hs : ∀ c ∈ s, c.toNat < 256) (ht : ∀ c ∈ t, c.toNat < 256)
    (h : (s.map fun c => c.toNat.toUInt8) = t.map fun c => c.toNat.toUInt8) : s = t := by
  induction s generalizing t with
  | nil =>
      cases t with
      | nil => rfl
      | cons d t => cases h
  | cons c s ih =>
      cases t with
      | nil => cases h
      | cons d t =>
          rw [List.map_cons, List.map_cons, List.cons.injEq] at h
          have hc := hs c List.mem_cons_self
          have hd := ht d List.mem_cons_self
          have hcd : c = d := by
            have hbyte : (UInt8.ofNat c.toNat).toNat = (UInt8.ofNat d.toNat).toNat :=
              congrArg UInt8.toNat h.1
            rw [UInt8.toNat_ofNat_of_lt' hc, UInt8.toNat_ofNat_of_lt' hd] at hbyte
            exact Char.toNat_inj.1 hbyte
          rw [hcd, ih (fun b hb => hs b (List.mem_cons_of_mem _ hb))
            (fun b hb => ht b (List.mem_cons_of_mem _ hb)) h.2]

/-- A number is printed with digits and a minus sign. -/
theorem toNat_lt_of_mem_repr {i : ℤ} {c : Char} (h : c ∈ i.repr.toList) : c.toNat < 256 := by
  have hdigit : ∀ {n : ℕ} {c : Char}, c ∈ n.repr.toList → c.toNat < 256 := by
    intro n c hc
    rw [Nat.toList_repr] at hc
    have hdigit := Nat.isDigit_of_mem_toDigits (by decide) (by decide) hc
    simp only [Char.isDigit, Bool.and_eq_true, decide_eq_true_eq] at hdigit
    have hle : c.val.toNat ≤ 57 := UInt32.le_iff_toNat_le.1 hdigit.2
    exact Nat.lt_of_le_of_lt hle (by decide)
  rw [Int.repr_eq_if] at h
  split at h
  · exact hdigit h
  · rw [String.toList_append, List.mem_append] at h
    rcases h with h | h
    · obtain rfl : c = '-' := by simpa using h
      decide
    · exact hdigit h

/-- Different numbers are printed differently. -/
theorem ascii_repr_injective {i j : ℤ} (h : ascii i.repr = ascii j.repr) : i = j :=
  Int.repr_injective (String.toList_inj.1
    (map_bytes_inj (fun _ hc => toNat_lt_of_mem_repr hc) (fun _ hc => toNat_lt_of_mem_repr hc) h))

end Numbers

/-! ## Texts -/

section Texts

open Return

theorem nodup_cases : (cases.map (·.2)).Nodup := by decide +kernel

/-- No name starts like the text of an unknown code. -/
theorem head?_cases : ∀ entry ∈ cases, entry.2.head? ≠ some 117 := by decide +kernel

/-- A code is printed as the name of its case, or as a number when it has none. -/
theorem Error_cases (r : Return) :
    (∃ entry ∈ cases, entry.1 = r ∧ r.Error = entry.2) ∨
      (r ∉ cases.map (·.1) ∧ r.Error = ascii "unknown return value: " ++ ascii r.toInt.repr) := by
  unfold Return.Error
  cases hfind : cases.find? fun entry => entry.1 = r with
  | some entry =>
      exact .inl ⟨entry, List.mem_of_find?_eq_some hfind, by simpa using List.find?_some hfind, rfl⟩
  | none =>
      refine .inr ⟨?_, rfl⟩
      intro hmem
      obtain ⟨entry, hentry, hr⟩ := List.mem_map.1 hmem
      exact List.find?_eq_none.1 hfind entry hentry (decide_eq_true hr)

/-- A text belongs to one code. -/
theorem Error_injective : Function.Injective Return.Error := by
  intro r r' h
  rcases Error_cases r with ⟨entry, hmem, rfl, htext⟩ | ⟨_, htext⟩
  · rcases Error_cases r' with ⟨entry', hmem', rfl, htext'⟩ | ⟨_, htext'⟩
    · rw [htext, htext'] at h
      rw [List.inj_on_of_nodup_map nodup_cases hmem hmem' h]
    · have hhead := head?_cases entry hmem
      rw [← htext, h, htext'] at hhead
      exact absurd rfl hhead
  · rcases Error_cases r' with ⟨entry', hmem', rfl, htext'⟩ | ⟨_, htext'⟩
    · have hhead := head?_cases entry' hmem'
      rw [← htext', ← h, htext] at hhead
      exact absurd rfl hhead
    · rw [htext, htext'] at h
      exact Int32.toInt_inj.1 (ascii_repr_injective (List.append_cancel_left h))

/-- Every code of the header is printed as its name there, every other code as its number,
    and no two of all codes alike. -/
structure Prints (text : Return → GoString) : Prop where
  names : ∀ entry ∈ fmReturn_t, ascii "FM_ST_" ++ text (Int32.ofInt entry.2) = entry.1
  numbers : ∀ r : Return, r.toInt ∉ fmReturn_t.map (·.2) →
    text r = ascii "unknown return value: " ++ ascii r.toInt.repr
  injective : Function.Injective text

theorem prints_Error : Prints Return.Error where
  names := by decide +kernel
  numbers := by
    intro r hr
    rcases Error_cases r with ⟨entry, hmem, rfl, _⟩ | ⟨_, htext⟩
    · have hall : ∀ entry ∈ cases, entry.1.toInt ∈ fmReturn_t.map (·.2) := by decide +kernel
      exact absurd (hall entry hmem) hr
    · exact htext
  injective := Error_injective

/-- `Error`, `String` and `ErrorString` all print the codes so. -/
theorem error_texts :
    Prints Return.Error ∧ Prints Return.String ∧ Prints Library.ErrorString := by
  have hString : Return.String = Return.Error := rfl
  have hErrorString : Library.ErrorString = Return.Error := rfl
  rw [hString, hErrorString]
  exact ⟨prints_Error, prints_Error, prints_Error⟩

end Texts

end Nvfm
