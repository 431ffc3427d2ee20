-- SUMMARY: The string fields of C structures: what a write leaves in a field, and what a read returns.
import Nvfm.Go.Arrays
import Nvfm.Library.Connect

/-!
# String Fields

`cgo_helpers_static.go`. A field of `n` characters holds a string of fewer than
`n` bytes without a NUL, followed by NULs. Writing such a string and reading it
back are inverse to each other; any other string is cut.
-/

namespace Nvfm

open Go

/-! ## Reading -/

section Read

variable {n : ℕ}

/-- `clen`: the index of the first zero, or the length when there is none. -/
def clen (a : Vector Int8 n) : ℕ := a.toList.findIdx (· = 0)

theorem clen_le (a : Vector Int8 n) : clen a ≤ n := by
  have hle : clen a ≤ a.toList.length := List.findIdx_le_length
  rwa [Vector.length_toList] at hle

/-- `int8ArrayString`. -/
def int8ArrayString (a : Vector Int8 n) : GoString :=
  List.ofFn fun i : Fin (clen a) => (a.get ⟨i, Nat.lt_of_lt_of_le i.isLt (clen_le a)⟩).toUInt8

/-- The memory of a field, as C sees it. -/
def fieldBlock (a : Vector Int8 n) : CharBlock := a.toList.map Int8.toUInt8

theorem toUInt8_eq_zero {b : Int8} : b.toUInt8 = 0 ↔ b = 0 := by
  constructor
  · intro h
    rw [← Int8.toInt8_toUInt8 b, h]
    rfl
  · rintro rfl
    rfl

theorem toInt8_eq_zero {b : UInt8} : b.toInt8 = 0 ↔ b = 0 := by
  rw [← toUInt8_eq_zero, UInt8.toUInt8_toInt8]

/-- Up to the first zero, a field is a list of characters. -/
theorem int8ArrayString_eq (a : Vector Int8 n) :
    int8ArrayString a = (a.toList.takeWhile (· ≠ 0)).map Int8.toUInt8 := by
  have htake : a.toList.takeWhile (· ≠ 0) = a.toList.take (clen a) := by
    rw [clen, List.takeWhile_eq_take_findIdx_not]
    simp
  have hle : clen a ≤ a.toList.length := List.findIdx_le_length
  rw [htake, ← ofFn_get_take _ hle, List.map_ofFn]
  rfl

/-- Go and C read the same string from a field. -/
theorem int8ArrayString_eq_cText (a : Vector Int8 n) : int8ArrayString a = cText (fieldBlock a) := by
  have hzero : (fun b : Int8 => decide (b ≠ 0)) = (fun c => decide (c ≠ 0)) ∘ Int8.toUInt8 := by
    funext b
    simp [toUInt8_eq_zero]
  rw [int8ArrayString_eq, cText, fieldBlock, List.takeWhile_map, hzero]

end Read

/-! ## Writing -/

section Write

variable {n : ℕ}

/-- A write copies the bytes that fit before the last zero, and clears the rest. -/
theorem toList_setInt8ArrayString (dst : Vector Int8 n) (src : GoString) :
    (setInt8ArrayString dst src).toList =
      (src.take (n - 1)).map UInt8.toInt8 ++ List.replicate (n - min src.length (n - 1)) 0 := by
  unfold setInt8ArrayString
  split
  · next hn =>
      subst hn
      simp
  · next hn =>
      have hmin : (if src.length < n - 1 then src.length else n - 1) = min src.length (n - 1) := by
        grind
      have hsrc : (if src.length < n - 1 then src.length else n - 1) ≤ src.length := by grind
      have hdst : (if src.length < n - 1 then src.length else n - 1) ≤ n := by grind
      rw [toList_fill hdst fun i => (src.get ⟨i, Nat.lt_of_lt_of_le i.isLt hsrc⟩).toInt8]
      congr 1
      · have htake : src.take (if src.length < n - 1 then src.length else n - 1) = src.take (n - 1) := by
          rw [hmin, Nat.min_comm, ← List.take_eq_take_min]
        have hget := congrArg (List.map UInt8.toInt8) (ofFn_get_take src hsrc)
        rw [List.map_ofFn, htake] at hget
        exact hget
      · rw [Vector.toList_map, List.map_const', List.drop_replicate, Vector.length_toList, hmin]

/-- What a write leaves does not depend on what was there. -/
theorem setInt8ArrayString_congr (dst dst' : Vector Int8 n) (src : GoString) :
    setInt8ArrayString dst src = setInt8ArrayString dst' src := by
  apply Vector.toList_inj.1
  rw [toList_setInt8ArrayString, toList_setInt8ArrayString]

/-- The last character of a field stays zero. -/
theorem setInt8ArrayString_getLast? (dst : Vector Int8 n) (src : GoString) (hn : 0 < n) :
    (setInt8ArrayString dst src).toList.getLast? = some 0 := by
  have hpad : n - min src.length (n - 1) ≠ 0 := by omega
  rw [toList_setInt8ArrayString, List.getLast?_append, List.getLast?_replicate, if_neg hpad]
  rfl

/-- The first zero of a padded string is its own first NUL, or the first of the padding. -/
theorem takeWhile_padded (s : GoString) (k : ℕ) :
    (s.map UInt8.toInt8 ++ List.replicate k 0).takeWhile (· ≠ 0) =
      (s.takeWhile (· ≠ 0)).map UInt8.toInt8 := by
  induction s with
  | nil => cases k <;> rfl
  | cons b s ih =>
      rw [List.map_cons, List.cons_append, List.takeWhile_cons, List.takeWhile_cons, ih]
      by_cases hb : b = 0
      · simp [hb]
      · simp [hb, toInt8_eq_zero]

/-- Reading a field that was written: the string cut to its length, and at its first NUL. -/
theorem int8ArrayString_setInt8ArrayString (dst : Vector Int8 n) (src : GoString) :
    int8ArrayString (setInt8ArrayString dst src) = (src.take (n - 1)).takeWhile (· ≠ 0) := by
  rw [int8ArrayString_eq, toList_setInt8ArrayString, takeWhile_padded, List.map_map]
  exact List.map_id'' UInt8.toUInt8_toInt8 _

/-- The strings that a field of `n` characters holds. -/
def Fits (n : ℕ) (s : GoString) : Prop := (0 : UInt8) ∉ s ∧ s.length < n

/-- A string read back is the one written exactly when it fits, or is empty. -/
theorem int8ArrayString_setInt8ArrayString_eq_iff {dst : Vector Int8 n} {src : GoString} :
    int8ArrayString (setInt8ArrayString dst src) = src ↔
      (0 : UInt8) ∉ src ∧ (src.length < n ∨ src = []) := by
  rw [int8ArrayString_setInt8ArrayString]
  constructor
  · intro heq
    have hzero : ∀ b ∈ src, b ≠ 0 := by
      intro b hb
      rw [← heq] at hb
      simpa using List.mem_takeWhile_imp hb
    refine ⟨fun hmem => hzero 0 hmem rfl, ?_⟩
    have hlen : src.length ≤ n - 1 := by
      calc src.length = ((src.take (n - 1)).takeWhile (· ≠ 0)).length := by rw [heq]
        _ ≤ (src.take (n - 1)).length := (List.takeWhile_prefix _).length_le
        _ ≤ n - 1 := List.length_take_le ..
    rcases Nat.eq_zero_or_pos n with rfl | hn
    · exact .inr (List.eq_nil_of_length_eq_zero (Nat.le_zero.1 hlen))
    · exact .inl (Nat.lt_of_le_of_lt hlen (Nat.sub_one_lt_of_lt hn))
  · rintro ⟨hzero, hlen⟩
    have htake : src.take (n - 1) = src := by
      rcases hlen with hlen | rfl
      · exact List.take_of_length_le (Nat.le_sub_one_of_lt hlen)
      · exact List.take_nil
    rw [htake, List.takeWhile_eq_self_iff]
    intro b hb
    have hne : b ≠ 0 := fun h => hzero (h ▸ hb)
    exact decide_eq_true hne

/-- The field contains a zero, and only zeros from the first one on. -/
def Padded (a : Vector Int8 n) : Prop :=
  0 ∈ a.toList ∧ ∀ b ∈ a.toList.dropWhile (· ≠ 0), b = 0

/-- In a field that contains a zero, the string stops before the end. -/
theorem length_takeWhile_lt {a : Vector Int8 n} (hmem : 0 ∈ a.toList) :
    (a.toList.takeWhile (· ≠ 0)).length < n := by
  have hsplit : a.toList.takeWhile (· ≠ 0) ++ a.toList.dropWhile (· ≠ 0) = a.toList :=
    List.takeWhile_append_dropWhile
  have hlen : (a.toList.takeWhile (· ≠ 0)).length + (a.toList.dropWhile (· ≠ 0)).length = n := by
    rw [← List.length_append, hsplit, Vector.length_toList]
  have hpos : 0 < (a.toList.dropWhile (· ≠ 0)).length := by
    rw [← hsplit] at hmem
    rcases List.mem_append.1 hmem with hin | hin
    · have hne := List.mem_takeWhile_imp hin
      simp at hne
    · exact List.length_pos_of_mem hin
  omega

/-- A padded field is the characters before its first zero, and zeros. -/
theorem Padded.toList_eq {a : Vector Int8 n} (h : Padded a) :
    a.toList = a.toList.takeWhile (· ≠ 0) ++
      List.replicate (n - (a.toList.takeWhile (· ≠ 0)).length) 0 := by
  have hsplit : a.toList.takeWhile (· ≠ 0) ++ a.toList.dropWhile (· ≠ 0) = a.toList :=
    List.takeWhile_append_dropWhile
  have hlen : (a.toList.takeWhile (· ≠ 0)).length + (a.toList.dropWhile (· ≠ 0)).length = n := by
    rw [← List.length_append, hsplit, Vector.length_toList]
  have hzeros : a.toList.dropWhile (· ≠ 0) =
      List.replicate (n - (a.toList.takeWhile (· ≠ 0)).length) 0 := by
    rw [List.eq_replicate_iff]
    exact ⟨by omega, h.2⟩
  rw [← hzeros, hsplit]

/-- Writing back the string of a padded field restores the field. -/
theorem setInt8ArrayString_int8ArrayString {a : Vector Int8 n} (h : Padded a)
    (dst : Vector Int8 n) : setInt8ArrayString dst (int8ArrayString a) = a := by
  have hlen : (int8ArrayString a).length = (a.toList.takeWhile (· ≠ 0)).length := by
    rw [int8ArrayString_eq, List.length_map]
  have hle : (int8ArrayString a).length ≤ n - 1 := by
    rw [hlen]
    exact Nat.le_sub_one_of_lt (length_takeWhile_lt h.1)
  apply Vector.toList_inj.1
  calc (setInt8ArrayString dst (int8ArrayString a)).toList
      = (int8ArrayString a).map UInt8.toInt8 ++
          List.replicate (n - (int8ArrayString a).length) 0 := by
        rw [toList_setInt8ArrayString, List.take_of_length_le hle, Nat.min_eq_left hle]
    _ = a.toList.takeWhile (· ≠ 0) ++
          List.replicate (n - (a.toList.takeWhile (· ≠ 0)).length) 0 := by
        rw [hlen, int8ArrayString_eq, List.map_map]
        congr 1
        exact List.map_id'' Int8.toInt8_toUInt8 _
    _ = a.toList := h.toList_eq.symm

end Write

/-! ## Both directions -/

/-- Writing and reading a field of any length, with any contents. -/
theorem string_fields_round_trip (n : ℕ) :
    (∀ (dst : Vector Int8 n) (src : GoString),
      (∀ dst' : Vector Int8 n, setInt8ArrayString dst src = setInt8ArrayString dst' src) ∧
      (0 < n → (setInt8ArrayString dst src).toList.getLast? = some 0) ∧
      int8ArrayString (setInt8ArrayString dst src) = (src.take (n - 1)).takeWhile (· ≠ 0) ∧
      (int8ArrayString (setInt8ArrayString dst src) = src ↔
        (0 : UInt8) ∉ src ∧ (src.length < n ∨ src = []))) ∧
    (∀ a : Vector Int8 n, Padded a →
      ∀ dst : Vector Int8 n, setInt8ArrayString dst (int8ArrayString a) = a) ∧
    ∀ a : Vector Int8 n, int8ArrayString a = (a.toList.takeWhile (· ≠ 0)).map Int8.toUInt8 := by
  refine ⟨?_, fun a => setInt8ArrayString_int8ArrayString, int8ArrayString_eq⟩
  intro dst src
  refine ⟨?_, ?_, ?_, ?_⟩
  · exact fun dst' => setInt8ArrayString_congr dst dst' src
  · exact setInt8ArrayString_getLast? dst src
  · exact int8ArrayString_setInt8ArrayString dst src
  · exact int8ArrayString_setInt8ArrayString_eq_iff

theorem string_fields_round_trip_short :
    let a : Vector Int8 4 := #v[102, -1, 0, 0]
    Padded a ∧ setInt8ArrayString #v[1, 2, 3, 4] (int8ArrayString a) = a ∧
      int8ArrayString (setInt8ArrayString a (ascii "fm.sock")) = ascii "fm." := by
  have hpadded : Padded (#v[102, -1, 0, 0] : Vector Int8 4) := by
    refine ⟨by simp, ?_⟩
    intro b hb
    simpa using hb
  obtain ⟨hwrite, hback, _⟩ := string_fields_round_trip 4
  refine ⟨hpadded, hback _ hpadded _, ?_⟩
  rw [(hwrite _ _).2.2.1]
  decide

end Nvfm
