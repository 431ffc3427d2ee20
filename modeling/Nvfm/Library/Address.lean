-- SUMMARY: What a list of connect options asks for, and which address Connect passes on.
import Nvfm.Library.StringField
import Nvfm.Library.Basic
import Mathlib.Data.List.Induction

/-!
# Addresses

The options of `Connect` update one record in order, so the last option of each
kind decides. The address then has to pass through the field `AddressInfo`,
which cuts it at 255 bytes and is read up to its first NUL.
-/

namespace Nvfm

open Go Interaction Prog Return

/-- A call of one of the functions that return a `ConnectOption`. -/
inductive ConnectSetting where
  | WithAddress (address : GoString)
  | WithUnixSocket (path : GoString)
  | WithTimeoutMs (timeoutMs : UInt32)
deriving DecidableEq

/-- What the last address option of a list asks for. -/
structure Endpoint where
  address : GoString
  unix : Bool
deriving DecidableEq

namespace ConnectSetting

def option : ConnectSetting → ConnectOption
  | WithAddress address => Nvfm.WithAddress address
  | WithUnixSocket path => Nvfm.WithUnixSocket path
  | WithTimeoutMs timeoutMs => Nvfm.WithTimeoutMs timeoutMs

def endpoint? : ConnectSetting → Option Endpoint
  | WithAddress address => some ⟨address, false⟩
  | WithUnixSocket path => some ⟨path, true⟩
  | WithTimeoutMs _ => none

def timeout? : ConnectSetting → Option UInt32
  | WithTimeoutMs timeoutMs => some timeoutMs
  | _ => none

def isAddress (s : ConnectSetting) : Bool := s.endpoint?.isSome

theorem timeout?_eq_none {s : ConnectSetting} (h : s.isAddress = true) : s.timeout? = none := by
  cases s with
  | WithAddress address => rfl
  | WithUnixSocket path => rfl
  | WithTimeoutMs timeoutMs => cases h

theorem endpoint?_eq_none {s : ConnectSetting} (h : s.isAddress = false) : s.endpoint? = none :=
  Option.isSome_eq_false_iff.1 h |> Option.isNone_iff_eq_none.1

theorem timeout?_isSome {s : ConnectSetting} (h : s.isAddress = false) : s.timeout?.isSome := by
  cases s with
  | WithAddress address => cases h
  | WithUnixSocket path => cases h
  | WithTimeoutMs timeoutMs => rfl

end ConnectSetting

/-! ## The last option of each kind -/

/-- The last option that `f` reads something from decides. -/
def lastOf {α β : Type} (f : α → Option β) (xs : List α) (default : β) : β :=
  (xs.filterMap f).getLast?.getD default

section LastOf

variable {α β : Type} {f : α → Option β} {d : β}

theorem lastOf_concat_some {xs : List α} {x : α} {y : β} (h : f x = some y) :
    lastOf f (xs ++ [x]) d = y := by
  simp [lastOf, h]

theorem lastOf_concat_none {xs : List α} {x : α} (h : f x = none) :
    lastOf f (xs ++ [x]) d = lastOf f xs d := by
  simp [lastOf, h]

theorem lastOf_remove {pre post : List α} {x : α}
    (h : f x = none ∨ ∃ y ∈ post, (f y).isSome = true) :
    lastOf f (pre ++ x :: post) d = lastOf f (pre ++ post) d := by
  unfold lastOf
  rw [List.filterMap_append, List.filterMap_append]
  rcases h with hnone | ⟨y, hy, hsome⟩
  · rw [List.filterMap_cons_none hnone]
  · have hne : post.filterMap f ≠ [] := by
      intro hnil
      rw [List.filterMap_eq_nil_iff.1 hnil y hy] at hsome
      cases hsome
    obtain ⟨z, hz⟩ := Option.isSome_iff_exists.1 (List.getLast?_isSome.2 hne)
    cases hx : f x with
    | none => rw [List.filterMap_cons_none hx]
    | some b =>
        rw [List.filterMap_cons_some hx, List.getLast?_append, List.getLast?_cons, hz,
          List.getLast?_append, hz]
        rfl

theorem lastOf_swap {pre post : List α} {x y : α} (h : f x = none ∨ f y = none) :
    lastOf f (pre ++ x :: y :: post) d = lastOf f (pre ++ y :: x :: post) d := by
  unfold lastOf
  rw [List.filterMap_append, List.filterMap_append]
  rcases h with hnone | hnone
  · simp only [List.filterMap_cons, hnone]
  · simp only [List.filterMap_cons, hnone]

end LastOf

/-- The endpoint a list of options asks for. -/
def requestedEndpoint (opts : List ConnectSetting) : Endpoint :=
  lastOf ConnectSetting.endpoint? opts ⟨defaultAddress, false⟩

def requestedTimeoutMs (opts : List ConnectSetting) : UInt32 :=
  lastOf ConnectSetting.timeout? opts defaultTimeoutMs

/-- The options under construction are those the last option of each kind asks for. -/
theorem foldl_options (opts : List ConnectSetting) :
    (opts.map ConnectSetting.option).foldl (fun o opt => opt o)
        ⟨defaultAddress, defaultTimeoutMs, ADDR_TYPE_INET, false⟩ =
      { address := (requestedEndpoint opts).address
        timeout := requestedTimeoutMs opts
        addrType := if (requestedEndpoint opts).unix then ADDR_TYPE_UNIX else ADDR_TYPE_INET
        unix := (requestedEndpoint opts).unix } := by
  induction opts using List.reverseRecOn with
  | nil => rfl
  | append_singleton opts s ih =>
      rw [List.map_append, List.foldl_append, ih]
      unfold requestedEndpoint requestedTimeoutMs
      cases s with
      | WithAddress address =>
          rw [lastOf_concat_some (f := ConnectSetting.endpoint?) rfl,
            lastOf_concat_none (f := ConnectSetting.timeout?) rfl]
          rfl
      | WithUnixSocket path =>
          rw [lastOf_concat_some (f := ConnectSetting.endpoint?) rfl,
            lastOf_concat_none (f := ConnectSetting.timeout?) rfl]
          rfl
      | WithTimeoutMs timeoutMs =>
          rw [lastOf_concat_none (f := ConnectSetting.endpoint?) rfl,
            lastOf_concat_some (f := ConnectSetting.timeout?) rfl]
          rfl

/-- The parameters of `Connect`, in terms of what its options ask for. -/
theorem newConnectParams_eq (opts : List ConnectSetting) :
    newConnectParams (opts.map ConnectSetting.option) =
      { Version := ConnectParamsVersion
        AddressInfo := setInt8ArrayString (Vector.replicate 256 0) (requestedEndpoint opts).address
        TimeoutMs := requestedTimeoutMs opts
        AddressIsUnixSocket := if (requestedEndpoint opts).unix then 1 else 0
        AddressType := if (requestedEndpoint opts).unix then ADDR_TYPE_UNIX else ADDR_TYPE_INET } := by
  unfold newConnectParams
  rw [foldl_options]

/-- Options of every length and order: the last address option and the last timeout
    decide, the deprecated flag goes with the address type, and options that are
    overridden, or of different kinds, do not interfere. -/
theorem options_last_wins :
    (∀ opts : List ConnectSetting, newConnectParams (opts.map ConnectSetting.option) =
      { Version := ConnectParamsVersion
        AddressInfo := setInt8ArrayString (Vector.replicate 256 0) (requestedEndpoint opts).address
        TimeoutMs := requestedTimeoutMs opts
        AddressIsUnixSocket := if (requestedEndpoint opts).unix then 1 else 0
        AddressType := if (requestedEndpoint opts).unix then ADDR_TYPE_UNIX else ADDR_TYPE_INET }) ∧
    (∀ opts : List ConnectSetting,
      let params := newConnectParams (opts.map ConnectSetting.option)
      (params.AddressIsUnixSocket = 1 ∧ params.AddressType = ADDR_TYPE_UNIX) ∨
        (params.AddressIsUnixSocket = 0 ∧ params.AddressType = ADDR_TYPE_INET)) ∧
    (∀ (pre post : List ConnectSetting) (x y : ConnectSetting), y ∈ post →
      x.isAddress = y.isAddress →
      newConnectParams ((pre ++ x :: post).map ConnectSetting.option) =
        newConnectParams ((pre ++ post).map ConnectSetting.option)) ∧
    ∀ (pre post : List ConnectSetting) (x y : ConnectSetting), x.isAddress ≠ y.isAddress →
      newConnectParams ((pre ++ x :: y :: post).map ConnectSetting.option) =
        newConnectParams ((pre ++ y :: x :: post).map ConnectSetting.option) := by
  refine ⟨newConnectParams_eq, ?_, ?_, ?_⟩
  · intro opts
    simp only [newConnectParams_eq]
    cases (requestedEndpoint opts).unix with
    | true => exact .inl ⟨rfl, rfl⟩
    | false => exact .inr ⟨rfl, rfl⟩
  · intro pre post x y hy hkind
    have hendpoint : x.endpoint? = none ∨ ∃ y ∈ post, y.endpoint?.isSome = true := by
      cases hx : x.isAddress with
      | true => exact .inr ⟨y, hy, hkind.symm.trans hx⟩
      | false => exact .inl (ConnectSetting.endpoint?_eq_none hx)
    have htimeout : x.timeout? = none ∨ ∃ y ∈ post, y.timeout?.isSome = true := by
      cases hx : x.isAddress with
      | true => exact .inl (ConnectSetting.timeout?_eq_none hx)
      | false => exact .inr ⟨y, hy, ConnectSetting.timeout?_isSome (hkind.symm.trans hx)⟩
    rw [newConnectParams_eq, newConnectParams_eq]
    unfold requestedEndpoint requestedTimeoutMs
    rw [lastOf_remove hendpoint, lastOf_remove htimeout]
  · intro pre post x y hkind
    have hendpoint : x.endpoint? = none ∨ y.endpoint? = none := by
      cases hx : x.isAddress with
      | true => exact .inr (ConnectSetting.endpoint?_eq_none (Bool.eq_false_iff.2 (hx ▸ hkind.symm)))
      | false => exact .inl (ConnectSetting.endpoint?_eq_none hx)
    have htimeout : x.timeout? = none ∨ y.timeout? = none := by
      cases hx : x.isAddress with
      | true => exact .inl (ConnectSetting.timeout?_eq_none hx)
      | false =>
          have hy : y.isAddress = true := Bool.eq_true_of_not_eq_false (hx ▸ hkind.symm)
          exact .inr (ConnectSetting.timeout?_eq_none hy)
    rw [newConnectParams_eq, newConnectParams_eq]
    unfold requestedEndpoint requestedTimeoutMs
    rw [lastOf_swap hendpoint, lastOf_swap htimeout]

/-- A Unix socket that a later address overrides, and a timeout before that address. -/
theorem options_last_wins_mixed :
    let socket := ConnectSetting.WithUnixSocket (ascii "/s")
    let timeout := ConnectSetting.WithTimeoutMs 5
    let address := ConnectSetting.WithAddress (ascii "h")
    newConnectParams ([socket, timeout, address].map ConnectSetting.option) =
        newConnectParams ([timeout, address].map ConnectSetting.option) ∧
      newConnectParams ([timeout, address].map ConnectSetting.option) =
        newConnectParams ([address, timeout].map ConnectSetting.option) :=
  ⟨options_last_wins.2.2.1 [] [.WithTimeoutMs 5, .WithAddress (ascii "h")] (.WithUnixSocket (ascii "/s"))
      (.WithAddress (ascii "h")) (by decide) rfl,
    options_last_wins.2.2.2 [] [] (.WithTimeoutMs 5) (.WithAddress (ascii "h")) (by decide)⟩

/-! ## The address that is contacted -/

/-- A field of `n` characters can hold `s` as a C string: its bytes, and a NUL after
    them. -/
def HoldsCString (n : ℕ) (s : GoString) : Prop :=
  ∃ a : Vector Int8 n, 0 ∈ a.toList ∧ cText (fieldBlock a) = s

theorem holdsCString_iff_fits {n : ℕ} {s : GoString} : HoldsCString n s ↔ Fits n s := by
  constructor
  · rintro ⟨a, hmem, rfl⟩
    rw [← int8ArrayString_eq_cText, int8ArrayString_eq]
    refine ⟨?_, ?_⟩
    · intro hzero
      obtain ⟨b, hb, hb0⟩ := List.mem_map.1 hzero
      have hne := List.mem_takeWhile_imp hb
      simp [toUInt8_eq_zero.1 hb0] at hne
    · rw [List.length_map]
      exact length_takeWhile_lt hmem
  · rintro ⟨hzero, hlt⟩
    have hn : 0 < n := Nat.zero_lt_of_lt hlt
    refine ⟨setInt8ArrayString (Vector.replicate n 0) s, ?_, ?_⟩
    · exact List.mem_of_getLast? (setInt8ArrayString_getLast? _ s hn)
    · rw [← int8ArrayString_eq_cText]
      exact int8ArrayString_setInt8ArrayString_eq_iff.2 ⟨hzero, .inl hlt⟩

/-- One call of `Connect` on the library `l`. -/
def connectRun (o : Oracle Answer) (l : Library) (opts : List ConnectSetting) :
    (Option FabricManager × Return) × World Library Answer :=
  (Library.Connect (opts.map ConnectSetting.option)).run o ⟨l, []⟩

/-- `fmConnect` is called for the address the options ask for and for no other, and
    an address that `AddressInfo` cannot hold is refused. -/
structure ContactsRequested (opts : List ConnectSetting)
    (out : (Option FabricManager × Return) × World Library Answer) : Prop where
  requested : ∀ e ∈ out.2.events, ∀ params, e.call = .fmConnect params →
    cText (fieldBlock params.AddressInfo) = (requestedEndpoint opts).address
  refused : ¬ HoldsCString 256 (requestedEndpoint opts).address →
    out.1.2 ≠ SUCCESS ∧ ∀ e ∈ out.2.events, ∀ params, e.call ≠ .fmConnect params

theorem connectRun_events (o : Oracle Answer) (l : Library) (opts : List ConnectSetting) :
    ∃ r, (connectRun o l opts).2.events =
      [⟨l, .fmConnect (newConnectParams (opts.map ConnectSetting.option)), r⟩] := by
  have hwp : (Library.Connect (opts.map ConnectSetting.option)).wp .recording (fun _ w => ∃ r,
      w.events = [⟨l, .fmConnect (newConnectParams (opts.map ConnectSetting.option)), r⟩])
      (⟨l, []⟩ : World Library Answer) :=
    Library.wp_ConnectWithParams fun _ r => ⟨r, rfl⟩
  exact Prog.run_of_wp hwp o

/-- What C reads from `AddressInfo`: the requested address, cut twice. -/
theorem cText_AddressInfo (opts : List ConnectSetting) :
    cText (fieldBlock (newConnectParams (opts.map ConnectSetting.option)).AddressInfo) =
      ((requestedEndpoint opts).address.take 255).takeWhile (· ≠ 0) := by
  rw [newConnectParams_eq, ← int8ArrayString_eq_cText, int8ArrayString_setInt8ArrayString]

/-- `Connect` contacts the requested address exactly when `AddressInfo` holds it. -/
theorem connect_contacts_requested_iff (o : Oracle Answer) (l : Library)
    (opts : List ConnectSetting) :
    ContactsRequested opts (connectRun o l opts) ↔
      (0 : UInt8) ∉ (requestedEndpoint opts).address ∧
        (requestedEndpoint opts).address.length < 256 := by
  obtain ⟨r, hevents⟩ := connectRun_events o l opts
  constructor
  · intro h
    by_contra hfits
    have hrefused := (h.refused (fun hholds => hfits (holdsCString_iff_fits.1 hholds))).2
    rw [hevents] at hrefused
    exact hrefused _ (List.mem_singleton_self _) _ rfl
  · intro hfits
    refine ⟨?_, fun hnot => absurd (holdsCString_iff_fits.2 hfits) hnot⟩
    rw [hevents]
    intro e he params hcall
    obtain rfl := List.mem_singleton.1 he
    cases hcall
    rw [newConnectParams_eq, ← int8ArrayString_eq_cText]
    exact int8ArrayString_setInt8ArrayString_eq_iff.2 ⟨hfits.1, .inl hfits.2⟩

/-- An address of 256 bytes: `fmConnect` is called for its first 255, and succeeds. -/
theorem connect_contacts_other :
    let opts := [ConnectSetting.WithAddress (List.replicate 256 97)]
    let out := connectRun (fun _ c => c.succeed) (Library.newLibrary []) opts
    out.1.2 = SUCCESS ∧
      (∀ e ∈ out.2.events, ∃ params, e.call = .fmConnect params ∧
        cText (fieldBlock params.AddressInfo) = List.replicate 255 97) ∧
      ¬ ContactsRequested opts out := by
  obtain ⟨r, hevents⟩ := connectRun_events (fun _ c => c.succeed) (Library.newLibrary [])
    [.WithAddress (List.replicate 256 97)]
  have haddress : (requestedEndpoint [.WithAddress (List.replicate 256 97)]).address =
      List.replicate 256 97 := rfl
  have hcut : cText (fieldBlock (newConnectParams ([ConnectSetting.WithAddress
      (List.replicate 256 97)].map ConnectSetting.option)).AddressInfo) = List.replicate 255 97 := by
    rw [cText_AddressInfo, haddress, List.take_replicate, List.takeWhile_replicate]
    rfl
  refine ⟨rfl, ?_, ?_⟩
  · rw [hevents]
    intro e he
    obtain rfl := List.mem_singleton.1 he
    exact ⟨_, rfl, hcut⟩
  · intro h
    have hsame := h.requested
    rw [hevents, haddress] at hsame
    have heq := (hsame _ (List.mem_singleton_self _) _ rfl).symm.trans hcut
    have hlen : 256 = 255 := by
      calc 256 = (List.replicate 256 (97 : UInt8)).length := List.length_replicate.symm
        _ = (List.replicate 255 (97 : UInt8)).length := congrArg List.length heq
        _ = 255 := List.length_replicate
    exact absurd hlen (by decide)

end Nvfm
