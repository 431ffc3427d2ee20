-- SUMMARY: What the loader and C may rely on in every interleaving of the whole API: pinned threads and well-formed arguments.
import Nvfm.Bindings.Header
import Nvfm.Library.Address
import Nvfm.Library.Slices
import Nvfm.Library.Package
import Nvfm.Session.Connections
import Nvfm.Interaction.Interleaving

/-!
# The Discipline of Calls

Any goroutines call the API in any order, with no lock between them. What a call
passes on does not depend on what others do to the memory, so each operation is
checked alone, against a memory and answers of any kind. The check counts how often
the goroutine is pinned to its thread.
-/

namespace Nvfm

open Go Interaction Prog DynamicLibrary Return

/-! ## What a call needs -/

/-- How often a goroutine is pinned after a call. -/
def Call.pins (n : ℕ) : Call → ℕ
  | lockOSThread => n + 1
  | unlockOSThread => n - 1
  | _ => n

/-- The calls that set or read the error of their thread, or unpin from it. -/
def Call.needsThread : Call → Bool
  | dlerror | unlockOSThread => true
  | c => c.isLoader

/-- A goroutine that is pinned `n` times may make the call. -/
structure Call.Allowed (n : ℕ) (c : Call) : Prop where
  wellFormed : c.WellFormed
  pinned : c.needsThread = true → 0 < n

/-- The environment that knows how often its goroutine is pinned, and nothing else. -/
def Env.pinned (σ : Type) : Env σ Answer ℕ where
  get n _ n' := n' = n
  modify n _ n' := n' = n
  ready n c := c.Allowed n
  call n c _ n' := n' = c.pins n

/-- The program only makes calls that are allowed, and leaves its goroutine pinned as
    often as before. -/
def Steady {σ α : Type} (n : ℕ) (p : Prog σ Answer α) : Prop :=
  p.wp (Env.pinned σ) (fun _ n' => n' = n) n

/-! ## Rules -/

section Rules

variable {σ τ α β : Type} {n : ℕ}

theorem steady_pure (a : α) : Steady n (pure a : Prog σ Answer α) := rfl

theorem steady_bind {p : Prog σ Answer α} {f : α → Prog σ Answer β} (hp : Steady n p)
    (hf : ∀ a, Steady n (f a)) : Steady n (p >>= f) := by
  refine wp_bind.2 (wp_mono ?_ hp)
  rintro a _ rfl
  exact hf a

theorem steady_load : Steady n (load : Prog σ Answer σ) := by
  rintro s _ rfl
  rfl

theorem steady_update (f : σ → σ) : Steady n (update f : Prog σ Answer Unit) := by
  rintro _ rfl
  rfl

/-- A call that does not pin or unpin. -/
theorem steady_invoke {c : Call} (hallowed : c.Allowed n) (hpins : c.pins n = n) :
    Steady n (invoke c : Prog σ Answer (Answer c)) := by
  refine ⟨hallowed, ?_⟩
  rintro r _ rfl
  exact hpins

/-- A call of a function of `libnvfm.so` needs no thread. -/
theorem steady_fm {c : Call} (hfm : c.isFm = true) (hc : c.WellFormed) :
    Steady n (invoke c : Prog σ Answer (Answer c)) := by
  have hneeds : c.needsThread = false := by
    cases c <;> first | rfl | cases hfm
  have hpins : c.pins n = n := by
    cases c <;> first | rfl | cases hfm
  refine steady_invoke ⟨hc, ?_⟩ hpins
  intro h
  rw [hneeds] at h
  cases h

theorem steady_zoom (l : Lens σ τ) {p : Prog τ Answer α} (h : Steady n p) : Steady n (p.zoom l) := by
  unfold Steady at *
  generalize (fun (_ : α) n' => n' = n) = Q at h ⊢
  induction p generalizing n with
  | ret a => exact h
  | get k ih =>
      rintro s _ rfl
      exact ih _ (h _ _ rfl)
  | modify f k ih =>
      rintro _ rfl
      exact ih (h _ rfl)
  | call e k ih =>
      refine ⟨h.1, ?_⟩
      rintro r _ rfl
      exact ih r (h.2 r _ rfl)

/-- An action that is steady while pinned is steady with the pinning around it. -/
theorem steady_withOSLock {action : Prog σ Answer (GoError GoString)} (h : Steady (n + 1) action) :
    Steady n (withOSLock action) := by
  unfold withOSLock
  simp only [invoke_bind]
  refine ⟨⟨trivial, fun hneeds => nomatch hneeds⟩, ?_⟩
  rintro _ _ rfl
  refine wp_bind.2 (wp_mono ?_ h)
  rintro err _ rfl
  refine ⟨⟨trivial, fun _ => Nat.succ_pos n⟩, ?_⟩
  rintro _ _ rfl
  rfl

end Rules

/-! ## The loader -/

section Loader

variable {n : ℕ}

theorem steady_dlError {σ : Type} : Steady (n + 1) (dlError : Prog σ Answer (GoError GoString)) :=
  steady_bind (steady_invoke ⟨trivial, fun _ => Nat.succ_pos n⟩ rfl) fun _ => steady_pure _

theorem steady_Open : Steady n (Open : Prog DynamicLibrary Answer (GoError GoString)) := by
  refine steady_bind steady_load fun dl => steady_withOSLock ?_
  refine steady_bind steady_load fun dl' => ?_
  refine steady_bind (steady_invoke ⟨trivial, fun _ => Nat.succ_pos n⟩ rfl) fun handle => ?_
  cases handle with
  | none => exact steady_dlError
  | some h => exact steady_bind (steady_update _) fun _ => steady_pure _

theorem steady_Close : Steady n (Close : Prog DynamicLibrary Answer (GoError GoString)) := by
  refine steady_bind steady_load fun dl => ?_
  split
  · exact steady_pure _
  · refine steady_withOSLock (steady_bind steady_load fun dl' => ?_)
    refine steady_bind (steady_invoke ⟨trivial, fun _ => Nat.succ_pos n⟩ rfl) fun status => ?_
    split
    · exact steady_dlError
    · exact steady_bind (steady_update _) fun _ => steady_pure _

theorem steady_Lookup (symbol : GoString) :
    Steady n (Lookup symbol : Prog DynamicLibrary Answer (GoError GoString)) := by
  refine steady_withOSLock (steady_bind steady_dlError fun _ => ?_)
  refine steady_bind steady_load fun dl => ?_
  refine steady_bind (steady_invoke ⟨trivial, fun _ => Nat.succ_pos n⟩ rfl) fun pointer => ?_
  cases pointer with
  | none => exact steady_bind steady_dlError fun _ => steady_pure _
  | some p => exact steady_pure _

end Loader

/-! ## The library -/

section Library

variable {n : ℕ}

theorem steady_Init : Steady n Library.Init := by
  refine steady_bind steady_load fun l => ?_
  split
  · exact steady_bind (steady_update _) fun _ => steady_pure _
  · refine steady_bind (steady_zoom _ steady_Open) fun err => ?_
    split
    · exact steady_pure _
    · refine steady_bind (steady_fm rfl trivial) fun ret => ?_
      split
      · exact steady_bind (steady_zoom _ steady_Close) fun _ => steady_pure _
      · exact steady_bind (steady_update _) fun _ => steady_pure _

theorem steady_Shutdown : Steady n Library.Shutdown := by
  refine steady_bind steady_load fun l => ?_
  split
  · exact steady_pure _
  · refine steady_bind steady_load fun l' => ?_
    split
    · exact steady_bind (steady_update _) fun _ => steady_pure _
    · refine steady_bind (steady_fm rfl trivial) fun ret => ?_
      split
      · exact steady_pure _
      · refine steady_bind (steady_zoom _ steady_Close) fun err => ?_
        split
        · exact steady_pure _
        · exact steady_bind (steady_update _) fun _ => steady_pure _

theorem steady_SetLibraryOptions (opts : List LibraryOption) :
    Steady n (Library.SetLibraryOptions opts) := by
  refine steady_bind steady_load fun l => ?_
  split
  · exact steady_pure _
  · exact steady_bind (steady_update _) fun _ => steady_pure _

theorem steady_LookupSymbol (name : GoString) : Steady n (Library.LookupSymbol name) := by
  refine steady_bind steady_load fun l => ?_
  simp only
  split
  · exact steady_pure _
  · exact steady_zoom _ (steady_Lookup name)

theorem steady_ConnectWithParams {σ : Type} {params : ConnectParams} (h : params.WellFormed) :
    Steady n (Library.ConnectWithParams params : Prog σ Answer _) := by
  refine steady_bind (steady_fm rfl h) fun answer => ?_
  split
  · exact steady_pure _
  · split
    · exact steady_pure _
    · exact steady_pure _

/-- The parameters that options of the package make up. -/
theorem newConnectParams_wellFormed (opts : List ConnectSetting) :
    (newConnectParams (opts.map ConnectSetting.option)).WellFormed := by
  rw [newConnectParams_eq]
  constructor
  case version => exact ConnectParamsVersion_eq
  case terminated =>
    exact List.mem_of_getLast? (setInt8ArrayString_getLast? _ _ (by decide))
  case addressType =>
    cases (requestedEndpoint opts).unix with
    | true => simp [addrTypes]
    | false => simp [addrTypes]
  case unixSocket =>
    cases (requestedEndpoint opts).unix with
    | true => rfl
    | false => rfl

end Library

/-! ## Handles -/

section Handles

variable {n : ℕ} {σ : Type}

/-- The call of an operation is well formed, whatever its handle and arguments. -/
theorem HandleOp.wellFormed {fm : FabricManager} {op : HandleOp} {c : Call} (hc : op.call fm = some c) :
    c.WellFormed ∧ c.isFm = true := by
  cases op with
  | ActivateFabricPartitionWithVFs id vfs =>
      simp only [call] at hc
      split at hc
      · cases hc
      · next hlen =>
          cases hc
          have hcount : vfs.length.toUInt32.toNat = vfs.length :=
            toNat_length (Nat.le_of_not_lt hlen) (by decide)
          refine ⟨⟨?_, ?_, ?_⟩, rfl⟩
          · rw [hcount]
            split
            · next hnil => exact hnil
            · rfl
          · rw [hcount]
            exact Nat.le_of_not_lt hlen
          · rw [← UInt32.toNat_inj, hcount]
            split
            · next hnil => simp [hnil]
            · next hne => simpa using hne
  | SetActivatedFabricPartitions ids =>
      simp only [call] at hc
      split at hc
      · cases hc
      · next hlen =>
          cases hc
          refine ⟨⟨ActivatedFabricPartitionListVersion_eq, ?_⟩, rfl⟩
          have hle := Nat.le_of_not_lt hlen
          have hcount : ids.length.toUInt32.toNat = ids.length := toNat_length hle (by decide)
          exact hcount.trans_le hle
  | GetSupportedFabricPartitions =>
      cases hc
      exact ⟨FabricPartitionListVersion_eq, rfl⟩
  | GetUnsupportedFabricPartitions =>
      cases hc
      exact ⟨UnsupportedFabricPartitionListVersion_eq, rfl⟩
  | GetNvlinkFailedDevices =>
      cases hc
      exact ⟨NvlinkFailedDevicesVersion_eq, rfl⟩
  | Disconnect =>
      cases hc
      exact ⟨trivial, rfl⟩
  | ActivateFabricPartition id =>
      cases hc
      exact ⟨trivial, rfl⟩
  | DeactivateFabricPartition id =>
      cases hc
      exact ⟨trivial, rfl⟩

/-- An operation that makes its call and returns something. -/
theorem steady_of_call (fm : FabricManager) (op : HandleOp) {c : Call} (hc : op.call fm = some c)
    (f : Answer c → HandleResult) :
    Steady n (Prog.call c fun r => .ret (f r) : Prog σ Answer HandleResult) := by
  obtain ⟨hwf, hfm⟩ := HandleOp.wellFormed hc
  exact steady_bind (steady_fm hfm hwf) fun r => steady_pure (f r)

theorem steady_handle (fm : FabricManager) (op : HandleOp) :
    Steady n (op.prog fm : Prog σ Answer HandleResult) := by
  cases op with
  | ActivateFabricPartitionWithVFs id vfs =>
      simp only [HandleOp.prog, FabricManager.ActivateFabricPartitionWithVFs]
      split
      · exact steady_pure _
      · next hlen =>
          split
          · next hnil =>
              have hcall : HandleOp.call fm (.ActivateFabricPartitionWithVFs id vfs) =
                  some (.fmActivateFabricPartitionWithVFs fm.handle id none 0) := by
                simp [HandleOp.call, hnil]
              exact steady_of_call fm _ hcall .plain
          · next hne =>
              have hcall : HandleOp.call fm (.ActivateFabricPartitionWithVFs id vfs) =
                  some (.fmActivateFabricPartitionWithVFs fm.handle id (some vfs)
                    vfs.length.toUInt32) := by
                rw [HandleOp.call, if_neg hlen, if_neg hne]
              exact steady_of_call fm _ hcall .plain
  | SetActivatedFabricPartitions ids =>
      simp only [HandleOp.prog, FabricManager.SetActivatedFabricPartitions]
      split
      · exact steady_pure _
      · next hlen =>
          have hcall : HandleOp.call fm (.SetActivatedFabricPartitions ids) =
              some (.fmSetActivatedFabricPartitions fm.handle
                (FabricManager.activatedList ids (Nat.le_of_not_lt hlen))) := by
            rw [HandleOp.call, dif_neg hlen]
          exact steady_of_call fm _ hcall .plain
  | Disconnect => exact steady_of_call fm .Disconnect rfl .plain
  | GetSupportedFabricPartitions =>
      exact steady_of_call fm .GetSupportedFabricPartitions rfl fun r => .supported r.2 r.1
  | GetUnsupportedFabricPartitions =>
      exact steady_of_call fm .GetUnsupportedFabricPartitions rfl fun r => .unsupported r.2 r.1
  | ActivateFabricPartition id =>
      exact steady_of_call fm (.ActivateFabricPartition id) rfl .plain
  | DeactivateFabricPartition id =>
      exact steady_of_call fm (.DeactivateFabricPartition id) rfl .plain
  | GetNvlinkFailedDevices =>
      exact steady_of_call fm .GetNvlinkFailedDevices rfl fun r => .failed r.2 r.1

end Handles

/-! ## The API -/

/-- A call of the package: on the library, to connect, or on the `i`-th handle. -/
inductive ApiOp where
  | lifecycle (op : LifecycleOp)
  | SetLibraryOptions (opts : List LibraryOption)
  | LookupSymbol (name : GoString)
  | Connect (opts : List ConnectSetting)
  | ConnectWithParams (params : { params : ConnectParams // params.WellFormed })
  | handle (i : ℕ) (op : HandleOp)

abbrev ApiResult := ConnectionResult ⊕ GoError GoString

def ApiOp.prog : ApiOp → Prog Connections Answer ApiResult
  | lifecycle op => do return .inl (← (ConnectionOp.lifecycle op).prog)
  | SetLibraryOptions opts => do
      return .inr (← (Library.SetLibraryOptions opts).zoom Connections.libLens)
  | LookupSymbol name => do return .inr (← (Library.LookupSymbol name).zoom Connections.libLens)
  | Connect opts => do
      return .inl (← (ConnectionOp.Connect (opts.map ConnectSetting.option)).prog)
  | ConnectWithParams params => do return .inl (← (ConnectionOp.ConnectWithParams params.1).prog)
  | handle i op => do return .inl (← (ConnectionOp.handle i op).prog)

theorem steady_connects {n : ℕ} {params : ConnectParams} (h : params.WellFormed) :
    Steady n (ConnectionOp.ConnectWithParams params).prog := by
  refine steady_bind (steady_ConnectWithParams h) fun answer => ?_
  exact steady_bind (steady_update _) fun _ => steady_pure _

theorem steady_api (op : ApiOp) {n : ℕ} : Steady n op.prog := by
  cases op with
  | lifecycle op =>
      have hop : Steady n op.prog := by
        cases op with
        | Init => exact steady_Init
        | Shutdown => exact steady_Shutdown
      exact steady_bind (steady_bind (steady_zoom _ hop) fun _ => steady_pure _) fun _ => steady_pure _
  | SetLibraryOptions opts =>
      exact steady_bind (steady_zoom _ (steady_SetLibraryOptions opts)) fun _ => steady_pure _
  | LookupSymbol name =>
      exact steady_bind (steady_zoom _ (steady_LookupSymbol name)) fun _ => steady_pure _
  | Connect opts =>
      exact steady_bind (steady_connects (newConnectParams_wellFormed opts)) fun _ => steady_pure _
  | ConnectWithParams params => exact steady_bind (steady_connects params.2) fun _ => steady_pure _
  | handle i op =>
      refine steady_bind (steady_bind steady_load fun s => ?_) fun _ => steady_pure _
      split
      · exact steady_pure _
      · exact steady_bind (steady_handle _ op) fun _ => steady_pure _

/-! ## Goroutines -/

/-- The memory all goroutines share, and how often each is pinned to its thread. -/
structure Machine (G : Type) where
  mem : Connections
  pins : G → ℕ

namespace Machine

variable {G : Type}

def start (mem : Connections) : Machine G := ⟨mem, fun _ => 0⟩

variable [DecidableEq G]

/-- Any goroutine reads and updates the memory at any time, and gets any answer. -/
def env (g : G) : Env Connections Answer (Machine G) where
  get m s m' := s = m.mem ∧ m' = m
  modify m f m' := m' = { m with mem := f m.mem }
  ready m c := c.Allowed (m.pins g)
  call m c _ m' := m' = { m with pins := Function.update m.pins g (c.pins (m.pins g)) }

/-- What a goroutine knows for certain. -/
def view (g : G) (m : Machine G) : ℕ := m.pins g

theorem simulates (g : G) : ((env g).seen (fun _ => True) (view g)).Simulates (Env.pinned Connections)
    (fun l n => l.view = n) where
  get := by
    rintro l _ s _ rfl ⟨m, _, _, hview, ⟨rfl, rfl⟩, rfl⟩
    exact ⟨_, rfl, hview⟩
  modify := by
    rintro l _ f _ rfl ⟨m, _, _, hview, rfl, rfl⟩
    exact ⟨_, rfl, hview⟩
  ready := by
    rintro l _ c rfl hready m _ hview
    rw [← hview] at hready
    exact hready
  call := by
    rintro l _ c r _ rfl _ ⟨m, _, _, hview, rfl, rfl⟩
    refine ⟨_, rfl, ?_⟩
    rw [← hview]
    exact Function.update_self ..

end Machine

/-- The goroutines `G`, each with calls of the API one after the other. -/
def apiCallers (G : Type) [DecidableEq G] :
    System G Connections (Machine G) Answer ApiOp ApiResult where
  prog _ := ApiOp.prog
  env := Machine.env

section Callers

variable {G : Type} [DecidableEq G]

theorem apiCallers_isolates : (apiCallers G).Isolates (fun _ => True) Machine.view where
  get := by
    rintro g m s _ _ ⟨_, rfl⟩
    exact ⟨trivial, fun _ _ => rfl⟩
  modify := by
    rintro g m f _ _ rfl
    exact ⟨trivial, fun _ _ => rfl⟩
  call := by
    rintro g m c r _ _ _ rfl
    exact ⟨trivial, fun b hb => Function.update_of_ne hb ..⟩

/-- Between two calls a goroutine is not pinned. -/
theorem apiCallers_restores :
    (apiCallers G).Restores (fun _ => True) Machine.view (fun _ n _ => n = 0) := by
  rintro g op _ past rfl
  refine wp_simulates (Machine.simulates g) (k := 0) rfl ?_
  refine wp_mono ?_ (steady_api op)
  rintro r _ rfl l hl
  exact hl

/-- In every interleaving of any calls of the API, whatever the loader and C answer, each
    call is made with well-formed arguments; those that touch the error of a thread are
    made while their goroutine is pinned; and between two calls no goroutine is. -/
theorem api_calls_disciplined (mem : Connections)
    {c : Config G Connections (Machine G) Answer ApiOp ApiResult}
    (hc : (apiCallers G).Reachable (Machine.start mem) c) :
    (∀ g, ∀ x ∈ c.actions g,
      x.call.WellFormed ∧ (x.call.needsThread = true → 0 < x.before.pins g)) ∧
    ∀ g, c.running g = none → c.shared.pins g = 0 := by
  have h := System.keeps_of_reachable apiCallers_isolates apiCallers_restores
    (g := Machine.start mem) trivial (fun _ => rfl) hc
  refine ⟨?_, fun g hidle => (h.agents g).idle hidle⟩
  intro g x hx
  have hallowed : x.call.Allowed (x.before.pins g) := (h.agents g).ready x hx
  exact ⟨hallowed.wellFormed, hallowed.pinned⟩

end Callers

/-- A goroutine connects while another one is pinned in the middle of its `Init`. -/
theorem api_calls_disciplined_pair :
    ∃ c : Config Bool Connections (Machine Bool) Answer ApiOp ApiResult,
      (c.shared.pins true = 1 ∧ (c.actions false).map (·.call) = [.fmConnect (newConnectParams [])]) ∧
      (∀ g, ∀ x ∈ c.actions g,
        x.call.WellFormed ∧ (x.call.needsThread = true → 0 < x.before.pins g)) ∧
      ∀ g, c.running g = none → c.shared.pins g = 0 := by
  have h0 : (apiCallers Bool).Reachable (Machine.start ⟨libnvfm, []⟩) _ := .refl
  have h1 := h0.tail (.begin (a := true) (.lifecycle .Init) rfl)
  have h2 := h1.tail (.get (a := true) rfl ⟨rfl, rfl⟩)
  have h3 := h2.tail (.get (a := true) rfl ⟨rfl, rfl⟩)
  have h4 := h3.tail (.call (a := true) (r := ()) rfl rfl)
  have h5 := h4.tail (.begin (a := false) (.Connect []) rfl)
  have h6 := h5.tail (.call (a := false) (r := (SUCCESS, none)) rfl rfl)
  exact ⟨_, ⟨rfl, rfl⟩, api_calls_disciplined ⟨libnvfm, []⟩ h6⟩

end Nvfm
