-- SUMMARY: Goroutines that share one library, each with connections of its own: which connections their handles reach.
import Nvfm.Session.Goroutines
import Nvfm.Session.Service

/-!
# Goroutines and their Connections

Connecting and the operations of a handle take no mutex: the call each of them makes
falls anywhere between the steps of the `Init` and `Shutdown` of other goroutines. When
every goroutine keeps to what it can tell from its own results, that it connects only
while it holds the library, gives back only what it holds, and uses only handles of its
own, then none of them ends the session of another, and every handle reaches the
connection it was made for.
-/

namespace Nvfm

open Go Interaction DynamicLibrary Return

variable {G : Type} [DecidableEq G]

/-! ## Turns -/

/-- What a goroutine does with the library: it calls `Init` or `Shutdown` or gets the
    result, or it connects or uses a handle, after the calls `calls`. -/
inductive Deed (G : Type) where
  | moment (m : Moment G LifecycleOp Return)
  | used (g : G) (calls : List (Event Connections Answer))
      (r : Record Connections Answer ConnectionOp ConnectionResult)

/-- The handles returned so far, all calls made so far, and what the goroutines have done. -/
structure Doings (G : Type) where
  handles : List FabricManager
  calls : List (Event Connections Answer)
  deeds : List (Deed G)

namespace Doings

/-- The library has moved on from `w` to `w'`, and the history from `h` to `h'`. -/
def moved (s : Doings G) (w w' : World Library Answer) (h h' : List (Moment G LifecycleOp Return)) :
    Doings G where
  handles := s.handles
  calls := s.calls ++ (w'.events.drop w.events.length).map
    (Event.within Connections.libLens ⟨w.mem, s.handles⟩)
  deeds := s.deeds ++ (h'.drop h.length).map .moment

/-- The goroutine `g` has connected or used a handle, from `s₀` and with the outcome `w`. -/
def used (s : Doings G) (g : G) (op : ConnectionOp) (a : ConnectionResult) (s₀ : Connections)
    (w : World Connections Answer) : Doings G where
  handles := w.mem.handles
  calls := s.calls ++ w.events
  deeds := s.deeds ++ [.used g s.calls ⟨op, a, s₀, w⟩]

end Doings

/-- Whose turn it is: a goroutine begins `Init` or `Shutdown` or goes on with it, or it
    connects or uses a handle. -/
inductive TeamTurn (G : Type) where
  | lifecycle (t : Turn G LifecycleOp)
  | use (g : G) (op : ConnectionOp)

/-- The goroutines in the middle of `Init` and `Shutdown`, and what all have done. -/
structure Team (G : Type) extends Doings G where
  callers : Concurrent G Library Answer LifecycleOp Return

namespace Team

def start (l : Library) : Team G := ⟨⟨[], [], []⟩, .start l⟩

def connections (s : Team G) : Connections := ⟨s.callers.world.mem, s.handles⟩

/-- The library moves on to `c`, with the calls and the moments this adds. -/
def move (s : Team G) (c : Concurrent G Library Answer LifecycleOp Return) : Team G :=
  ⟨s.moved s.callers.world c.world s.callers.history c.history, c⟩

/-- The goroutine `g` has connected or used a handle, with the outcome `w`. -/
def used (s : Team G) (g : G) (op : ConnectionOp) (a : ConnectionResult)
    (w : World Connections Answer) : Team G :=
  ⟨s.toDoings.used g op a s.connections w,
    { s.callers with world := { s.callers.world with mem := w.mem.lib } }⟩

/-- One turn, where `o` answers the calls of `Init` and `Shutdown`, and `o'` all others.
    A goroutine that is in one of these does nothing else. -/
def turn (o o' : Oracle Answer) (s : Team G) : TeamTurn G → Team G
  | .lifecycle t => s.move (s.callers.turn LifecycleOp.code o t)
  | .use g op =>
      match s.callers.running g, op.isLifecycle with
      | none, false =>
          let out := op.prog.run (o'.drop s.calls.length) ⟨s.connections, []⟩
          s.used g op out.1 out.2
      | _, _ => s

end Team

/-- The goroutines after a schedule, on a library value of their own. -/
def teamRun (o o' : Oracle Answer) (opts : List LibraryOption) (ts : List (TeamTurn G)) : Team G :=
  ts.foldl (Team.turn o o') (.start (Library.newLibrary opts))

theorem teamRun_concat (o o' : Oracle Answer) (opts : List LibraryOption) (ts : List (TeamTurn G))
    (t : TeamTurn G) : teamRun o o' opts (ts ++ [t]) = (teamRun o o' opts ts).turn o o' t := by
  simp [teamRun]

/-! ## Turns under the mutex -/

/-- The same with the phases of the goroutines under the mutex, in place of their programs. -/
structure GuardedTeam (G : Type) extends Doings G where
  guarded : Guarded G Library Answer LifecycleOp Return

namespace GuardedTeam

def start (l : Library) : GuardedTeam G := ⟨⟨[], [], []⟩, .start l⟩

def connections (s : GuardedTeam G) : Connections := ⟨s.guarded.world.mem, s.handles⟩

def move (s : GuardedTeam G) (c : Guarded G Library Answer LifecycleOp Return) : GuardedTeam G :=
  ⟨s.moved s.guarded.world c.world s.guarded.history c.history, c⟩

def used (s : GuardedTeam G) (g : G) (op : ConnectionOp) (a : ConnectionResult)
    (w : World Connections Answer) : GuardedTeam G :=
  ⟨s.toDoings.used g op a s.connections w,
    { s.guarded with world := { s.guarded.world with mem := w.mem.lib } }⟩

def turn (o o' : Oracle Answer) (s : GuardedTeam G) : TeamTurn G → GuardedTeam G
  | .lifecycle t => s.move (s.guarded.turn LifecycleOp.prog o t)
  | .use g op =>
      match s.guarded.phase g, op.isLifecycle with
      | .idle, false =>
          let out := op.prog.run (o'.drop s.calls.length) ⟨s.connections, []⟩
          s.used g op out.1 out.2
      | _, _ => s

/-- What the goroutines run in each phase. -/
def code (s : GuardedTeam G) : Team G := ⟨s.toDoings, s.guarded.code LifecycleOp.prog⟩

end GuardedTeam

def guardedTeamRun (o o' : Oracle Answer) (opts : List LibraryOption) (ts : List (TeamTurn G)) :
    GuardedTeam G :=
  ts.foldl (GuardedTeam.turn o o') (.start (Library.newLibrary opts))

theorem guardedTeamRun_concat (o o' : Oracle Answer) (opts : List LibraryOption)
    (ts : List (TeamTurn G)) (t : TeamTurn G) :
    guardedTeamRun o o' opts (ts ++ [t]) = (guardedTeamRun o o' opts ts).turn o o' t := by
  simp [guardedTeamRun]

/-! ## What each goroutine knows -/

namespace Deed

/-- The ledgers of the goroutines after a deed. The handles are numbered in the order in
    which they are returned, whoever gets them. -/
def note (k : G → Ledger) : Deed G → G → Ledger
  | .moment (.called _ _) => k
  | .moment (.returned g op ret) => Function.update k g ((k g).note (.lifecycle op) (.code ret))
  | .used g _ r => Function.update (fun b => (k b).skip r.result) g ((k g).next r)

/-- A goroutine calls `Shutdown` only for an `Init` of its own, connects only while it
    holds the library, and uses a handle only while its own ledger says so. -/
def Careful (k : G → Ledger) : Deed G → Prop
  | .moment (.called g .Shutdown) => 0 < (k g).count
  | .moment _ => True
  | .used g _ r => (k g).Allows r.op

instance (k : G → Ledger) : (d : Deed G) → Decidable (d.Careful k)
  | .moment (.called g .Shutdown) => inferInstanceAs (Decidable (0 < (k g).count))
  | .moment (.called _ .Init) => inferInstanceAs (Decidable True)
  | .moment (.returned _ _ _) => inferInstanceAs (Decidable True)
  | .used g _ r => inferInstanceAs (Decidable ((k g).Allows r.op))

end Deed

/-- The ledgers of the goroutines after the deeds `ds`. -/
def ledgers (ds : List (Deed G)) : G → Ledger := ds.foldl Deed.note fun _ => .start

@[simp] theorem ledgers_concat (ds : List (Deed G)) (d : Deed G) :
    ledgers (ds ++ [d]) = d.note (ledgers ds) := by
  simp [ledgers]

/-- Every goroutine is careful at each of its deeds. -/
def CarefulTeam (ds : List (Deed G)) : Prop :=
  Log.EachAfter (fun past d => d.Careful (ledgers past)) ds

instance (ds : List (Deed G)) : Decidable (CarefulTeam ds) :=
  inferInstanceAs (Decidable (Log.EachAfter _ _))

/-- The ledger of a goroutine with the result that is on its way to it. -/
def Ledger.settle (k : Ledger) : Phase Library Answer LifecycleOp Return → Ledger
  | .leaving op ret => k.note (.lifecycle op) (.code ret)
  | .idle | .waiting _ | .inside _ _ => k

def GuardedTeam.settled (s : GuardedTeam G) (g : G) : Ledger := (ledgers s.deeds g).settle (s.guarded.phase g)

/-! ## The ledgers and the service -/

/-- How the ledgers of the goroutines agree with the service, after the calls `cs` of
    `Init` and `Shutdown`: each live handle is that of an open connection, and belongs to
    one goroutine. -/
structure Served (handles : List FabricManager) (cs : List (Counted.Call G)) (x : Service)
    (k : G → Ledger) : Prop where
  counts : ∀ g, ((k g).count : ℤ) = Counted.balance g cs
  idle : ∀ g, (k g).count = 0 → (k g).live = []
  up : x.session.isSome ↔ 0 < Counted.total cs
  opened : x.opened = handles.length
  given : ∀ g, (k g).given = x.opened
  nodup : (x.live.map Prod.snd).Nodup
  named : ∀ g, ∀ i ∈ (k g).live, ∃ p, (i, p) ∈ x.live ∧ handles[i]? = some (.of p)
  apart : ∀ g b, g ≠ b → ∀ i ∈ (k g).live, i ∉ (k b).live

section Served

variable {handles : List FabricManager} {s s' : Connections} {cs : List (Counted.Call G)}
  {x x' : Service} {k : G → Ledger} {op : ConnectionOp} {a : ConnectionResult} {g : G}

theorem Served.start : Served [] ([] : List (Counted.Call G)) .start fun _ => .start where
  counts _ := rfl
  idle _ _ := rfl
  up := iff_of_false Bool.false_ne_true (Int.lt_irrefl 0)
  opened := rfl
  given _ := rfl
  nodup := List.nodup_nil
  named _ := List.forall_mem_nil _
  apart _ _ _ := List.forall_mem_nil _

/-- A goroutine that may connect or use a handle holds the library. -/
theorem Served.pos_of_allows (h : Served handles cs x k) (hop : op.isLifecycle = false)
    (hallows : (k g).Allows op) : 0 < (k g).count := by
  cases op with
  | lifecycle op => cases hop
  | Connect opts => exact hallows
  | ConnectWithParams params => exact hallows
  | handle i op =>
      refine Nat.pos_of_ne_zero ?_
      intro hzero
      have hlive := h.idle g hzero
      have hmem : i ∈ (k g).live := hallows
      rw [hlive] at hmem
      cases hmem

theorem Served.session (h : Served handles cs x k) (hd : Counted.Disciplined cs)
    (hpos : 0 < (k g).count) : x.session.isSome := by
  refine h.up.2 ?_
  calc (0 : ℤ) < (k g).count := Int.natCast_pos.2 hpos
    _ = Counted.balance g cs := h.counts g
    _ ≤ Counted.total cs := Counted.balance_le_total hd g

theorem Served.number (h : Served handles cs x k) (hallows : (k g).Allows op) {i : ℕ}
    {hop : HandleOp} (heq : op = .handle i hop) :
    ∃ p, handles[i]? = some (.of p) ∧ x.number (some p) = some i := by
  subst heq
  obtain ⟨p, hmem, hp⟩ := h.named g i hallows
  obtain ⟨live, _, hnumber⟩ := Service.number_of_live h.nodup hmem
  exact ⟨p, hp, hnumber⟩

/-- The number of a live handle has been given. -/
theorem Served.lt_given (h : Served handles cs x k) {i : ℕ} (hi : i ∈ (k g).live) (b : G) :
    i < (k b).given := by
  obtain ⟨p, _, hp⟩ := h.named g i hi
  rw [h.given b, h.opened]
  exact (List.getElem?_eq_some_iff.1 hp).1

/-- A new connection: its handle has the next number for everybody, and is live for the
    goroutine that opened it. -/
theorem Served.opens (h : Served s.handles cs x k) {live : List (ℕ × Pointer)}
    (hlive : x.session = some live) {p : Pointer} (hp : p ∉ live.map Prod.snd)
    (hpos : 0 < (k g).count) {k' : G → Ledger}
    (hledgers : ∀ b, (k' b).count = (k b).count ∧ (k' b).given = (k b).given + 1 ∧
      ∀ i, i ∈ (k' b).live → i ∈ (k b).live ∨ b = g ∧ i = (k b).given) :
    Served (s.add (some (.of p))).handles cs (x.add live p) k' := by
  have hx : x.live = live := Service.live_of_session hlive
  constructor
  case counts =>
    intro b
    rw [(hledgers b).1]
    exact h.counts b
  case idle =>
    intro b hzero
    rw [(hledgers b).1] at hzero
    refine List.eq_nil_iff_forall_not_mem.2 ?_
    intro i hi
    rcases (hledgers b).2.2 i hi with hi | ⟨rfl, _⟩
    · rw [h.idle b hzero] at hi
      cases hi
    · exact Nat.ne_of_gt hpos hzero
  case up => exact iff_of_true rfl (h.up.1 (hlive ▸ rfl))
  case opened => simp [Service.add, Connections.add, h.opened]
  case given =>
    intro b
    rw [(hledgers b).2.1]
    exact congrArg (· + 1) (h.given b)
  case nodup => exact Service.nodup_add hlive h.nodup hp
  case named =>
    intro b i hi
    rw [Service.live_add]
    simp only [Connections.add, Option.toList_some]
    rcases (hledgers b).2.2 i hi with hi | ⟨rfl, rfl⟩
    · obtain ⟨q, hmem, hq⟩ := h.named b i hi
      rw [List.getElem?_append_left (List.getElem?_eq_some_iff.1 hq).1]
      exact ⟨q, List.mem_append_left _ (hx ▸ hmem), hq⟩
    · rw [h.given b]
      refine ⟨p, List.mem_append_right _ (List.mem_singleton.2 rfl), ?_⟩
      rw [h.opened]
      exact List.getElem?_concat_length
  case apart =>
    intro b c hne i hi hi'
    rcases (hledgers b).2.2 i hi with hi | ⟨rfl, rfl⟩
    · rcases (hledgers c).2.2 i hi' with hi' | ⟨rfl, rfl⟩
      · exact h.apart b c hne i hi hi'
      · exact Nat.lt_irrefl _ (h.lt_given hi c)
    · rcases (hledgers c).2.2 _ hi' with hi' | ⟨rfl, _⟩
      · exact Nat.lt_irrefl _ (h.lt_given hi' b)
      · exact hne rfl

/-- A closed connection: its handle was live for one goroutine, and is no more. -/
theorem Served.closes (h : Served handles cs x k) {live : List (ℕ × Pointer)}
    (hlive : x.session = some live) {j : ℕ} (hj : j ∈ (k g).live) {k' : G → Ledger}
    (hledgers : ∀ b, (k' b).count = (k b).count ∧ (k' b).given = (k b).given ∧
      ∀ i, i ∈ (k' b).live → i ∈ (k b).live ∧ (b = g → i ≠ j)) :
    Served handles cs (x.remove live j) k' := by
  have hx : x.live = live := Service.live_of_session hlive
  have hkept : ∀ b i, i ∈ (k' b).live → i ∈ (k b).live := fun b i hi => ((hledgers b).2.2 i hi).1
  constructor
  case counts =>
    intro b
    rw [(hledgers b).1]
    exact h.counts b
  case idle =>
    intro b hzero
    rw [(hledgers b).1] at hzero
    refine List.eq_nil_iff_forall_not_mem.2 ?_
    intro i hi
    have hmem := hkept b i hi
    rw [h.idle b hzero] at hmem
    cases hmem
  case up => exact iff_of_true rfl (h.up.1 (hlive ▸ rfl))
  case opened => exact h.opened
  case given =>
    intro b
    rw [(hledgers b).2.1]
    exact h.given b
  case nodup => exact Service.nodup_remove hlive h.nodup j
  case named =>
    intro b i hi
    obtain ⟨hmem, hmine⟩ := (hledgers b).2.2 i hi
    have hne : i ≠ j := by
      rcases eq_or_ne b g with hb | hb
      · exact hmine hb
      · rintro rfl
        exact h.apart b g hb i hmem hj
    obtain ⟨p, hp, hhandle⟩ := h.named b i hmem
    refine ⟨p, ?_, hhandle⟩
    rw [Service.live_remove]
    exact List.mem_filter.2 ⟨hx ▸ hp, decide_eq_true hne⟩
  case apart => exact fun b c hne i hi hi' => h.apart b c hne i (hkept b i hi) (hkept c i hi')

/-- Connecting and the operations of a handle, each by one goroutine. -/
theorem Served.used (h : Served s.handles cs x k) (hallows : (k g).Allows op)
    (hpos : 0 < (k g).count) (hused : x.Used s op a s' x') (calls : List (Event Connections Answer))
    (w : World Connections Answer) :
    Served s'.handles cs x' ((Deed.used g calls ⟨op, a, s, w⟩).note k) := by
  have hmine : (Deed.used g calls ⟨op, a, s, w⟩).note k g = (k g).note op a := by
    rw [Deed.note, Function.update_self]
    rfl
  have hothers : ∀ b, b ≠ g → (Deed.used g calls ⟨op, a, s, w⟩).note k b = (k b).skip a := by
    intro b hne
    rw [Deed.note, Function.update_of_ne hne]
  cases hused with
  | kept hnote hskip =>
      have hsame : (Deed.used g calls ⟨op, a, s, w⟩).note k = k := by
        funext b
        rcases eq_or_ne b g with rfl | hne
        · rw [hmine, hnote]
        · rw [hothers b hne, hskip]
      rw [hsame]
      exact h
  | opened hlive hp hnote hskip =>
      refine h.opens hlive hp hpos ?_
      intro b
      rcases eq_or_ne b g with rfl | hne
      · rw [hmine, hnote]
        simp
      · rw [hothers b hne, hskip]
        exact ⟨rfl, rfl, fun i hi => .inl hi⟩
  | @closed live j hlive hop hnote hskip =>
      subst hop
      refine h.closes hlive hallows ?_
      intro b
      rcases eq_or_ne b g with rfl | hne
      · rw [hmine, hnote]
        simp
      · rw [hothers b hne, hskip]
        simp [hne]

/-- What a call of `Init` or `Shutdown` does to the ledgers: the counts follow the
    balances, and a goroutine that gives back its last `Init` forgets its handles. -/
theorem Served.ledgers_lifecycle (h : Served handles cs x k) {op : LifecycleOp} {ret : Return}
    {n n' : ℕ} (hd : Counted.Disciplined (cs ++ [granting g op ret]))
    (htotal : Counted.total cs = n) (hstep : Counted.Step n op.request (ret = SUCCESS) n') (b : G) :
    let k' := Function.update k g ((k g).note (.lifecycle op) (.code ret))
    ((k' b).count : ℤ) = Counted.balance b (cs ++ [granting g op ret]) ∧
      ((k' b).count = 0 → (k' b).live = []) ∧ (k' b).given = (k b).given ∧
      ∀ i, i ∈ (k' b).live → i ∈ (k b).live := by
  intro k'
  have hbalance : Counted.balance b (cs ++ [granting g op ret]) = Counted.balance b cs +
      if g = b then Counted.gain (granting g op ret) else 0 := Counted.balance_concat ..
  rw [hbalance, ← h.counts b]
  rcases eq_or_ne b g with rfl | hne
  · obtain ⟨hd', hrelease⟩ := Counted.disciplined_concat.1 hd
    have hle : (k b).count ≤ n := by
      have hmine := Counted.balance_le_total hd' b
      rw [← h.counts b, htotal] at hmine
      exact Int.ofNat_le.1 hmine
    have hpos : op.request = .release → 0 < (k b).count := by
      intro hop
      have hmine : 0 < Counted.balance b cs := hrelease hop
      rw [← h.counts b] at hmine
      exact Int.natCast_pos.1 hmine
    obtain ⟨m, hpart⟩ := hstep.part hle hpos
    have hgain : (m : ℤ) = (k b).count + Counted.gain (granting b op ret) := hpart.eq_add_gain
    have hself : k' b =
        ⟨m, (k b).given, if 0 < (k b).count ∧ m = 0 then [] else (k b).live⟩ :=
      (Function.update_self ..).trans (Ledger.note_lifecycle hpart)
    rw [hself, if_pos rfl]
    refine ⟨hgain, ?_, rfl, ?_⟩
    · intro hzero
      by_cases hheld : 0 < (k b).count
      · exact if_pos ⟨hheld, hzero⟩
      · rw [if_neg fun hend => hheld hend.1]
        exact h.idle b (Nat.eq_zero_of_not_pos hheld)
    · intro i hi
      split at hi
      · cases hi
      · exact hi
  · rw [if_neg hne.symm, Int.add_zero, show k' b = k b from Function.update_of_ne hne ..]
    exact ⟨rfl, h.idle b, rfl, fun i hi => hi⟩

/-- `Init` and `Shutdown` by one goroutine, when they take effect: the session begins before
    anybody holds the library, and ends when nobody does. -/
theorem Served.lifecycle (h : Served handles cs x k) {op : LifecycleOp} {ret : Return} {n n' : ℕ}
    (hd : Counted.Disciplined (cs ++ [granting g op ret])) (htotal : Counted.total cs = n)
    (hstep : Counted.Step n op.request (ret = SUCCESS) n') (hmoved : x.Moved n n' x') :
    Served handles (cs ++ [granting g op ret]) x'
      (Function.update k g ((k g).note (.lifecycle op) (.code ret))) := by
  have hledgers := h.ledgers_lifecycle hd htotal hstep
  generalize Function.update k g ((k g).note (.lifecycle op) (.code ret)) = k' at hledgers
  have hkept : ∀ b i, i ∈ (k' b).live → i ∈ (k b).live := fun b => (hledgers b).2.2.2
  have hgiven : ∀ b, (k' b).given = x.opened := fun b => ((hledgers b).2.2.1).trans (h.given b)
  have hapart : ∀ b c, b ≠ c → ∀ i ∈ (k' b).live, i ∉ (k' c).live :=
    fun b c hne i hi hi' => h.apart b c hne i (hkept b i hi) (hkept c i hi')
  have htotal' : Counted.total (cs ++ [granting g op ret]) = n' := by
    have hgain : (n' : ℤ) = n + Counted.gain (granting g op ret) := hstep.eq_add_gain
    rw [Counted.total_concat, htotal, hgain]
  cases hmoved with
  | kept hsame =>
      refine ⟨fun b => (hledgers b).1, fun b => (hledgers b).2.1, ?_, h.opened, hgiven, h.nodup, ?_,
        hapart⟩
      · rw [h.up, htotal, htotal', Int.natCast_pos, Int.natCast_pos]
        exact hsame
      · exact fun b i hi => h.named b i (hkept b i hi)
  | begun hzero hpos =>
      -- Nobody held the library before, so no handle was live.
      have hnone : ∀ b i, i ∉ (k' b).live := by
        intro b i hi
        have hle := Counted.balance_le_total (Counted.disciplined_concat.1 hd).1 b
        rw [← h.counts b, htotal, hzero] at hle
        have hmem := hkept b i hi
        rw [h.idle b (Nat.le_zero.1 (Int.ofNat_le.1 hle))] at hmem
        cases hmem
      refine ⟨fun b => (hledgers b).1, fun b => (hledgers b).2.1, ?_, h.opened, hgiven,
        List.nodup_nil, fun b i hi => absurd hi (hnone b i), hapart⟩
      exact iff_of_true rfl (htotal' ▸ Int.natCast_pos.2 hpos)
  | ended hpos hzero =>
      -- Nobody holds the library any more, so no handle is live.
      have hnone : ∀ b i, i ∉ (k' b).live := by
        intro b i hi
        have hle := Counted.balance_le_total hd b
        rw [← (hledgers b).1, htotal', hzero] at hle
        rw [(hledgers b).2.1 (Nat.le_zero.1 (Int.ofNat_le.1 hle))] at hi
        cases hi
      refine ⟨fun b => (hledgers b).1, fun b => (hledgers b).2.1, ?_, h.opened, hgiven,
        List.nodup_nil, fun b i hi => absurd hi (hnone b i), hapart⟩
      rw [htotal', hzero]
      exact iff_of_false Bool.false_ne_true (Int.lt_irrefl 0)

end Served

/-! ## Runs -/

/-- Connecting finds a session, and a handle the connection it was made for, in the service
    after the calls made before. -/
def Deed.Reaches : Deed G → Prop
  | .moment _ => True
  | .used _ calls r => ∃ x, service.after .start calls = some x ∧ Nvfm.Reaches x r

/-- What holds of the goroutines after every turn, beside the log of the `Init` and
    `Shutdown` that have taken effect: the service agrees with the ledgers, but for the
    calls `es` of the one under way. -/
structure InStep (o : Oracle Answer) (s : GuardedTeam G)
    (l : Log Library Answer (G × LifecycleOp) Return) : Prop where
  follows : Guarded.Follows LifecycleOp.prog o s.guarded l
  owns : Owns s.guarded l
  shares : Shares s.guarded.history
  served : ∃ x es, s.guarded.world.events = l.events ++ es ∧
    service.after .start s.calls = service.after x es ∧
    Served s.handles (requests l.records) x s.settled
  reaches : ∀ d ∈ s.deeds, d.Reaches

theorem InStep.start (o : Oracle Answer) (l : Library) :
    InStep o (.start l : GuardedTeam G) (.start l) where
  follows := .start l
  owns := ⟨trivial, fun _ hpending => nomatch hpending⟩
  shares := Log.eachAfter_nil
  served := ⟨.start, [], rfl, rfl, .start⟩
  reaches _ hmem := nomatch hmem

/-- The results of others do not depend on the result that is on its way. -/
theorem Ledger.settle_skip (k : Ledger) (a : ConnectionResult)
    (p : Phase Library Answer LifecycleOp Return) : (k.skip a).settle p = (k.settle p).skip a := by
  cases a with
  | connected fm ret =>
      cases fm with
      | none => rfl
      | some fm =>
          cases p with
          | leaving op ret' =>
              cases op with
              | Init =>
                  simp only [settle, skip, note]
                  split <;> rfl
              | Shutdown =>
                  simp only [settle, skip, note]
                  split <;> rfl
          | _ => rfl
  | _ => rfl

/-- Connecting and the operations of a handle leave the library as it is. -/
theorem ConnectionOp.Exact.lib {s : Connections} {op : ConnectionOp} {a : ConnectionResult}
    {w : World Connections Answer} (he : Exact s op a w) (hop : op.isLifecycle = false) :
    w.mem.lib = s.lib := by
  cases he with
  | lifecycle ho => cases hop
  | _ => rfl

section Turns

variable {o : Oracle Answer} {opts : List LibraryOption} {ops : List (G × LifecycleOp)} {s : GuardedTeam G}
  {g : G}

theorem GuardedTeam.settled_of_idle (hidle : s.guarded.phase g = .idle) :
    s.settled g = ledgers s.deeds g := by
  rw [GuardedTeam.settled, hidle]
  rfl

/-- Between two calls the ledger of a goroutine counts what it holds. -/
theorem InStep.held_eq {l : Log Library Answer (G × LifecycleOp) Return} (h : InStep o s l)
    (hidle : s.guarded.phase g = .idle) :
    held g s.guarded.history = (ledgers s.deeds g).count := by
  obtain ⟨x, es, _, _, hserved⟩ := h.served
  rw [held_of_idle h.follows hidle, ← hserved.counts g, GuardedTeam.settled_of_idle hidle]

/-- A goroutine that holds the library finds nobody in the middle of a call, so the service
    agrees with the ledgers. -/
theorem InStep.served_of_pos (h : InStep o s (clientsRun o opts ops)) (hlen : ops.length < 2 ^ 63)
    (hidle : s.guarded.phase g = .idle) (hpos : 0 < (s.settled g).count)
    (hrep : dlerrorReports.Accepts s.guarded.world.events) :
    s.guarded.world.events = (clientsRun o opts ops).events ∧
      ∃ x, service.after .start s.calls = some x ∧
        Served s.handles (requests (clientsRun o opts ops).records) x s.settled := by
  obtain ⟨x, es, hes, hafter, hserved⟩ := h.served
  obtain ⟨fs, hfirst⟩ := h.follows.events_prefix
  rw [← hfirst] at hrep
  have hshared := shared_of_disciplined hlen h.owns.disciplined hrep.of_append
  have hheld : 0 < held g s.guarded.history := by
    rw [h.held_eq hidle, ← GuardedTeam.settled_of_idle hidle]
    exact Int.natCast_pos.2 hpos
  have hevents := events_of_held h.follows h.owns hshared hidle hheld
  rw [hevents] at hes
  obtain rfl := List.append_right_eq_self.1 hes.symm
  exact ⟨hevents, x, hafter, hserved⟩

omit [DecidableEq G] in
/-- They leave every goroutine in its phase, too. -/
theorem GuardedTeam.used_guarded {op : ConnectionOp} {a : ConnectionResult}
    {w : World Connections Answer} (he : ConnectionOp.Exact s.connections op a w)
    (hop : op.isLifecycle = false) : (s.used g op a w).guarded = s.guarded := by
  simp only [used, he.lib hop]
  rfl

theorem InStep.used {op : ConnectionOp} {a : ConnectionResult} {w : World Connections Answer}
    (h : InStep o s (clientsRun o opts ops)) (hlen : ops.length < 2 ^ 63)
    (hidle : s.guarded.phase g = .idle) (hop : op.isLifecycle = false)
    (hallows : (ledgers s.deeds g).Allows op) (he : ConnectionOp.Exact s.connections op a w)
    (hrep : dlerrorReports.Accepts s.guarded.world.events)
    (hdoc : service.Accepts (s.calls ++ w.events)) :
    InStep o (s.used g op a w) (clientsRun o opts ops) := by
  have hguarded : (s.used g op a w).guarded = s.guarded := GuardedTeam.used_guarded he hop
  rw [← GuardedTeam.settled_of_idle hidle] at hallows
  have hpos : 0 < (s.settled g).count := by
    obtain ⟨_, _, _, _, hserved⟩ := h.served
    exact hserved.pos_of_allows hop hallows
  obtain ⟨hevents, x, hx, hserved⟩ := h.served_of_pos hlen hidle hpos hrep
  have hafter : service.after .start (s.calls ++ w.events) = service.after x w.events :=
    Protocol.after_append_of_eq hx _
  obtain ⟨x', hx'⟩ : ∃ x', service.after x w.events = some x' := by
    rw [← hafter]
    exact Option.isSome_iff_exists.1 hdoc
  have hsession : ∀ params, op.connects = some params → x.session.isSome :=
    fun _ _ => hserved.session h.owns.disciplined hpos
  have hnumber : ∀ i hop, op = .handle i hop →
      ∃ p, s.handles[i]? = some (.of p) ∧ x.number (some p) = some i :=
    fun _ _ => hserved.number hallows
  constructor
  case follows => exact hguarded ▸ h.follows
  case owns => exact hguarded ▸ h.owns
  case shares => exact hguarded ▸ h.shares
  case served =>
    have hsettled : (s.used g op a w).settled =
        (Deed.used g s.calls ⟨op, a, s.connections, w⟩).note s.settled := by
      funext b
      rw [GuardedTeam.settled, hguarded]
      simp only [GuardedTeam.used, Doings.used, ledgers_concat, Deed.note]
      rcases eq_or_ne b g with rfl | hne
      · rw [Function.update_self, Function.update_self, hidle, GuardedTeam.settled_of_idle hidle]
        rfl
      · rw [Function.update_of_ne hne, Function.update_of_ne hne]
        exact Ledger.settle_skip _ _ _
    refine ⟨x', [], ?_, hafter.trans hx', ?_⟩
    · rw [hguarded, List.append_nil]
      exact hevents
    · rw [hsettled]
      exact hserved.used hallows hpos (he.used hop hsession hnumber hx') s.calls w
  case reaches =>
    intro d hmem
    rcases List.mem_append.1 hmem with hmem | hmem
    · exact h.reaches d hmem
    · obtain rfl := List.mem_singleton.1 hmem
      exact ⟨x, hx, he.reaches hsession hnumber⟩

section Settled

variable {c : Guarded G Library Answer LifecycleOp Return}

theorem GuardedTeam.settled_move_same (hhistory : c.history = s.guarded.history) (b : G) :
    (s.move c).settled b = (ledgers s.deeds b).settle (c.phase b) := by
  simp [GuardedTeam.settled, GuardedTeam.move, Doings.moved, hhistory]

theorem GuardedTeam.settled_move_concat {m : Moment G LifecycleOp Return}
    (hhistory : c.history = s.guarded.history ++ [m]) (b : G) :
    (s.move c).settled b = ((Deed.moment m).note (ledgers s.deeds) b).settle (c.phase b) := by
  simp [GuardedTeam.settled, GuardedTeam.move, Doings.moved, hhistory]

theorem GuardedTeam.settled_call {a : G} {op : LifecycleOp} (hidle : s.guarded.phase a = .idle) :
    (s.move (s.guarded.call a op)).settled = s.settled := by
  funext b
  refine (settled_move_concat rfl b).trans ?_
  rcases eq_or_ne b a with rfl | hne
  · simp [Guarded.call, GuardedTeam.settled, hidle, Ledger.settle, Deed.note]
  · simp [Guarded.call, GuardedTeam.settled, hne, Deed.note]

theorem GuardedTeam.settled_lock {a : G} {op : LifecycleOp} (hwaiting : s.guarded.phase a = .waiting op) :
    (s.move (s.guarded.lock a op op.prog)).settled = s.settled := by
  funext b
  refine (settled_move_same (c := s.guarded.lock a op op.prog) rfl b).trans ?_
  rcases eq_or_ne b a with rfl | hne
  · simp [Guarded.lock, GuardedTeam.settled, hwaiting, Ledger.settle]
  · simp [Guarded.lock, GuardedTeam.settled, hne]

theorem GuardedTeam.settled_advance {a : G} {op : LifecycleOp} {rest rest' : Prog Library Answer Return}
    {w : World Library Answer} (hinside : s.guarded.phase a = .inside op rest) :
    (s.move (s.guarded.advance a op rest' w)).settled = s.settled := by
  funext b
  refine (settled_move_same (c := s.guarded.advance a op rest' w) rfl b).trans ?_
  rcases eq_or_ne b a with rfl | hne
  · simp [Guarded.advance, GuardedTeam.settled, hinside, Ledger.settle]
  · simp [Guarded.advance, GuardedTeam.settled, hne]

/-- An operation that takes effect is in the ledger before it returns. -/
theorem GuardedTeam.settled_unlock {a : G} {op : LifecycleOp} {rest : Prog Library Answer Return}
    {ret : Return} (hinside : s.guarded.phase a = .inside op rest) :
    (s.move (s.guarded.unlock a op ret)).settled =
      Function.update s.settled a ((s.settled a).note (.lifecycle op) (.code ret)) := by
  funext b
  refine (settled_move_same (c := s.guarded.unlock a op ret) rfl b).trans ?_
  rcases eq_or_ne b a with rfl | hne
  · simp [Guarded.unlock, GuardedTeam.settled, hinside, Ledger.settle]
  · simp [Guarded.unlock, GuardedTeam.settled, hne]

theorem GuardedTeam.settled_finish {a : G} {op : LifecycleOp} {ret : Return}
    (hleaving : s.guarded.phase a = .leaving op ret) :
    (s.move (s.guarded.finish a op ret)).settled = s.settled := by
  funext b
  refine (settled_move_concat rfl b).trans ?_
  rcases eq_or_ne b a with rfl | hne
  · simp [Guarded.finish, GuardedTeam.settled, hleaving, Ledger.settle, Deed.note]
  · simp [Guarded.finish, GuardedTeam.settled, hne, Deed.note]

end Settled

section Move

variable {l l' : Log Library Answer (G × LifecycleOp) Return}
  {c : Guarded G Library Answer LifecycleOp Return}

omit [DecidableEq G] in
/-- The service goes through the new calls from where it was. -/
theorem GuardedTeam.after_move {x : Service} {es fs : List (Event Library Answer)}
    (hafter : service.after .start s.calls = service.after x es)
    (hfs : s.guarded.world.events ++ fs = c.world.events) :
    service.after .start (s.move c).calls = service.after x (es ++ fs) := by
  simp only [GuardedTeam.move, Doings.moved, ← hfs, List.drop_left]
  rw [Protocol.after_append, Protocol.after_append, hafter]
  simp only [service_within]

/-- Goroutines that are careful give back only what they hold. -/
theorem InStep.shares_of_turned (h : InStep o s l)
    (hturned : s.guarded.Turned LifecycleOp.prog o l c l')
    (hcareful : CarefulTeam (s.move c).deeds) : Shares c.history := by
  cases hturned with
  | @called a op hidle =>
      refine h.shares.concat ?_
      intro g hm
      obtain ⟨rfl, rfl⟩ := Moment.called.inj hm
      have hdeeds : (s.move (s.guarded.call a .Shutdown)).deeds =
          s.deeds ++ [.moment (.called a .Shutdown)] := by
        simp [GuardedTeam.move, Doings.moved, Guarded.call]
      rw [hdeeds] at hcareful
      have hpos : 0 < (ledgers s.deeds a).count := hcareful s.deeds _ [] rfl
      rw [h.held_eq hidle]
      exact Int.natCast_pos.2 hpos
  | finished hleaving =>
      refine h.shares.concat ?_
      intro g hm
      cases hm
  | _ => exact h.shares

/-- An operation that takes effect: its calls are all those not in the log yet. -/
theorem InStep.served_unlock (h : InStep o s (clientsRun o opts ops))
    (hlen : ops.length + 1 < 2 ^ 63) {a : G} {op : LifecycleOp} {rest : Prog Library Answer Return}
    {ret : Return} (hinside : s.guarded.phase a = .inside op rest)
    (hstep : rest.step o s.guarded.world = .inl ret)
    (hd : Counted.Disciplined (requests
      ((clientsRun o opts ops).perform (fun x => x.2.prog) o (a, op)).records))
    (hrep : dlerrorReports.Accepts s.guarded.world.events) (hdoc : service.Accepts s.calls)
    (hclose : s.guarded.world.events.any failsToClose = false) :
    ∃ x, service.after .start s.calls = some x ∧
      s.guarded.world.events =
        ((clientsRun o opts ops).perform (fun x => x.2.prog) o (a, op)).events ∧
      Served s.handles
        (requests ((clientsRun o opts ops).perform (fun x => x.2.prog) o (a, op)).records) x
        (Function.update s.settled a ((s.settled a).note (.lifecycle op) (.code ret))) := by
  obtain ⟨w, hworld, hrun⟩ := h.follows.run_of_step hinside hstep
  have hperform : (clientsRun o opts ops).perform (fun x => x.2.prog) o (a, op) =
      (clientsRun o opts ops).append (a, op) ret w := Log.perform_of_run hrun
  have ho : op.Outcome (clientsRun o opts ops).mem ret w := by
    have hout := Prog.run_of_wp (LifecycleOp.specifies op (clientsRun o opts ops).mem)
      (o.drop (clientsRun o opts ops).events.length)
    rw [hrun] at hout
    exact hout
  have hevents : s.guarded.world.events = (clientsRun o opts ops).events ++ w.events := by
    rw [hworld]
    rfl
  rw [hperform, Log.append_records, requests_concat] at hd
  rw [hperform, Log.append_events, Log.append_records, requests_concat]
  obtain ⟨x, es, hes, hafter, hserved⟩ := h.served
  obtain rfl : es = w.events := List.append_cancel_left (hes.symm.trans hevents)
  rw [hevents] at hrep
  have hshared := shared_of_disciplined (Nat.lt_of_succ_lt hlen) h.owns.disciplined hrep.of_append
  obtain ⟨n, hl, htotal, hn⟩ := hshared.counts
  rw [clientsRun, exec_records_length] at hn
  obtain ⟨n', hw, hcounted⟩ := ho.step hl (Nat.lt_of_le_of_lt (Nat.succ_le_succ hn) hlen)
  obtain ⟨x', hx'⟩ : ∃ x', service.after x w.events = some x' := by
    rw [← hafter]
    exact Option.isSome_iff_exists.1 hdoc
  obtain ⟨b', hb'⟩ := Option.isSome_iff_exists.1 hrep
  obtain ⟨b, _, hb⟩ := Protocol.after_of_append hb'
  have hup : x.session.isSome ↔ 0 < n := by
    rw [hserved.up, htotal]
    exact Int.natCast_pos
  rw [hevents, List.any_append, Bool.or_eq_false_iff] at hclose
  refine ⟨x', hafter.trans hx', hevents, ?_⟩
  exact hserved.lifecycle hd htotal hcounted
    ((ho.reported hb).service hl hw hup hclose.2 hx')

theorem InStep.move (h : InStep o s (clientsRun o opts ops)) (hlen : ops.length + 1 < 2 ^ 63)
    (hturned : s.guarded.Turned LifecycleOp.prog o (clientsRun o opts ops) c l')
    (hcareful : CarefulTeam (s.move c).deeds) (hrep : dlerrorReports.Accepts c.world.events)
    (hdoc : service.Accepts (s.move c).calls) (hclose : c.world.events.any failsToClose = false) :
    InStep o (s.move c) l' := by
  have hshares := h.shares_of_turned hturned hcareful
  have howns := h.owns.turn h.follows hturned hshares
  constructor
  case follows => exact h.follows.turn hturned
  case owns => exact howns
  case shares => exact hshares
  case served =>
    obtain ⟨x, es, hes, hafter, hserved⟩ := h.served
    obtain ⟨fs, hfs⟩ := hturned.events
    have hes' : c.world.events = (clientsRun o opts ops).events ++ (es ++ fs) := by
      rw [← hfs, hes, List.append_assoc]
    have hquiet : (s.move c).settled = s.settled →
        ∃ x es, c.world.events = (clientsRun o opts ops).events ++ es ∧
          service.after .start (s.move c).calls = service.after x es ∧
          Served s.handles (requests (clientsRun o opts ops).records) x (s.move c).settled := by
      intro hsame
      rw [hsame]
      exact ⟨x, es ++ fs, hes', GuardedTeam.after_move hafter hfs, hserved⟩
    cases hturned with
    | stayed => exact hquiet (funext fun b => GuardedTeam.settled_move_same rfl b)
    | called op hidle => exact hquiet (GuardedTeam.settled_call hidle)
    | locked hwaiting hfree => exact hquiet (GuardedTeam.settled_lock hwaiting)
    | advanced hinside hstep => exact hquiet (GuardedTeam.settled_advance hinside)
    | finished hleaving => exact hquiet (GuardedTeam.settled_finish hleaving)
    | @unlocked a op rest ret hinside hstep =>
        have hcalls : (s.move (s.guarded.unlock a op ret)).calls = s.calls := by
          simp [GuardedTeam.move, Doings.moved, Guarded.unlock]
        rw [hcalls] at hdoc ⊢
        obtain ⟨x', hx', hevents, hserved'⟩ :=
          h.served_unlock hlen hinside hstep howns.disciplined hrep hdoc hclose
        refine ⟨x', [], ?_, hx', ?_⟩
        · rw [List.append_nil]
          exact hevents
        · rw [GuardedTeam.settled_unlock hinside]
          exact hserved'
  case reaches =>
    intro d hmem
    rcases List.mem_append.1 hmem with hmem | hmem
    · exact h.reaches d hmem
    · obtain ⟨m, _, rfl⟩ := List.mem_map.1 hmem
      exact trivial

end Move

end Turns

/-- The goroutines are careful, every failure of the loader is reported, `dlclose` does not
    fail, and C behaves as documented. -/
structure Proper (s : GuardedTeam G) : Prop where
  careful : CarefulTeam s.deeds
  reported : dlerrorReports.Accepts s.guarded.world.events
  documented : service.Accepts s.calls
  closes : s.guarded.world.events.any failsToClose = false

section Run

variable {o o' : Oracle Answer} {s : GuardedTeam G}

theorem Proper.of_prefix {s' : GuardedTeam G} (h : Proper s') (hdeeds : s.deeds <+: s'.deeds)
    (hevents : s.guarded.world.events <+: s'.guarded.world.events) (hcalls : s.calls <+: s'.calls) :
    Proper s := by
  obtain ⟨careful, reported, documented, closes⟩ := h
  obtain ⟨ds, hds⟩ := hdeeds
  obtain ⟨es, hes⟩ := hevents
  obtain ⟨fs, hfs⟩ := hcalls
  rw [CarefulTeam, ← hds] at careful
  rw [← hes] at reported closes
  rw [← hfs] at documented
  rw [List.any_append, Bool.or_eq_false_iff] at closes
  exact ⟨careful.of_append, reported.of_append, documented.of_append, closes.1⟩

/-- A goroutine connects or uses a handle only between its calls. -/
theorem GuardedTeam.turn_use (o o' : Oracle Answer) (s : GuardedTeam G) (g : G) (op : ConnectionOp) :
    s.turn o o' (.use g op) = s ∨
      s.guarded.phase g = .idle ∧ op.isLifecycle = false ∧ ∃ a w,
        ConnectionOp.Exact s.connections op a w ∧ s.turn o o' (.use g op) = s.used g op a w := by
  simp only [GuardedTeam.turn]
  split
  · next hidle hop =>
      exact .inr ⟨hidle, hop, _, _, Prog.run_of_wp (ConnectionOp.exact_specifies op s.connections) _, rfl⟩
  · exact .inl rfl

/-- The invariant of every schedule. -/
theorem inStep_of_proper {opts : List LibraryOption} {ts : List (TeamTurn G)}
    (hlen : ts.length < 2 ^ 63) (hproper : Proper (guardedTeamRun o o' opts ts)) :
    ∃ ops, ops.length ≤ ts.length ∧ InStep o (guardedTeamRun o o' opts ts) (clientsRun o opts ops) := by
  induction ts using List.reverseRecOn with
  | nil => exact ⟨[], Nat.le_refl 0, .start o (Library.newLibrary opts)⟩
  | append_singleton ts t ih =>
      rw [List.length_append] at hlen ⊢
      rw [guardedTeamRun_concat] at hproper ⊢
      generalize guardedTeamRun o o' opts ts = s at *
      cases t with
      | lifecycle t =>
          obtain ⟨_, hany⟩ := s.guarded.turned LifecycleOp.prog o (clientsRun o opts []) t
          have hbefore : Proper s :=
            hproper.of_prefix (List.prefix_append _ _) hany.events (List.prefix_append _ _)
          obtain ⟨ops, hops, h⟩ := ih (Nat.lt_of_succ_lt hlen) hbefore
          obtain ⟨l', hturned⟩ := s.guarded.turned LifecycleOp.prog o (clientsRun o opts ops) t
          have hinStep := h.move (Nat.lt_of_le_of_lt (Nat.succ_le_succ hops) hlen) hturned
            hproper.careful hproper.reported hproper.documented hproper.closes
          rcases hturned.perform with rfl | ⟨op, rfl⟩
          · exact ⟨ops, Nat.le_succ_of_le hops, hinStep⟩
          · refine ⟨ops ++ [op], ?_, ?_⟩
            · rw [List.length_append]
              exact Nat.succ_le_succ hops
            · rw [clientsRun, exec_concat]
              exact hinStep
      | use g op =>
          rcases s.turn_use o o' g op with heq | ⟨hidle, hop, a, w, he, heq⟩
          · rw [heq] at hproper ⊢
            obtain ⟨ops, hops, h⟩ := ih (Nat.lt_of_succ_lt hlen) hproper
            exact ⟨ops, Nat.le_succ_of_le hops, h⟩
          · rw [heq] at hproper ⊢
            have hbefore : Proper s :=
              hproper.of_prefix (List.prefix_append _ _) List.prefix_rfl (List.prefix_append _ _)
            obtain ⟨ops, hops, h⟩ := ih (Nat.lt_of_succ_lt hlen) hbefore
            have hallows : (ledgers s.deeds g).Allows op := hproper.careful s.deeds _ [] rfl
            refine ⟨ops, Nat.le_succ_of_le hops, ?_⟩
            exact h.used (Nat.lt_of_le_of_lt hops (Nat.lt_of_succ_lt hlen)) hidle hop hallows he
              hbefore.reported hproper.documented

end Run

/-! ## The programs of the goroutines -/

section Code

variable (o o' : Oracle Answer) (opts : List LibraryOption)

/-- The phases of the goroutines are those of a schedule of their `Init` and `Shutdown` alone. -/
theorem guarded_guardedTeamRun (ts : List (TeamTurn G)) :
    ∃ ts', (guardedTeamRun o o' opts ts).guarded =
      Guarded.schedule LifecycleOp.prog o (Library.newLibrary opts) ts' := by
  induction ts using List.reverseRecOn with
  | nil => exact ⟨[], rfl⟩
  | append_singleton ts t ih =>
      obtain ⟨ts', hguarded⟩ := ih
      rw [guardedTeamRun_concat]
      cases t with
      | lifecycle t =>
          refine ⟨ts' ++ [t], ?_⟩
          rw [Guarded.schedule_concat, ← hguarded]
          rfl
      | use g op =>
          refine ⟨ts', ?_⟩
          rw [← hguarded]
          rcases (guardedTeamRun o o' opts ts).turn_use o o' g op with heq | ⟨_, hop, a, w, he, heq⟩
          · rw [heq]
          · rw [heq, GuardedTeam.used_guarded he hop]

theorem GuardedTeam.code_turn {s : GuardedTeam G}
    (hheld : ∀ g op rest, s.guarded.phase g = .inside op rest → s.guarded.owner.isSome)
    (t : TeamTurn G) : s.code.turn o o' t = (s.turn o o' t).code := by
  cases t with
  | lifecycle t =>
      have hturn : s.code.callers.turn LifecycleOp.code o t =
          (s.guarded.turn LifecycleOp.prog o t).code LifecycleOp.prog := by
        rw [← Guarded.code_turn hheld, ← funext LifecycleOp.code_eq]
        rfl
      simp only [Team.turn, hturn]
      rfl
  | use g op =>
      have hrunning : s.code.callers.running g = (s.guarded.phase g).code LifecycleOp.prog := rfl
      simp only [Team.turn, turn, hrunning]
      cases s.guarded.phase g <;> cases op.isLifecycle <;> rfl

/-- The goroutines run the programs of their phases. -/
theorem teamRun_eq (ts : List (TeamTurn G)) :
    teamRun o o' opts ts = (guardedTeamRun o o' opts ts).code := by
  induction ts using List.reverseRecOn with
  | nil => rfl
  | append_singleton ts t ih =>
      obtain ⟨ts', hguarded⟩ := guarded_guardedTeamRun o o' opts ts
      obtain ⟨ops, hfollows⟩ := Guarded.follows_schedule LifecycleOp.prog o (Library.newLibrary opts) ts'
      rw [← hguarded] at hfollows
      rw [teamRun_concat, guardedTeamRun_concat, ih, GuardedTeam.code_turn o o' hfollows.held]

end Code

/-- Goroutines that each connect only while they hold the library, and use only their own
    handles, each between its `Connect` and its `Disconnect`, never get in each other's
    way: in every interleaving each `fmConnect` is made in a session, and each operation of
    the handle `i` reaches the connection `i`. -/
theorem goroutines_reach_their_connections (o o' : Oracle Answer) (opts : List LibraryOption)
    (ts : List (TeamTurn G)) (hlen : ts.length < 2 ^ 63)
    (hcareful : CarefulTeam (teamRun o o' opts ts).deeds)
    (hrep : dlerrorReports.Accepts (teamRun o o' opts ts).callers.world.events)
    (hdoc : service.Accepts (teamRun o o' opts ts).calls)
    (hclose : (teamRun o o' opts ts).callers.world.events.any failsToClose = false) :
    ∀ d ∈ (teamRun o o' opts ts).deeds, d.Reaches := by
  rw [teamRun_eq o o' opts ts] at hcareful hrep hdoc hclose ⊢
  obtain ⟨ops, _, h⟩ := inStep_of_proper hlen ⟨hcareful, hrep, hdoc, hclose⟩
  exact h.reaches

/-- Everything succeeds, and the sixth call, when it connects, gets a handle of its own. -/
def alternatingHandles : Oracle Answer
  | 5, .fmConnect _ => (SUCCESS, some ⟨.ofNat 2, by decide⟩)
  | _, c => c.succeed

/-- The goroutine `g` calls `op` and goes on with it for `n` turns. -/
def TeamTurn.through (g : G) (op : LifecycleOp) (n : ℕ) : List (TeamTurn G) :=
  lifecycle (.call g op) :: List.replicate n (lifecycle (.go g))

/-- Two goroutines: the second connects at the address the first has given up, and uses its
    handle while the first is in the middle of its `Shutdown`. -/
def teamSchedule : List (TeamTurn Bool) :=
  TeamTurn.through false .Init 16 ++ [.use false (.Connect [])] ++
    TeamTurn.through true .Init 5 ++
    [.use true (.Connect []), .use false (.handle 0 .Disconnect), .use true (.Connect [])] ++
    TeamTurn.through false .Shutdown 2 ++
    [.use true (.handle 2 (.ActivateFabricPartition 3))]

theorem goroutines_reach_their_connections_shared :
    let s := teamRun (fun _ c => c.succeed) alternatingHandles [] teamSchedule
    s.handles.length = 3 ∧ ∀ d ∈ s.deeds, d.Reaches := by
  refine ⟨rfl, ?_⟩
  exact goroutines_reach_their_connections _ _ _ _ (by decide) (by decide) (by decide) (by decide)
    (by decide)

end Nvfm
