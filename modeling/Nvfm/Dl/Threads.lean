-- SUMMARY: Goroutines that share threads: pinning, and the message dlerror keeps for each thread.
import Nvfm.Dl.DynamicLibrary
import Nvfm.Interaction.Interleaving

/-!
# Threads

`dlerror` keeps one message for each thread, and the scheduler moves goroutines
from thread to thread. A goroutine that is pinned to its thread reads the message
its own last failure left there: no other goroutine runs on that thread.
-/

namespace Nvfm

open Go Interaction Prog DynamicLibrary

/-- A message of `dlerror`, numbered by the messages set before it. -/
structure Message where
  text : GoString
  number : ℕ

/-- The loaded libraries, the message waiting on each thread, the thread of each
    pinned goroutine and how often it is pinned, and all messages ever set, the
    last one first. -/
structure Threads (G T D : Type) where
  mem : D → DynamicLibrary
  slot : T → Option Message
  thread : G → T
  locks : G → ℕ
  messages : List Message

namespace Threads

variable {G T D : Type}

/-- No goroutine is pinned, and no message is waiting. -/
def start (mem : D → DynamicLibrary) (thread : G → T) : Threads G T D where
  mem := mem
  slot _ := none
  thread := thread
  locks _ := 0
  messages := []

/-- The scheduler may run the goroutine `g` on the thread `t`: a pinned goroutine
    stays on its thread, and any other runs on a thread nobody is pinned to. -/
def RunsOn (s : Threads G T D) (g : G) (t : T) : Prop :=
  if s.locks g = 0 then ∀ h, s.locks h ≠ 0 → s.thread h ≠ t else s.thread g = t

variable [DecidableEq G] [DecidableEq T]

/-- `runtime.LockOSThread` of `g` on the thread `t`. -/
def lock (s : Threads G T D) (g : G) (t : T) : Threads G T D :=
  { s with
    thread := Function.update s.thread g t
    locks := Function.update s.locks g (s.locks g + 1) }

/-- `runtime.UnlockOSThread` of `g`. -/
def unlock (s : Threads G T D) (g : G) : Threads G T D :=
  { s with locks := Function.update s.locks g (s.locks g - 1) }

/-- A loader call on the thread `t` fails with the message `text`. -/
def fail (s : Threads G T D) (t : T) (text : GoString) : Threads G T D :=
  { s with
    slot := Function.update s.slot t (some ⟨text, s.messages.length⟩)
    messages := ⟨text, s.messages.length⟩ :: s.messages }

/-- `dlerror` on the thread `t` clears the message. -/
def clear (s : Threads G T D) (t : T) : Threads G T D :=
  { s with slot := Function.update s.slot t none }

/-- One call of the goroutine `g` on the thread `t`. A call that succeeds leaves an
    older message where it is. -/
inductive Called (g : G) (t : T) (s : Threads G T D) :
    (e : Call) → Call.Answer Message e → Threads G T D → Prop where
  | lockOSThread : Called g t s .lockOSThread () (s.lock g t)
  | unlockOSThread : Called g t s .unlockOSThread () (s.unlock g)
  | dlopen {name : CharBlock} {flags : Int32} (h : Pointer) : Called g t s (.dlopen name flags) (some h) s
  | dlopenFailed {name : CharBlock} {flags : Int32} (text : GoString) :
      Called g t s (.dlopen name flags) none (s.fail t text)
  | dlclose {handle : Option Pointer} : Called g t s (.dlclose handle) (0 : Int32) s
  | dlcloseFailed {handle : Option Pointer} {status : Int32} (hst : status ≠ 0) (text : GoString) :
      Called g t s (.dlclose handle) status (s.fail t text)
  | dlsym {handle : Option Pointer} {symbol : CharBlock} (p : Pointer) :
      Called g t s (.dlsym handle symbol) (some p) s
  /-- A symbol that exists and has the value nil. -/
  | dlsymNil {handle : Option Pointer} {symbol : CharBlock} : Called g t s (.dlsym handle symbol) none s
  | dlsymFailed {handle : Option Pointer} {symbol : CharBlock} (text : GoString) :
      Called g t s (.dlsym handle symbol) none (s.fail t text)
  | dlerror : Called g t s .dlerror (s.slot t) (s.clear t)
  | fm {e : Call} (hfm : e.isFm = true) (r : Call.Answer Message e) : Called g t s e r s

/-- The environment of the goroutine `g`: before each step the scheduler picks a
    thread. -/
def env (g : G) : Env (D → DynamicLibrary) (Call.Answer Message) (Threads G T D) where
  get s m s' := m = s.mem ∧ s' = s
  modify s f s' := s' = { s with mem := f s.mem }
  ready _ _ := True
  call s e r s' := ∃ t, s.RunsOn g t ∧ Called g t s e r s'

/-- The message a call set. -/
def raised (x : Action (Threads G T D) (Call.Answer Message)) : Option Message :=
  if x.after.messages.length = x.before.messages.length then none else x.after.messages.head?

/-- The loader call succeeded. -/
def succeeded (x : Action (Threads G T D) (Call.Answer Message)) : Bool :=
  match x with
  | ⟨_, .dlopen _ _, handle, _⟩ => handle.isSome
  | ⟨_, .dlclose _, status, _⟩ => status = 0
  | ⟨_, .dlsym _ _, pointer, _⟩ => pointer.isSome
  | _ => false

end Threads

/-! ## What one goroutine sees -/

namespace Threads

variable {G T D : Type} {s : Threads G T D} {g : G} {t : T}

/-- The message waiting on the thread of `g`, while `g` is pinned to it. -/
def view (g : G) (s : Threads G T D) : Option (Option Message) :=
  if s.locks g = 0 then none else some (s.slot (s.thread g))

/-- No two goroutines are pinned to one thread. -/
def Exclusive (s : Threads G T D) : Prop :=
  ∀ g h, s.locks g ≠ 0 → s.locks h ≠ 0 → s.thread g = s.thread h → g = h

/-- What holds of the threads throughout a run. -/
structure Sound (s : Threads G T D) : Prop where
  exclusive : s.Exclusive
  numbered : s.messages.map (·.number) = (List.range s.messages.length).reverse

theorem sound_start (mem : D → DynamicLibrary) (thread : G → T) : (start mem thread).Sound where
  exclusive _ _ hpin := absurd rfl hpin
  numbered := rfl

theorem view_of_pinned (hpin : s.locks g ≠ 0) : view g s = some (s.slot (s.thread g)) :=
  if_neg hpin

theorem pinned_of_view {m : Option Message} (hview : view g s = some m) :
    s.locks g ≠ 0 ∧ s.slot (s.thread g) = m := by
  unfold view at hview
  split at hview
  · cases hview
  · next hpin => exact ⟨hpin, Option.some.inj hview⟩

/-- What is pinned to a thread, and waiting on it, decides the view. -/
theorem view_congr {s' : Threads G T D} (hlocks : s'.locks g = s.locks g)
    (hslot : s.locks g ≠ 0 → s'.slot (s'.thread g) = s.slot (s.thread g)) :
    view g s' = view g s := by
  unfold view
  rw [hlocks]
  split
  · rfl
  · next hpin => rw [hslot hpin]

theorem RunsOn.thread_eq (ht : s.RunsOn g t) (hpin : s.locks g ≠ 0) : s.thread g = t := by
  unfold RunsOn at ht
  rwa [if_neg hpin] at ht

/-- A goroutine never runs on a thread that another is pinned to. -/
theorem RunsOn.thread_ne (ht : s.RunsOn g t) (hs : s.Exclusive) {h : G} (hne : h ≠ g)
    (hpin : s.locks h ≠ 0) : s.thread h ≠ t := by
  by_cases hg : s.locks g = 0
  · unfold RunsOn at ht
    rw [if_pos hg] at ht
    exact ht h hpin
  · intro heq
    exact hne (hs h g hpin hg (heq.trans (ht.thread_eq hg).symm))

theorem raised_self (e : Call) (r : Call.Answer Message e) {s' : Threads G T D}
    (hmessages : s'.messages = s.messages) : raised ⟨s, e, r, s'⟩ = none :=
  if_pos (congrArg List.length hmessages)

section Slots

variable [DecidableEq T]

theorem raised_fail (e : Call) (r : Call.Answer Message e) (text : GoString) :
    raised ⟨s, e, r, s.fail t text⟩ = some ⟨text, s.messages.length⟩ :=
  if_neg (Nat.succ_ne_self _)

theorem Sound.fail (hs : s.Sound) (t : T) (text : GoString) : (s.fail t text).Sound := by
  refine ⟨hs.exclusive, ?_⟩
  simp [Threads.fail, List.range_succ, hs.numbered]

/-- A failed loader call of a pinned goroutine leaves its message waiting. -/
theorem view_fail (hpin : s.locks g ≠ 0) (ht : s.RunsOn g t) (text : GoString) :
    view g (s.fail t text) = some (some ⟨text, s.messages.length⟩) := by
  have hview : view g (s.fail t text) = some ((s.fail t text).slot (s.thread g)) := view_of_pinned hpin
  rw [hview, ht.thread_eq hpin]
  simp [fail]

theorem view_clear (hpin : s.locks g ≠ 0) (ht : s.RunsOn g t) :
    view g (s.clear t) = some none := by
  have hview : view g (s.clear t) = some ((s.clear t).slot (s.thread g)) := view_of_pinned hpin
  rw [hview, ht.thread_eq hpin]
  simp [clear]

/-- The message on the thread of one goroutine is out of the sight of the others. -/
theorem view_update_slot (ht : s.RunsOn g t) (hs : s.Exclusive) {h : G} (hne : h ≠ g)
    (m : Option Message) (messages : List Message) :
    view h { s with slot := Function.update s.slot t m, messages := messages } = view h s := by
  refine view_congr rfl ?_
  intro hpin
  exact Function.update_of_ne (ht.thread_ne hs hne hpin) ..

end Slots

section Pins

variable [DecidableEq G]

theorem view_lock : view g (s.lock g t) = some (s.slot t) := by
  have hpin : (s.lock g t).locks g ≠ 0 := by simp [lock]
  rw [view_of_pinned hpin]
  simp [lock]

theorem Exclusive.lock (hs : s.Exclusive) (ht : s.RunsOn g t) : (s.lock g t).Exclusive := by
  intro a b ha hb hab
  unfold Threads.lock at ha hb hab
  rcases eq_or_ne a g with rfl | hag
  · rcases eq_or_ne b a with rfl | hba
    · rfl
    · simp only [Function.update_self, Function.update_of_ne hba] at hb hab
      exact absurd hab.symm (ht.thread_ne hs hba hb)
  · rcases eq_or_ne b g with rfl | hbg
    · simp only [Function.update_self, Function.update_of_ne hag] at ha hab
      exact absurd hab (ht.thread_ne hs hag ha)
    · simp only [Function.update_of_ne hag, Function.update_of_ne hbg] at ha hb hab
      exact hs a b ha hb hab

theorem Exclusive.unlock (hs : s.Exclusive) (g : G) : (s.unlock g).Exclusive := by
  have hpin : ∀ a, (s.unlock g).locks a ≠ 0 → s.locks a ≠ 0 := by
    intro a ha hzero
    rcases eq_or_ne a g with rfl | hag
    · simp [Threads.unlock, hzero] at ha
    · simp [Threads.unlock, hag, hzero] at ha
  exact fun a b ha hb hab => hs a b (hpin a ha) (hpin b hb) hab

end Pins

variable [DecidableEq G] [DecidableEq T]

/-! ## One step of a goroutine -/

/-- What a goroutine knows. -/
abbrev Known (G T D : Type) :=
  Interaction.Known (Option (Option Message)) (D → DynamicLibrary) (Threads G T D) (Call.Answer Message)

/-- The environment of a goroutine in terms of what it knows. -/
abbrev own (g : G) : Env (D → DynamicLibrary) (Call.Answer Message) (Known G T D) :=
  (env g).seen Sound (view g)

/-- A call that is no loader call, and sets no message. -/
structure Quiet (x : Action (Threads G T D) (Call.Answer Message)) : Prop where
  noLoader : x.call.isLoader = false
  raised : raised x = none

/-- A loader call that succeeds, and sets no message. -/
structure Succeeds (x : Action (Threads G T D) (Call.Answer Message)) : Prop where
  loader : x.call.isLoader = true
  succeeded : succeeded x = true
  raised : raised x = none

/-- A loader call that fails, and sets the message `m`. -/
structure Raises (x : Action (Threads G T D) (Call.Answer Message)) (m : Message) : Prop where
  loader : x.call.isLoader = true
  failed : Threads.succeeded x = false
  raised : raised x = some m

/-- A `dlsym` that answers nil, and sets no message. -/
structure AnswersNil (x : Action (Threads G T D) (Call.Answer Message)) : Prop where
  loader : x.call.isLoader = true
  failed : Threads.succeeded x = false
  raised : raised x = none

section Steps

variable {α : Type} {Q : α → Known G T D → Prop} {l : Known G T D} {m : Option Message}

theorem wp_get {p : (D → DynamicLibrary) → Prog (D → DynamicLibrary) (Call.Answer Message) α}
    (h : ∀ mem, (p mem).wp (own g) Q ⟨l.view, l.trace.read mem⟩) :
    (Prog.get p).wp (own g) Q l := by
  rintro mem _ ⟨s, _, _, hview, ⟨rfl, rfl⟩, rfl⟩
  rw [hview]
  exact h _

theorem wp_modify {f : (D → DynamicLibrary) → (D → DynamicLibrary)}
    {p : Prog (D → DynamicLibrary) (Call.Answer Message) α}
    (h : p.wp (own g) Q l) :
    (Prog.modify f p).wp (own g) Q l := by
  rintro _ ⟨s, _, _, hview, rfl, rfl⟩
  have hsame : view g { s with mem := f s.mem } = l.view := hview
  rw [hsame]
  exact h

theorem wp_lockOSThread {p : Unit → Prog (D → DynamicLibrary) (Call.Answer Message) α}
    (h : ∀ m x, Quiet x → (p ()).wp (own g) Q ⟨some m, l.trace.act x⟩) :
    (Prog.call Call.lockOSThread p).wp (own g) Q l := by
  refine ⟨fun _ _ _ => trivial, ?_⟩
  rintro _ _ ⟨s, s', _, _, ⟨t, _, hcall⟩, rfl⟩
  cases hcall with
  | lockOSThread =>
      rw [view_lock]
      exact h _ _ ⟨rfl, raised_self _ _ rfl⟩
  | fm hfm => cases hfm

theorem wp_unlockOSThread {p : Unit → Prog (D → DynamicLibrary) (Call.Answer Message) α}
    (h : ∀ k x, Quiet x → (p ()).wp (own g) Q ⟨k, l.trace.act x⟩) :
    (Prog.call Call.unlockOSThread p).wp (own g) Q l := by
  refine ⟨fun _ _ _ => trivial, ?_⟩
  rintro _ _ ⟨s, s', _, _, ⟨t, _, hcall⟩, rfl⟩
  cases hcall with
  | unlockOSThread => exact h _ _ ⟨rfl, raised_self _ _ rfl⟩
  | fm hfm => cases hfm

/-- Pinned to its thread, a goroutine reads the message waiting there. -/
theorem wp_dlerror {p : Option Message → Prog (D → DynamicLibrary) (Call.Answer Message) α}
    (hl : l.view = some m)
    (h : ∀ x, Quiet x → (p m).wp (own g) Q ⟨some none, l.trace.act x⟩) :
    (Prog.call Call.dlerror p).wp (own g) Q l := by
  refine ⟨fun _ _ _ => trivial, ?_⟩
  rintro _ _ ⟨s, s', _, hview, ⟨t, ht, hcall⟩, rfl⟩
  obtain ⟨hpin, hslot⟩ := pinned_of_view (hview.trans hl)
  rw [ht.thread_eq hpin] at hslot
  subst hslot
  cases hcall with
  | dlerror =>
      rw [view_clear hpin ht]
      exact h _ ⟨rfl, raised_self _ _ rfl⟩
  | fm hfm => cases hfm

theorem wp_dlopen {name : CharBlock} {flags : Int32}
    {p : Option Pointer → Prog (D → DynamicLibrary) (Call.Answer Message) α} (hl : l.view = some m)
    (hopened : ∀ h x, Succeeds x →
      (p (some h)).wp (own g) Q ⟨some m, l.trace.act x⟩)
    (hfailed : ∀ m' x, Raises x m' →
      (p none).wp (own g) Q ⟨some (some m'), l.trace.act x⟩) :
    (Prog.call (Call.dlopen name flags) p).wp (own g) Q l := by
  refine ⟨fun _ _ _ => trivial, ?_⟩
  rintro _ _ ⟨s, s', _, hview, ⟨t, ht, hcall⟩, rfl⟩
  obtain ⟨hpin, _⟩ := pinned_of_view (hview.trans hl)
  cases hcall with
  | dlopen h =>
      rw [hview, hl]
      exact hopened h _ ⟨rfl, rfl, raised_self _ _ rfl⟩
  | dlopenFailed text =>
      rw [view_fail hpin ht]
      exact hfailed _ _ ⟨rfl, rfl, raised_fail ..⟩
  | fm hfm => cases hfm

theorem wp_dlclose {handle : Option Pointer}
    {p : Int32 → Prog (D → DynamicLibrary) (Call.Answer Message) α} (hl : l.view = some m)
    (hclosed : ∀ x, Succeeds x →
      (p 0).wp (own g) Q ⟨some m, l.trace.act x⟩)
    (hfailed : ∀ status m' x, status ≠ 0 → Raises x m' →
      (p status).wp (own g) Q ⟨some (some m'), l.trace.act x⟩) :
    (Prog.call (Call.dlclose handle) p).wp (own g) Q l := by
  refine ⟨fun _ _ _ => trivial, ?_⟩
  rintro _ _ ⟨s, s', _, hview, ⟨t, ht, hcall⟩, rfl⟩
  obtain ⟨hpin, _⟩ := pinned_of_view (hview.trans hl)
  cases hcall with
  | dlclose =>
      rw [hview, hl]
      exact hclosed _ ⟨rfl, rfl, raised_self _ _ rfl⟩
  | dlcloseFailed hst text =>
      rw [view_fail hpin ht]
      exact hfailed _ _ _ hst ⟨rfl, decide_eq_false hst, raised_fail ..⟩
  | fm hfm => cases hfm

/-- A nil symbol may be one that exists. -/
theorem wp_dlsym {handle : Option Pointer} {symbol : CharBlock}
    {p : Option Pointer → Prog (D → DynamicLibrary) (Call.Answer Message) α} (hl : l.view = some m)
    (hfound : ∀ q x, Succeeds x →
      (p (some q)).wp (own g) Q ⟨some m, l.trace.act x⟩)
    (hnil : ∀ x, AnswersNil x →
      (p none).wp (own g) Q ⟨some m, l.trace.act x⟩)
    (hfailed : ∀ m' x, Raises x m' →
      (p none).wp (own g) Q ⟨some (some m'), l.trace.act x⟩) :
    (Prog.call (Call.dlsym handle symbol) p).wp (own g) Q l := by
  refine ⟨fun _ _ _ => trivial, ?_⟩
  rintro _ _ ⟨s, s', _, hview, ⟨t, ht, hcall⟩, rfl⟩
  obtain ⟨hpin, _⟩ := pinned_of_view (hview.trans hl)
  cases hcall with
  | dlsym q =>
      rw [hview, hl]
      exact hfound q _ ⟨rfl, rfl, raised_self _ _ rfl⟩
  | dlsymNil =>
      rw [hview, hl]
      exact hnil _ ⟨rfl, rfl, raised_self _ _ rfl⟩
  | dlsymFailed text =>
      rw [view_fail hpin ht]
      exact hfailed _ _ ⟨rfl, rfl, raised_fail ..⟩
  | fm hfm => cases hfm

end Steps

end Threads

end Nvfm
