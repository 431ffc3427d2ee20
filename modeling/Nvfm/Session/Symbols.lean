-- SUMMARY: LookupSymbol in two steps beside the calls that change the library, and what dlsym then searches.
import Nvfm.Session.Configuration

/-!
# Symbol Lookups

`LookupSymbol` takes no lock: other callers run between its check and its search.
`G` are the callers that look symbols up.
-/

namespace Nvfm

open Go Interaction Prog DynamicLibrary Return

/-- The library, and the name each caller is about to search for. -/
structure Symbols (G : Type) where
  lib : Library
  pending : G → Option GoString

namespace Symbols

variable {G : Type}

def libLens : Lens (Symbols G) Library where
  get s := s.lib
  set l s := { s with lib := l }
  get_set _ _ := rfl
  set_get _ := rfl
  set_set _ _ _ := rfl

@[simp] theorem libLens_get (s : Symbols G) : libLens.get s = s.lib := rfl

variable [DecidableEq G]

def setPending (g : G) (name : Option GoString) (s : Symbols G) : Symbols G :=
  { s with pending := Function.update s.pending g name }

@[simp] theorem setPending_lib (g : G) (name : Option GoString) (s : Symbols G) :
    (s.setPending g name).lib = s.lib := rfl

@[simp] theorem setPending_pending_self (g : G) (name : Option GoString) (s : Symbols G) :
    (s.setPending g name).pending g = name :=
  Function.update_self ..

theorem setPending_pending_of_ne {g b : G} (hne : b ≠ g) {name : Option GoString} {s : Symbols G} :
    (s.setPending g name).pending b = s.pending b :=
  Function.update_of_ne hne ..

theorem setPending_none_setPending {g : G} {name : Option GoString} {s : Symbols G}
    (hp : s.pending g = none) : (s.setPending g name).setPending g none = s := by
  simp [setPending, ← hp]

end Symbols

/-- A complete call of another caller, or one of the two steps of `LookupSymbol`. -/
inductive SymbolOp (G : Type) where
  | call (op : PackageOp)
  | check (g : G) (name : GoString)
  | search (g : G)

/-- What a step returns: nothing when its caller is not ready for it. The check of
    `LookupSymbol` returns nil when the search is to follow. -/
abbrev SymbolResult := Option PackageResult

section Programs

variable {G : Type} [DecidableEq G]

/-- The first step of `LookupSymbol`. -/
def checkStep (g : G) (name : GoString) : Prog (Symbols G) Answer SymbolResult := do
  let s ← load
  if s.pending g ≠ none then
    return none
  let err := Library.lookupCheck name (some s.lib)
  if err ≠ .nil then
    return some (.inr err)
  update (Symbols.setPending g (some name))
  return some (.inr .nil)

/-- The second step of `LookupSymbol`. -/
def searchStep (g : G) : Prog (Symbols G) Answer SymbolResult := do
  let s ← load
  match s.pending g with
  | none => return none
  | some name =>
      update (Symbols.setPending g none)
      return some (.inr (← ((Lookup name).zoom Library.dlLens).zoom Symbols.libLens))

/-- Both steps of `LookupSymbol`, without a caller in between. -/
def bothSteps (g : G) (name : GoString) : Prog (Symbols G) Answer SymbolResult := do
  let a ← checkStep g name
  if a = some (.inr .nil) then searchStep g else return a

/-- `LookupSymbol` is its two steps. -/
theorem lookupSymbol_eq_bothSteps {g : G} {name : GoString} {s : Symbols G}
    (hp : s.pending g = none) (o : Oracle Answer) (es : List (Event (Symbols G) Answer)) :
    (bothSteps g name).run o ⟨s, es⟩ =
      (do return some (.inr (← (Library.LookupSymbol name).zoom Symbols.libLens)) :
        Prog (Symbols G) Answer SymbolResult).run o ⟨s, es⟩ := by
  by_cases hcount : s.lib.refcount = 0
  · simp [bothSteps, checkStep, Library.LookupSymbol, Library.lookupCheck, Prog.run, hp, hcount]
  · simp [bothSteps, checkStep, searchStep, Library.LookupSymbol, Library.lookupCheck, Prog.run, hp, hcount,
      World.update, Symbols.setPending_none_setPending hp]

def SymbolOp.prog : SymbolOp G → Prog (Symbols G) Answer SymbolResult
  | .call op => do return some (← op.prog.zoom Symbols.libLens)
  | .check g name => checkStep g name
  | .search g => searchStep g

end Programs

/-! ## Outcomes -/

section Outcomes

variable {G : Type} [DecidableEq G]

/-- What each step can return, and leave behind, where `R` says it of complete calls. -/
inductive SymbolOp.OutcomeOf (R : PackageOp → Library → PackageResult → World Library Answer → Prop)
    (s : Symbols G) : SymbolOp G → SymbolResult → World (Symbols G) Answer → Prop where
  | call {op : PackageOp} {a : PackageResult} {w : World Library Answer} (h : R op s.lib a w) :
      OutcomeOf R s (.call op) (some a) (w.within Symbols.libLens s)
  | notReady {g : G} {name : GoString} (hp : s.pending g ≠ none) :
      OutcomeOf R s (.check g name) none ⟨s, []⟩
  | refused {g : G} {name : GoString} (hp : s.pending g = none) {err : GoError GoString}
      (herr : err ≠ .nil) : OutcomeOf R s (.check g name) (some (.inr err)) ⟨s, []⟩
  | passed {g : G} {name : GoString} (hp : s.pending g = none) (hcount : s.lib.refcount ≠ 0) :
      OutcomeOf R s (.check g name) (some (.inr .nil)) ⟨s.setPending g (some name), []⟩
  | notPending {g : G} (hp : s.pending g = none) : OutcomeOf R s (.search g) none ⟨s, []⟩
  | searched {g : G} {name : GoString} (hp : s.pending g = some name) {err : GoError GoString}
      {es : List (Event Library Answer)} (h : Lookup.Outcome Library.dlLens name s.lib err es) :
      OutcomeOf R s (.search g) (some (.inr err))
        ((⟨s.lib, es⟩ : World Library Answer).within Symbols.libLens (s.setPending g none))

def SymbolOp.Outcome (op : SymbolOp G) (s : Symbols G) :
    SymbolResult → World (Symbols G) Answer → Prop :=
  OutcomeOf PackageOp.Outcome s op

/-- The outcomes in which every failure of the loader is reported. -/
def SymbolOp.Reported (op : SymbolOp G) (s : Symbols G) :
    SymbolResult → World (Symbols G) Answer → Prop :=
  OutcomeOf PackageOp.Reported s op

theorem wp_checkStep (g : G) (name : GoString) (s : Symbols G) :
    (checkStep g name).wp .recording (SymbolOp.Outcome (.check g name) s) ⟨s, []⟩ := by
  simp only [checkStep, load_bind, wp_recording_get]
  split
  · next hp => exact .notReady hp
  · next hp =>
      split
      · next herr => exact .refused (not_not.1 hp) herr
      · next herr =>
          rw [update_bind, wp_recording_modify]
          refine .passed (not_not.1 hp) ?_
          intro hcount
          exact herr (by simp [Library.lookupCheck, hcount])

theorem wp_searchStep (g : G) (s : Symbols G) :
    (searchStep g).wp .recording (SymbolOp.Outcome (.search g) s) ⟨s, []⟩ := by
  simp only [searchStep, load_bind, wp_recording_get]
  split
  · next hp => exact .notPending hp
  · next name hp =>
      rw [update_bind, wp_recording_modify, wp_bind]
      have hstart : (⟨_, []⟩ : World Library Answer).within Symbols.libLens _ = ⟨_, []⟩ :=
        World.within_start Symbols.libLens (s.setPending g none)
      rw [World.update, ← hstart]
      refine wp_zoom (wp_Lookup ?_)
      intro err es h
      exact .searched hp h

theorem SymbolOp.specifies : Specifies (SymbolOp.prog (G := G)) SymbolOp.Outcome := by
  intro op s
  cases op with
  | call op =>
      unfold SymbolOp.prog
      rw [wp_bind, ← World.within_start Symbols.libLens s]
      exact wp_zoom (wp_mono (fun _ _ h => .call h) (PackageOp.specifies op s.lib))
  | check g name => exact wp_checkStep g name s
  | search g => exact wp_searchStep g s

theorem SymbolOp.Outcome.reported {op : SymbolOp G} {s : Symbols G} {a : SymbolResult}
    {w : World (Symbols G) Answer} {b b' : Bool} (ho : op.Outcome s a w)
    (hb : dlerrorReports.after b w.events = some b') : op.Reported s a w := by
  cases ho with
  | call h =>
      rw [World.within, dlerrorReports_within] at hb
      exact .call (h.reported hb)
  | notReady hp => exact .notReady hp
  | refused hp herr => exact .refused hp herr
  | passed hp hcount => exact .passed hp hcount
  | notPending hp => exact .notPending hp
  | searched hp h => exact .searched hp h

end Outcomes

/-! ## What the library holds -/

section Loaded

variable {G : Type} {σ : Type}

/-- Whether a library is open after one more call. -/
def openAfter (b : Bool) (e : Event σ Answer) : Bool :=
  if opensLibrary e then true else if closesLibrary e then false else b

/-- The library stays open through a step: the last of its successful `dlopen` and
    `dlclose` calls decides, and an accepted `SetLibraryOptions` starts afresh. -/
def loadedAfter (b : Bool) (r : Record (Symbols G) Answer (SymbolOp G) SymbolResult) : Bool :=
  match r.op, r.result with
  | .call (.SetLibraryOptions _), some (.inr .nil) => false
  | _, _ => r.after.events.foldl openAfter b

/-- A library is open after the steps `rs`. -/
def loaded (rs : List (Record (Symbols G) Answer (SymbolOp G) SymbolResult)) : Bool :=
  rs.foldl loadedAfter false

theorem loaded_concat (rs : List (Record (Symbols G) Answer (SymbolOp G) SymbolResult))
    (r : Record (Symbols G) Answer (SymbolOp G) SymbolResult) :
    loaded (rs ++ [r]) = loadedAfter (loaded rs) r := by
  simp [loaded]

/-- The call searches without a library. -/
def searchesAll (e : Event σ Answer) : Bool :=
  match e.call with
  | .dlsym none _ => true
  | _ => false

/-- The step searches for a symbol. -/
def searches (r : Record (Symbols G) Answer (SymbolOp G) SymbolResult) : Bool :=
  match r.op with
  | .search _ => r.result.isSome
  | _ => false

variable {l : Library} {ret : Return} {w : World Library Answer} {op : LifecycleOp}

theorem LifecycleOp.Reported.foldl_openAfter (hr : op.Reported l ret w) :
    w.events.foldl openAfter l.dl.handle.isSome = w.mem.dl.handle.isSome := by
  cases op with
  | Init =>
      cases hr with
      | counted _ => rfl
      | openFailed _ m => rfl
      | initFailed _ h _ => rfl
      | closeFailed _ h _ hst m =>
          simp [openAfter, openedEvents, closeFailedEvents, opensLibrary, closesLibrary, hst]
      | initialised _ h => rfl
  | Shutdown =>
      cases hr with
      | uninitialized _ => rfl
      | counted _ => rfl
      | shutdownFailed _ _ _ => rfl
      | closeFailed _ _ _ hst m =>
          simp [openAfter, closeFailedEvents, opensLibrary, closesLibrary, hst]
      | alreadyClosed _ _ _ => rfl
      | closed _ _ _ => rfl

theorem LifecycleOp.Reported.any_searchesAll (hr : op.Reported l ret w) :
    w.events.any searchesAll = false := by
  cases op with
  | Init => cases hr <;> rfl
  | Shutdown => cases hr <;> rfl

end Loaded

section Within

variable {σ τ : Type} {L : Lens σ τ} {s : σ} {es : List (Event τ Answer)}

theorem opensLibrary_within (e : Event τ Answer) : opensLibrary (e.within L s) = opensLibrary e := by
  obtain ⟨m, call, answer⟩ := e
  cases call <;> first | rfl | cases answer <;> rfl

theorem closesLibrary_within (e : Event τ Answer) :
    closesLibrary (e.within L s) = closesLibrary e := by
  obtain ⟨m, call, answer⟩ := e
  cases call <;> rfl

theorem foldl_openAfter_within (b : Bool) :
    (es.map (Event.within L s)).foldl openAfter b = es.foldl openAfter b := by
  rw [List.foldl_map]
  congr 1
  funext b e
  rw [openAfter, openAfter, opensLibrary_within, closesLibrary_within]

theorem filter_opensLibrary_within :
    (es.map (Event.within L s)).filter opensLibrary =
      (es.filter opensLibrary).map (Event.within L s) := by
  rw [List.filter_map]
  congr 2
  funext e
  exact opensLibrary_within e

theorem any_searchesAll_within :
    (es.map (Event.within L s)).any searchesAll = es.any searchesAll := by
  rw [List.any_map]
  rfl

end Within

/-! ## Runs -/

section Runs

variable {G : Type} [DecidableEq G]

/-- The name that `g` goes on to search for when the step is a check of its that passes. -/
def passed? (g : G) (r : Record (Symbols G) Answer (SymbolOp G) SymbolResult) : Option GoString :=
  match r.op, r.result with
  | .check b name, some (.inr err) => if b = g ∧ err = .nil then some name else none
  | _, _ => none

/-- The name of the last check of `g` that has passed. -/
def asked (g : G) (rs : List (Record (Symbols G) Answer (SymbolOp G) SymbolResult)) :
    Option GoString :=
  rs.foldl (fun name r => (passed? g r).or name) none

theorem asked_concat (g : G) (rs : List (Record (Symbols G) Answer (SymbolOp G) SymbolResult))
    (r : Record (Symbols G) Answer (SymbolOp G) SymbolResult) :
    asked g (rs ++ [r]) = (passed? g r).or (asked g rs) := by
  simp [asked]

/-- A search that succeeds finds the symbol its caller has asked for, and finds it in the
    library of the last `dlopen`. -/
def FoundLoaded (past : List (Record (Symbols G) Answer (SymbolOp G) SymbolResult))
    (r : Record (Symbols G) Answer (SymbolOp G) SymbolResult) : Prop :=
  ∃ g name h p m m' path flags, r.op = .search g ∧ asked g past = some name ∧
    ⟨m, .dlsym (some h) (CString name), (some p : Option Pointer)⟩ ∈ r.after.events ∧
    lastOpen (past.flatMap (·.after.events)) = some ⟨m', .dlopen path flags, some h⟩

/-- What the run says about the library and the searches in it. -/
structure Watched (l : Log (Symbols G) Answer (SymbolOp G) SymbolResult) : Prop where
  loaded : loaded l.records = l.mem.lib.dl.handle.isSome
  held : Held l.mem.lib
  handle : ∀ h, l.mem.lib.dl.handle = some h → ∃ m name flags,
    lastOpen l.events = some ⟨m, .dlopen name flags, some h⟩
  nils : Log.EachAfter (fun past r => r.after.events.any searchesAll =
    (searches r && !Nvfm.loaded past)) l.records
  counts : Log.EachAfter (fun past r => 0 < r.before.lib.refcount → Nvfm.loaded past = true) l.records
  asked : ∀ g name, l.mem.pending g = some name → Nvfm.asked g l.records = some name
  found : Log.EachAfter (fun past r => searches r = true → Nvfm.loaded past = true →
    r.result = some (.inr .nil) → FoundLoaded past r) l.records

theorem Watched.start : Watched (Log.start ⟨libnvfm, fun _ => none⟩ :
    Log (Symbols G) Answer (SymbolOp G) SymbolResult) where
  loaded := rfl
  held h := absurd h Int64.lt_irrefl
  handle _ h := nomatch h
  nils := Log.eachAfter_nil
  counts := Log.eachAfter_nil
  asked _ _ h := nomatch h
  found := Log.eachAfter_nil

theorem Watched.counts_append {l : Log (Symbols G) Answer (SymbolOp G) SymbolResult} {op : SymbolOp G}
    {a : SymbolResult} {w : World (Symbols G) Answer} (h : Watched l) :
    Log.EachAfter (fun past r => 0 < r.before.lib.refcount → Nvfm.loaded past = true)
      (l.append op a w).records := by
  refine h.counts.concat ?_
  intro hpos
  rw [h.loaded, Option.isSome_iff_ne_none]
  exact h.held hpos

/-- A caller goes on to search for what it has asked for. -/
theorem Watched.asked_append {l : Log (Symbols G) Answer (SymbolOp G) SymbolResult} {op : SymbolOp G}
    {a : SymbolResult} {w : World (Symbols G) Answer} {g : G} {name : GoString} (h : Watched l)
    (hname : (passed? g ⟨op, a, l.mem, w⟩).or (l.mem.pending g) = some name) :
    Nvfm.asked g (l.append op a w).records = some name := by
  rw [Log.append_records, asked_concat]
  rcases Option.or_eq_some_iff.1 hname with hpassed | ⟨hnone, hpending⟩
  · rw [hpassed]
    rfl
  · rw [hnone, h.asked g name hpending]
    rfl

/-- A step that makes no call and keeps the library. -/
theorem Watched.append_quiet {l : Log (Symbols G) Answer (SymbolOp G) SymbolResult} {op : SymbolOp G}
    {a : SymbolResult} {s : Symbols G} (h : Watched l) (hlib : s.lib = l.mem.lib)
    (hloaded : ∀ b, loadedAfter b ⟨op, a, l.mem, ⟨s, []⟩⟩ = b)
    (hasked : ∀ g name, s.pending g = some name →
      (passed? g ⟨op, a, l.mem, ⟨s, []⟩⟩).or (l.mem.pending g) = some name)
    (hsearch : searches ⟨op, a, l.mem, ⟨s, []⟩⟩ = false) : Watched (l.append op a ⟨s, []⟩) := by
  constructor
  case loaded =>
    rw [Log.append_records, loaded_concat, hloaded, h.loaded, Log.append_mem, hlib]
  case held =>
    rw [Log.append_mem, hlib]
    exact h.held
  case handle =>
    rw [Log.append_mem, hlib, Log.append_events, List.append_nil]
    exact h.handle
  case nils =>
    refine h.nils.concat ?_
    rw [hsearch]
    rfl
  case counts => exact h.counts_append
  case asked => exact fun g name hp => h.asked_append (hasked g name hp)
  case found =>
    refine h.found.concat ?_
    intro hs
    exact absurd (hsearch.symm.trans hs) Bool.false_ne_true

theorem Watched.append_lifecycle {l : Log (Symbols G) Answer (SymbolOp G) SymbolResult}
    {op : LifecycleOp} {ret : Return} {w : World Library Answer} (h : Watched l)
    (hr : op.Reported l.mem.lib ret w) :
    Watched (l.append (.call (.lifecycle op)) (some (.inl ret)) (w.within Symbols.libLens l.mem)) := by
  constructor
  case loaded =>
    have hfold := hr.foldl_openAfter
    rw [← h.loaded] at hfold
    rw [Log.append_records, loaded_concat]
    exact (foldl_openAfter_within ..).trans hfold
  case held => exact hr.held h.held
  case handle =>
    intro p hp
    rw [Log.append_events]
    have hopens : (w.within Symbols.libLens l.mem).events.filter opensLibrary = _ :=
      filter_opensLibrary_within
    rcases hr.handle_source hp with ⟨hold, hnone⟩ | hone
    · rw [hnone] at hopens
      rw [lastOpen_append_of_none hopens]
      exact h.handle p hold
    · rw [hone] at hopens
      rw [lastOpen_append_of_one hopens]
      exact ⟨_, _, _, rfl⟩
  case nils =>
    refine h.nils.concat ?_
    exact any_searchesAll_within.trans hr.any_searchesAll
  case counts => exact h.counts_append
  case asked => exact fun g name hp => h.asked_append hp
  case found => exact h.found.concat nofun

theorem Watched.append_replaced {l : Log (Symbols G) Answer (SymbolOp G) SymbolResult}
    {opts : List LibraryOption} (h : Watched l) (hcount : l.mem.lib.refcount = 0) :
    Watched (l.append (.call (.SetLibraryOptions opts)) (some (.inr .nil))
      ((⟨l.mem.lib.init opts, []⟩ : World Library Answer).within Symbols.libLens l.mem)) := by
  constructor
  case loaded =>
    rw [Log.append_records, loaded_concat]
    rfl
  case held =>
    intro hpos
    exact absurd hcount (Refcount.ne_zero_of_pos hpos)
  case handle =>
    intro p hp
    exact absurd hp.symm (Option.some_ne_none p)
  case nils => exact h.nils.concat rfl
  case counts => exact h.counts_append
  case asked => exact fun g name hp => h.asked_append hp
  case found => exact h.found.concat nofun

theorem Watched.append_searched {l : Log (Symbols G) Answer (SymbolOp G) SymbolResult} {g : G}
    {name : GoString} {err : GoError GoString} {es : List (Event Library Answer)} (h : Watched l)
    (hp : l.mem.pending g = some name) (ho : Lookup.Outcome Library.dlLens name l.mem.lib err es) :
    Watched (l.append (.search g) (some (.inr err))
      ((⟨l.mem.lib, es⟩ : World Library Answer).within Symbols.libLens
        (l.mem.setPending g none))) := by
  constructor
  case loaded =>
    have hfold : es.foldl openAfter l.mem.lib.dl.handle.isSome = l.mem.lib.dl.handle.isSome := by
      cases ho <;> rfl
    rw [← h.loaded] at hfold
    rw [Log.append_records, loaded_concat]
    exact (foldl_openAfter_within ..).trans (hfold.trans h.loaded)
  case held => exact h.held
  case handle =>
    have hnone : es.filter opensLibrary = [] := by cases ho <;> rfl
    have hopens : ((⟨l.mem.lib, es⟩ : World Library Answer).within Symbols.libLens
        (l.mem.setPending g none)).events.filter opensLibrary = _ := filter_opensLibrary_within
    rw [hnone] at hopens
    rw [Log.append_events, lastOpen_append_of_none hopens]
    exact h.handle
  case nils =>
    refine h.nils.concat ?_
    rw [h.loaded]
    refine any_searchesAll_within.trans ?_
    cases ho with
    | found stale p => cases hh : l.mem.lib.dl.handle <;> simp [searchesAll, searches, hh]
    | notFound stale m => cases hh : l.mem.lib.dl.handle <;> simp [searchesAll, searches, hh]
  case counts => exact h.counts_append
  case asked =>
    intro b name' hb
    rcases eq_or_ne b g with rfl | hne
    · cases hb.symm.trans (Symbols.setPending_pending_self b none l.mem)
    · exact h.asked_append ((Symbols.setPending_pending_of_ne hne).symm.trans hb)
  case found =>
    refine h.found.concat ?_
    rintro _ hloaded ⟨⟩
    rw [h.loaded, Option.isSome_iff_exists] at hloaded
    obtain ⟨p, hhandle⟩ := hloaded
    obtain ⟨m', path, flags, hlast⟩ := h.handle p hhandle
    cases ho with
    | found stale q =>
        refine ⟨g, name, p, q, l.mem.setPending g none, m', path, flags, rfl, h.asked g name hp, ?_,
          hlast⟩
        rw [← hhandle]
        exact List.mem_cons_of_mem _ (List.mem_cons_of_mem _ List.mem_cons_self)

/-- The log of a sequence of steps from a fresh library. -/
def symbolRun (o : Oracle Answer) (ops : List (SymbolOp G)) :
    Log (Symbols G) Answer (SymbolOp G) SymbolResult :=
  exec SymbolOp.prog o ⟨libnvfm, fun _ => none⟩ ops

theorem watched_of_accepts {o : Oracle Answer} {ops : List (SymbolOp G)}
    (hrep : dlerrorReports.Accepts (symbolRun o ops).events) : Watched (symbolRun o ops) := by
  obtain ⟨b, hb⟩ := Option.isSome_iff_exists.1 hrep
  refine SymbolOp.specifies.protocol_induction dlerrorReports (I := fun l _ => Watched l) .start ?_ hb
  intro l b op a w b' hl ho hb
  cases ho.reported hb with
  | call hr =>
      cases hr with
      | lifecycle hr => exact hl.append_lifecycle hr
      | refused hcount => exact hl.append_quiet rfl (fun _ => rfl) (fun _ _ hname => hname) rfl
      | replaced hcount => exact hl.append_replaced hcount
  | notReady hp => exact hl.append_quiet rfl (fun _ => rfl) (fun _ _ hname => hname) rfl
  | refused hp herr =>
      refine hl.append_quiet rfl (fun _ => rfl) ?_ rfl
      intro b name hname
      simpa [passed?, herr] using hname
  | @passed g name hp hcount =>
      refine hl.append_quiet rfl (fun _ => rfl) ?_ rfl
      intro b name' hname
      rcases eq_or_ne b g with rfl | hne
      · rw [Symbols.setPending_pending_self] at hname
        simpa [passed?] using hname
      · rw [Symbols.setPending_pending_of_ne hne] at hname
        simpa [passed?, hne.symm] using hname
  | notPending hp => exact hl.append_quiet rfl (fun _ => rfl) (fun _ _ hname => hname) rfl
  | searched hp h => exact hl.append_searched hp h

/-- No search goes beyond the library exactly when each of them finds one open: when the
    last of the successful `dlopen` and `dlclose` calls and of the accepted
    `SetLibraryOptions` calls so far is a `dlopen`. A positive counter is enough, and
    then a symbol that is found is one of that library. -/
theorem searches_only_loaded (o : Oracle Answer) (ops : List (SymbolOp G))
    (hrep : dlerrorReports.Accepts (symbolRun o ops).events) :
    ((∀ e ∈ (symbolRun o ops).events, searchesAll e = false) ↔
      Log.EachAfter (fun past r => searches r = true → loaded past = true)
        (symbolRun o ops).records) ∧
    Log.EachAfter (fun past r => 0 < r.before.lib.refcount → loaded past = true)
      (symbolRun o ops).records ∧
    Log.EachAfter (fun past r => searches r = true → loaded past = true →
      r.result = some (.inr .nil) → FoundLoaded past r) (symbolRun o ops).records := by
  have h := watched_of_accepts hrep
  refine ⟨?_, h.counts, h.found⟩
  constructor
  · intro hnone past r rest heq hs
    have hnils : r.after.events.any searchesAll = (searches r && !loaded past) :=
      h.nils past r rest heq
    have hr : r ∈ (symbolRun o ops).records := heq ▸ List.mem_append_cons_self
    have hany : r.after.events.any searchesAll = false := by
      rw [List.any_eq_false]
      intro e he
      rw [hnone e (List.mem_flatMap.2 ⟨r, hr, he⟩)]
      exact Bool.false_ne_true
    rw [hany, hs] at hnils
    simpa using hnils
  · intro hloaded e he
    obtain ⟨r, hr, he⟩ := List.mem_flatMap.1 he
    obtain ⟨past, rest, heq⟩ := List.append_of_mem hr
    have hnils : r.after.events.any searchesAll = (searches r && !loaded past) :=
      h.nils past r rest heq
    have hany : r.after.events.any searchesAll = false := by
      rw [hnils]
      cases hs : searches r with
      | false => rfl
      | true => rw [hloaded past r rest heq hs]; rfl
    exact Bool.eq_false_iff.2 (List.any_eq_false.1 hany e he)

end Runs

theorem searches_only_loaded_pair :
    let l := symbolRun (fun _ c => c.succeed)
      [.call (.lifecycle .Init), .check true (ascii "fmConnect"), .call (.lifecycle .Init),
        .call (.lifecycle .Shutdown), .search true]
    ((∀ e ∈ l.events, searchesAll e = false) ↔
      Log.EachAfter (fun past r => searches r = true → loaded past = true) l.records) ∧
    Log.EachAfter (fun past r => 0 < r.before.lib.refcount → loaded past = true) l.records ∧
    Log.EachAfter (fun past r => searches r = true → loaded past = true →
      r.result = some (.inr .nil) → FoundLoaded past r) l.records :=
  searches_only_loaded _ _ (by decide)

/-- A `Shutdown` between the two steps: the symbol is found, and not in the library. -/
theorem search_without_library :
    let l := symbolRun (fun _ c => c.succeed)
      [.call (.lifecycle .Init), .check () (ascii "fmConnect"), .call (.lifecycle .Shutdown), .search ()]
    dlerrorReports.Accepts l.events ∧ l.events.any searchesAll = true ∧
      l.records.map (·.result) =
        [some (.inl SUCCESS), some (.inr .nil), some (.inl SUCCESS), some (.inr .nil)] := by
  decide

end Nvfm
