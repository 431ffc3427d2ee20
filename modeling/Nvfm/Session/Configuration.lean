-- SUMMARY: The configured path of the package-level library, and which library each dlopen and each handle is.
import Nvfm.Session.References
import Nvfm.Session.Clients

/-!
# Configuration

`SetLibraryOptions` takes `WithLibraryPath` options. The configured path is what
the last accepted call asked for; both copies of it in the library follow it, and
so do the handles.
-/

namespace Nvfm

open Go Interaction DynamicLibrary Return

inductive PathOp where
  | lifecycle (op : LifecycleOp)
  | SetLibraryOptions (paths : List GoString)
deriving DecidableEq

/-- The operation with its options built by `WithLibraryPath`. -/
def PathOp.toPackageOp : PathOp → PackageOp
  | lifecycle op => .lifecycle op
  | SetLibraryOptions paths => .SetLibraryOptions (paths.map WithLibraryPath)

/-- The log of a sequence of lifecycle calls and path configurations. -/
def pathRun (o : Oracle Answer) (ops : List PathOp) : Log Library Answer PathOp PackageResult :=
  exec (fun op => op.toPackageOp.prog) o libnvfm ops

/-! ## The configured path -/

/-- The path a call of `SetLibraryOptions` asks for. -/
def requestedPath (paths : List GoString) : GoString :=
  match paths.getLast? with
  | none => defaultNvfmLibraryName
  | some path => if path = [] then defaultNvfmLibraryName else path

/-- The paths of a call of `SetLibraryOptions` that returned nil. -/
def acceptedPaths (r : Record Library Answer PathOp PackageResult) : Option (List GoString) :=
  match r.op, r.result with
  | .SetLibraryOptions paths, .inr .nil => some paths
  | _, _ => none

/-- The path the last accepted call asked for, or the default name. -/
def configuredPath (rs : List (Record Library Answer PathOp PackageResult)) : GoString :=
  match (rs.filterMap acceptedPaths).getLast? with
  | none => defaultNvfmLibraryName
  | some paths => requestedPath paths

theorem configuredPath_concat_none {rs : List (Record Library Answer PathOp PackageResult)}
    {r : Record Library Answer PathOp PackageResult} (h : acceptedPaths r = none) :
    configuredPath (rs ++ [r]) = configuredPath rs := by
  simp [configuredPath, h]

theorem configuredPath_concat_some {rs : List (Record Library Answer PathOp PackageResult)}
    {r : Record Library Answer PathOp PackageResult} {paths : List GoString}
    (h : acceptedPaths r = some paths) : configuredPath (rs ++ [r]) = requestedPath paths := by
  simp [configuredPath, h]

/-- The options fold to the last path among them. -/
theorem foldl_WithLibraryPath (paths : List GoString) (o : LibraryOptions) :
    (paths.map WithLibraryPath).foldl (fun o opt => opt o) o =
      { o with path := paths.getLast?.getD o.path } := by
  induction paths using List.reverseRecOn with
  | nil => rfl
  | append_singleton paths path ih =>
      rw [List.map_append, List.foldl_append, ih]
      simp [WithLibraryPath]

theorem init_WithLibraryPath (paths : List GoString) (l : Library) :
    l.init (paths.map WithLibraryPath) =
      { l with
        path := requestedPath paths
        dl := DynamicLibrary.New (requestedPath paths) defaultNvfmLibraryLoadFlags } := by
  unfold Library.init requestedPath
  rw [foldl_WithLibraryPath]
  cases paths.getLast? <;> rfl

/-! ## One operation -/

/-- The event happens in a library configured as `l`, and opens what `l` names. -/
structure ConfiguredAs (l : Library) (e : Event Library Answer) : Prop where
  path : e.mem.path = l.path
  name : e.mem.dl.Name = l.dl.Name
  opens : ∀ name flags, e.call = .dlopen name flags →
    name = CString l.dl.Name ∧ flags = l.dl.Flags.toInt32

section Events

variable {l : Library} {h : Option Pointer} {p : Pointer} {m : GoString} {status : Int32}
  {e : Event Library Answer}

theorem ConfiguredAs.of_not_dlopen (hpath : e.mem.path = l.path) (hname : e.mem.dl.Name = l.dl.Name)
    (hcall : e.call.isDlopen = false) : ConfiguredAs l e := by
  refine ⟨hpath, hname, ?_⟩
  intro name flags hopen
  rw [hopen] at hcall
  cases hcall

theorem configuredAs_openedEvents (he : e ∈ openedEvents Library.dlLens l p) : ConfiguredAs l e := by
  simp only [openedEvents, List.mem_cons, List.not_mem_nil, or_false] at he
  rcases he with rfl | rfl | rfl
  · exact .of_not_dlopen rfl rfl rfl
  · refine ⟨rfl, rfl, ?_⟩
    rintro name flags ⟨⟩
    exact ⟨rfl, rfl⟩
  · exact .of_not_dlopen rfl rfl rfl

theorem configuredAs_openFailedEvents (he : e ∈ openFailedEvents Library.dlLens l (some m)) :
    ConfiguredAs l e := by
  simp only [openFailedEvents, List.mem_cons, List.not_mem_nil, or_false] at he
  rcases he with rfl | rfl | rfl | rfl
  · exact .of_not_dlopen rfl rfl rfl
  · refine ⟨rfl, rfl, ?_⟩
    rintro name flags ⟨⟩
    exact ⟨rfl, rfl⟩
  · exact .of_not_dlopen rfl rfl rfl
  · exact .of_not_dlopen rfl rfl rfl

theorem configuredAs_closedEvents (he : e ∈ closedEvents Library.dlLens (l.setHandle h)) :
    ConfiguredAs l e := by
  simp only [closedEvents, List.mem_cons, List.not_mem_nil, or_false] at he
  rcases he with rfl | rfl | rfl <;> exact .of_not_dlopen rfl rfl rfl

theorem configuredAs_closeFailedEvents
    (he : e ∈ closeFailedEvents Library.dlLens (l.setHandle h) status (some m)) :
    ConfiguredAs l e := by
  simp only [closeFailedEvents, List.mem_cons, List.not_mem_nil, or_false] at he
  rcases he with rfl | rfl | rfl | rfl <;> exact .of_not_dlopen rfl rfl rfl

end Events

namespace LifecycleOp.Reported

variable {l : Library} {ret : Return} {w : World Library Answer} {op : LifecycleOp}

/-- `Init` and `Shutdown` leave the configuration as it is. -/
theorem keeps_configuration (hr : op.Reported l ret w) :
    w.mem.path = l.path ∧ w.mem.dl.Name = l.dl.Name ∧ w.mem.dl.Flags = l.dl.Flags := by
  cases op with
  | Init => cases hr <;> exact ⟨rfl, rfl, rfl⟩
  | Shutdown => cases hr <;> exact ⟨rfl, rfl, rfl⟩

theorem configuredAs (hr : op.Reported l ret w) : ∀ e ∈ w.events, ConfiguredAs l e := by
  intro e he
  cases op with
  | Init =>
      cases hr with
      | counted _ => cases he
      | openFailed _ m => exact configuredAs_openFailedEvents he
      | initFailed _ h _ =>
          rcases List.mem_append.1 he with he | he
          · exact configuredAs_openedEvents he
          · rcases List.mem_cons.1 he with rfl | he
            · exact .of_not_dlopen rfl rfl rfl
            · exact configuredAs_closedEvents he
      | closeFailed _ h _ _ m =>
          rcases List.mem_append.1 he with he | he
          · exact configuredAs_openedEvents he
          · rcases List.mem_cons.1 he with rfl | he
            · exact .of_not_dlopen rfl rfl rfl
            · exact configuredAs_closeFailedEvents he
      | initialised _ h =>
          rcases List.mem_append.1 he with he | he
          · exact configuredAs_openedEvents he
          · obtain rfl := List.mem_singleton.1 he
            exact .of_not_dlopen rfl rfl rfl
  | Shutdown =>
      cases hr with
      | uninitialized _ => cases he
      | counted _ => cases he
      | shutdownFailed _ _ _ =>
          obtain rfl := List.mem_singleton.1 he
          exact .of_not_dlopen rfl rfl rfl
      | closeFailed _ _ _ _ m =>
          rcases List.mem_cons.1 he with rfl | he
          · exact .of_not_dlopen rfl rfl rfl
          · exact configuredAs_closeFailedEvents (h := l.dl.handle) he
      | alreadyClosed _ _ _ =>
          obtain rfl := List.mem_singleton.1 he
          exact .of_not_dlopen rfl rfl rfl
      | closed _ _ _ =>
          rcases List.mem_cons.1 he with rfl | he
          · exact .of_not_dlopen rfl rfl rfl
          · exact configuredAs_closedEvents (h := l.dl.handle) he

/-- A handle is the one from before, or the answer to a `dlopen` of this call. -/
theorem handle_source (hr : op.Reported l ret w) {h : Pointer} (hh : w.mem.dl.handle = some h) :
    (l.dl.handle = some h ∧ w.events.filter opensLibrary = []) ∨
      w.events.filter opensLibrary =
        [⟨l, .dlopen (CString l.dl.Name) l.dl.Flags.toInt32, some h⟩] := by
  cases op with
  | Init =>
      cases hr with
      | counted _ => exact .inl ⟨hh, rfl⟩
      | openFailed _ m => exact .inl ⟨hh, rfl⟩
      | initFailed _ _ _ => exact absurd hh.symm (Option.some_ne_none h)
      | closeFailed _ p _ _ m =>
          obtain rfl : p = h := Option.some.inj hh
          exact .inr rfl
      | initialised _ p =>
          obtain rfl : p = h := Option.some.inj hh
          exact .inr rfl
  | Shutdown =>
      cases hr with
      | uninitialized _ => exact .inl ⟨hh, rfl⟩
      | counted _ => exact .inl ⟨hh, rfl⟩
      | shutdownFailed _ _ _ => exact .inl ⟨hh, rfl⟩
      | closeFailed _ _ _ _ m => exact .inl ⟨hh, rfl⟩
      | alreadyClosed _ _ hnil => exact absurd (hh.symm.trans hnil) (Option.some_ne_none h)
      | closed _ _ _ => exact absurd hh.symm (Option.some_ne_none h)

end LifecycleOp.Reported

/-! ## Runs -/

/-- The library follows its configuration. -/
structure Configured (l : Log Library Answer PathOp PackageResult) : Prop where
  path : l.mem.path = configuredPath l.records
  name : l.mem.dl.Name = configuredPath l.records
  flags : l.mem.dl.Flags = defaultNvfmLibraryLoadFlags
  held : Held l.mem
  /-- A handle is the answer to the last successful `dlopen`, of the configured path. -/
  handle : ∀ h, l.mem.dl.handle = some h → ∃ m, lastOpen l.events =
    some ⟨m, .dlopen (CString (configuredPath l.records)) defaultNvfmLibraryLoadFlags.toInt32, some h⟩
  /-- The configuration also holds in the middle of a call. -/
  during : Log.EachAfter (fun past r => ∀ e ∈ r.after.events,
    e.mem.path = configuredPath past ∧ e.mem.dl.Name = configuredPath past ∧
    ∀ name flags, e.call = .dlopen name flags →
      name = CString (configuredPath past) ∧ flags = defaultNvfmLibraryLoadFlags.toInt32) l.records
  options : ∀ r ∈ l.records, ∀ paths, r.op = .SetLibraryOptions paths →
    (r.result ≠ .inr .nil ↔ r.before.refcount ≠ 0) ∧
    (r.before.refcount ≠ 0 → r.after.mem = r.before)

theorem Configured.start : Configured (Log.start libnvfm) where
  path := rfl
  name := rfl
  flags := rfl
  held h := absurd h Int64.lt_irrefl
  handle _ h := nomatch h
  during := Log.eachAfter_nil
  options := nofun

theorem Configured.append_lifecycle {l : Log Library Answer PathOp PackageResult}
    {op : LifecycleOp} {ret : Return} {w : World Library Answer} (h : Configured l)
    (hr : op.Reported l.mem ret w) : Configured (l.append (.lifecycle op) (.inl ret) w) := by
  obtain ⟨hpath, hname, hflags⟩ := hr.keeps_configuration
  have hsame : configuredPath (l.append (.lifecycle op) (.inl ret) w).records =
      configuredPath l.records := configuredPath_concat_none rfl
  constructor
  case path => rw [hsame, Log.append_mem, hpath, h.path]
  case name => rw [hsame, Log.append_mem, hname, h.name]
  case flags => rw [Log.append_mem, hflags, h.flags]
  case held => exact hr.held h.held
  case handle =>
    intro p hp
    rw [hsame, Log.append_events]
    rcases hr.handle_source hp with ⟨hold, hnone⟩ | hone
    · rw [lastOpen_append_of_none hnone]
      exact h.handle p hold
    · rw [lastOpen_append_of_one hone, h.name, h.flags]
      exact ⟨_, rfl⟩
  case during =>
    refine h.during.concat ?_
    intro e he
    have hconf := hr.configuredAs e he
    rw [← h.path]
    refine ⟨hconf.path, ?_, ?_⟩
    · rw [hconf.name, h.name, h.path]
    · intro name flags hopen
      rw [h.path, ← h.name, ← h.flags]
      exact hconf.opens name flags hopen
  case options =>
    apply Log.forall_mem_append h.options
    intro paths hop
    cases hop

theorem Configured.append_refused {l : Log Library Answer PathOp PackageResult}
    {paths : List GoString} (h : Configured l) (hcount : l.mem.refcount ≠ 0) :
    Configured (l.append (.SetLibraryOptions paths) (.inr errLibraryAlreadyLoaded) ⟨l.mem, []⟩) := by
  have hsame : configuredPath (l.append (.SetLibraryOptions paths) (.inr errLibraryAlreadyLoaded)
      ⟨l.mem, []⟩).records = configuredPath l.records := configuredPath_concat_none rfl
  constructor
  case path => rw [hsame, Log.append_mem, h.path]
  case name => rw [hsame, Log.append_mem, h.name]
  case flags => exact h.flags
  case held => exact h.held
  case handle =>
    rw [hsame, Log.append_events, List.append_nil]
    exact h.handle
  case during => exact h.during.concat (List.forall_mem_nil _)
  case options =>
    apply Log.forall_mem_append h.options
    intro paths' hop
    exact ⟨iff_of_true nofun hcount, fun _ => rfl⟩

theorem Configured.append_replaced {l : Log Library Answer PathOp PackageResult}
    {paths : List GoString} (h : Configured l) (hcount : l.mem.refcount = 0) :
    Configured (l.append (.SetLibraryOptions paths) (.inr .nil)
      ⟨l.mem.init (paths.map WithLibraryPath), []⟩) := by
  have hnew : configuredPath (l.append (.SetLibraryOptions paths) (.inr .nil)
      ⟨l.mem.init (paths.map WithLibraryPath), []⟩).records = requestedPath paths :=
    configuredPath_concat_some rfl
  constructor
  case path => rw [hnew, Log.append_mem, init_WithLibraryPath]
  case name =>
    rw [hnew, Log.append_mem, init_WithLibraryPath]
    rfl
  case flags =>
    rw [Log.append_mem, init_WithLibraryPath]
    rfl
  case held =>
    intro hpos
    exact absurd hcount (Refcount.ne_zero_of_pos hpos)
  case handle =>
    intro p hp
    exact absurd hp.symm (Option.some_ne_none p)
  case during => exact h.during.concat (List.forall_mem_nil _)
  case options =>
    apply Log.forall_mem_append h.options
    intro paths' hop
    refine ⟨iff_of_false (fun hne => hne rfl) (fun hne => hne hcount), ?_⟩
    intro hne
    exact absurd hcount hne

theorem configured_of_accepts {o : Oracle Answer} {ops : List PathOp}
    (hrep : dlerrorReports.Accepts (pathRun o ops).events) : Configured (pathRun o ops) := by
  obtain ⟨b, hb⟩ := Option.isSome_iff_exists.1 hrep
  refine (PackageOp.specifies.comap PathOp.toPackageOp).protocol_induction dlerrorReports
    (I := fun l _ => Configured l) .start ?_ hb
  intro l b op a w b' hl ho hb
  have hr := PackageOp.Outcome.reported ho hb
  cases op with
  | lifecycle op =>
      cases hr with
      | lifecycle hr => exact hl.append_lifecycle hr
  | SetLibraryOptions paths =>
      cases hr with
      | refused hcount => exact hl.append_refused hcount
      | replaced hcount => exact hl.append_replaced hcount

/-- Both copies of the path follow the configuration, every `dlopen` is passed it, a
    positive counter stands for the library it names, and a change while the counter
    is not zero is refused. What the loader reads of the path ends at its first NUL. -/
theorem library_follows_configuration (o : Oracle Answer) (ops : List PathOp)
    (hrep : dlerrorReports.Accepts (pathRun o ops).events) :
    ((pathRun o ops).mem.path = configuredPath (pathRun o ops).records ∧
      (pathRun o ops).mem.dl.Name = configuredPath (pathRun o ops).records) ∧
    Log.EachAfter (fun past r => ∀ e ∈ r.after.events,
      e.mem.path = configuredPath past ∧ e.mem.dl.Name = configuredPath past ∧
      ∀ name flags, e.call = .dlopen name flags →
        name = CString (configuredPath past) ∧ flags = defaultNvfmLibraryLoadFlags.toInt32 ∧
        cText name = (configuredPath past).takeWhile (· ≠ 0) ∧
        (cText name = configuredPath past ↔ 0 ∉ configuredPath past)) (pathRun o ops).records ∧
    (0 < (pathRun o ops).mem.refcount → ∃ h m, (pathRun o ops).mem.dl.handle = some h ∧
      lastOpen (pathRun o ops).events = some ⟨m, .dlopen (CString (configuredPath
        (pathRun o ops).records)) defaultNvfmLibraryLoadFlags.toInt32, some h⟩) ∧
    ∀ r ∈ (pathRun o ops).records, ∀ paths, r.op = .SetLibraryOptions paths →
      (r.result ≠ .inr .nil ↔ r.before.refcount ≠ 0) ∧
      (r.before.refcount ≠ 0 → r.after.mem = r.before) := by
  have h := configured_of_accepts hrep
  refine ⟨⟨h.path, h.name⟩, ?_, ?_, h.options⟩
  · intro past r rest heq e he
    obtain ⟨hpath, hname, hopens⟩ := h.during past r rest heq e he
    refine ⟨hpath, hname, ?_⟩
    intro name flags hcall
    obtain ⟨rfl, rfl⟩ := hopens name flags hcall
    exact ⟨rfl, rfl, cText_CString _, cText_CString_eq_iff⟩
  · intro hpos
    obtain ⟨p, hp⟩ := Option.ne_none_iff_exists'.1 (h.held hpos)
    obtain ⟨m, hm⟩ := h.handle p hp
    exact ⟨p, m, hp, hm⟩

theorem library_follows_configuration_pair :
    let l := pathRun (fun _ c => c.succeed)
      [.SetLibraryOptions [ascii "a", ascii "b"], .lifecycle .Init, .SetLibraryOptions []]
    (l.mem.path = configuredPath l.records ∧ l.mem.dl.Name = configuredPath l.records) ∧
    Log.EachAfter (fun past r => ∀ e ∈ r.after.events,
      e.mem.path = configuredPath past ∧ e.mem.dl.Name = configuredPath past ∧
      ∀ name flags, e.call = .dlopen name flags →
        name = CString (configuredPath past) ∧ flags = defaultNvfmLibraryLoadFlags.toInt32 ∧
        cText name = (configuredPath past).takeWhile (· ≠ 0) ∧
        (cText name = configuredPath past ↔ 0 ∉ configuredPath past)) l.records ∧
    (0 < l.mem.refcount → ∃ h m, l.mem.dl.handle = some h ∧ lastOpen l.events =
      some ⟨m, .dlopen (CString (configuredPath l.records))
        defaultNvfmLibraryLoadFlags.toInt32, some h⟩) ∧
    ∀ r ∈ l.records, ∀ paths, r.op = .SetLibraryOptions paths →
      (r.result ≠ .inr .nil ↔ r.before.refcount ≠ 0) ∧
      (r.before.refcount ≠ 0 → r.after.mem = r.before) :=
  library_follows_configuration _ _ (by decide)

/-- The path the loader reads in a `dlopen`. -/
def loadedPath (e : Event Library Answer) : Option GoString :=
  match e.call with
  | .dlopen name _ => some (cText name)
  | _ => none

def nulPath : GoString := ascii "a" ++ 0 :: ascii "b"

/-- A path with a NUL in it is configured, but the library before the NUL is loaded. -/
theorem loads_other_library :
    let l := pathRun (fun _ c => c.succeed) [.SetLibraryOptions [nulPath], .lifecycle .Init]
    dlerrorReports.Accepts l.events ∧ 0 < l.mem.refcount ∧
      configuredPath l.records = nulPath ∧ l.events.filterMap loadedPath = [ascii "a"] ∧
      ascii "a" ≠ nulPath := by
  decide

end Nvfm
