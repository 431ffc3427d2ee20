-- SUMMARY: What changing one file of a tree leaves to all other paths, and to a walk that takes nothing from that file.
import Nvfm.Files.Tree
import Mathlib.Data.List.Nodup
import Mathlib.Logic.Relation

/-!
# Frame

Creating the file at a path, and writing to it, change the tree along that path
alone. Each fact about such a change is one induction over the path. A walk meets
the changed file at one place, provided that the entries of a directory have names
of their own.
-/

namespace Files

variable {ν β : Type}

/-! ## Names of their own -/

mutual
/-- In every directory the entries have different names. -/
def Node.Distinct : Node ν β → Prop
  | .file _ _ _ _ => True
  | .dir _ _ _ entries => (entries.map Node.name).Nodup ∧ DistinctAll entries

def DistinctAll : List (Node ν β) → Prop
  | [] => True
  | node :: nodes => node.Distinct ∧ DistinctAll nodes
end

theorem distinctAll_iff {entries : List (Node ν β)} :
    DistinctAll entries ↔ ∀ e ∈ entries, e.Distinct := by
  induction entries with
  | nil => simp [DistinctAll]
  | cons e entries ih => simp [DistinctAll, ih]

theorem visitsAll_append (path : List ν) (entries entries' : List (Node ν β)) :
    visitsAll path (entries ++ entries') = visitsAll path entries ++ visitsAll path entries' := by
  induction entries with
  | nil => rfl
  | cons e entries ih =>
      rw [List.cons_append, visitsAll, visitsAll, ih, List.append_assoc]

/-- A walk meets what it meets below each entry. -/
theorem mem_visitsAll {path : List ν} {e : Node ν β} {entries : List (Node ν β)} (he : e ∈ entries)
    {v : Visit ν β} (hv : v ∈ e.visits (path ++ [e.name])) : v ∈ visitsAll path entries := by
  obtain ⟨before, after, rfl⟩ := List.append_of_mem he
  rw [visitsAll_append, visitsAll]
  exact List.mem_append_right _ (List.mem_append_left _ hv)

variable [DecidableEq ν]

/-! ## Entries -/

section Entries

variable {x y : ν} {e node : Node ν β} {entries : List (Node ν β)}

theorem mem_of_find (h : find x entries = some e) : e ∈ entries := List.mem_of_find?_eq_some h

theorem find_replace_of_ne (hname : node.name = x) (hne : y ≠ x) :
    find y (replace x node entries) = find y entries := by
  induction entries with
  | nil => rfl
  | cons e entries ih =>
      unfold find replace at *
      rw [List.map_cons, List.find?_cons, List.find?_cons, ih]
      by_cases he : e.name = x
      · simp [he, hname, hne.symm]
      · simp [he]

theorem find_insert_of_ne (hname : node.name = x) (hne : y ≠ x) (p : Node ν β → Bool) :
    find y (entries.takeWhile p ++ node :: entries.dropWhile p) = find y entries := by
  unfold find
  rw [List.find?_append, List.find?_cons_of_neg (by simp [hname, hne.symm]), ← List.find?_append,
    List.takeWhile_append_dropWhile]

/-- Where names are distinct, the entry that is found is replaced alone. -/
theorem replace_of_find (hdistinct : (entries.map Node.name).Nodup) (h : find x entries = some e) :
    ∃ before after, entries = before ++ e :: after ∧
      ∀ node : Node ν β, replace x node entries = before ++ node :: after := by
  have hname : e.name = x := name_find h
  obtain ⟨before, after, rfl⟩ := List.append_of_mem (mem_of_find h)
  refine ⟨before, after, rfl, ?_⟩
  intro node
  rw [List.map_append, List.map_cons, List.nodup_middle, List.nodup_cons, hname,
    ← List.map_append] at hdistinct
  have hkeep : ∀ e' ∈ before ++ after, (if e'.name = x then node else e') = e' := by
    intro e' he'
    exact if_neg fun heq => hdistinct.1 (List.mem_map.2 ⟨e', he', heq⟩)
  unfold replace
  rw [List.map_append, List.map_cons, if_pos hname,
    List.map_congr_left fun e' he' => hkeep e' (List.mem_append_left _ he'),
    List.map_congr_left fun e' he' => hkeep e' (List.mem_append_right _ he')]
  simp

theorem map_name_replace (hname : node.name = x) :
    (replace x node entries).map Node.name = entries.map Node.name := by
  unfold replace
  rw [List.map_map]
  apply List.map_congr_left
  intro e _
  by_cases he : e.name = x
  · simp [he, hname]
  · simp [he]

end Entries

/-! ## Looking up -/

section Lookup

variable {path : List ν} {node target : Node ν β}

theorem lookup_append (path path' : List ν) (node : Node ν β) :
    lookup (path ++ path') node = (lookup path node).bind (lookup path') := by
  induction path generalizing node with
  | nil => rfl
  | cons x path ih =>
      cases node with
      | file name readable writable c => rfl
      | dir name readable writable entries =>
          rw [List.cons_append, lookup, lookup]
          cases find x entries with
          | none => rfl
          | some e => exact ih e

/-- What is found at a path bears the last name of the path. -/
theorem name_of_lookup (h : lookup path node = some target) :
    (node.name :: path).getLast? = some target.name := by
  induction path generalizing node with
  | nil =>
      cases h
      rfl
  | cons x path ih =>
      cases node with
      | file name readable writable c => cases h
      | dir name readable writable entries =>
          rw [lookup] at h
          obtain ⟨e, hfind, he⟩ := Option.bind_eq_some_iff.1 h
          have hlast := ih he
          rw [name_find hfind] at hlast
          rw [List.getLast?_cons_cons]
          exact hlast

theorem distinct_of_lookup (hdistinct : node.Distinct) (h : lookup path node = some target) :
    target.Distinct := by
  induction path generalizing node with
  | nil =>
      cases h
      exact hdistinct
  | cons x path ih =>
      cases node with
      | file name readable writable c => cases h
      | dir name readable writable entries =>
          rw [lookup] at h
          obtain ⟨e, hfind, he⟩ := Option.bind_eq_some_iff.1 h
          rw [Node.Distinct] at hdistinct
          exact ih (distinctAll_iff.1 hdistinct.2 e (mem_of_find hfind)) he

/-- A walk comes to what is at a path, unless it fails on its way. -/
theorem mem_visits_of_lookup (h : lookup path node = some target) (start : List ν) :
    .entry (start ++ path) target ∈ node.visits start ∨ ∃ p, .failed p ∈ node.visits start := by
  induction path generalizing node start with
  | nil =>
      cases h
      left
      cases target with
      | file name readable writable c => simp [Node.visits]
      | dir name readable writable entries => simp [Node.visits]
  | cons x path ih =>
      cases node with
      | file name readable writable c => cases h
      | dir name readable writable entries =>
          rw [lookup] at h
          obtain ⟨e, hfind, he⟩ := Option.bind_eq_some_iff.1 h
          rw [Node.visits]
          cases readable with
          | false => exact .inr ⟨start, List.mem_cons_of_mem _ (List.mem_singleton_self _)⟩
          | true =>
              have hmem : ∀ {v : Visit ν β}, v ∈ e.visits (start ++ [x]) →
                  v ∈ visitsAll start entries := by
                intro v hv
                rw [← name_find hfind] at hv
                exact mem_visitsAll (mem_of_find hfind) hv
              rcases ih he (start ++ [x]) with hv | ⟨p, hv⟩
              · rw [List.append_assoc] at hv
                exact .inl (List.mem_cons_of_mem _ (hmem hv))
              · exact .inr ⟨p, List.mem_cons_of_mem _ (hmem hv)⟩

theorem content_cons (x : ν) (path : List ν) (name : ν) (readable writable : Bool)
    (entries : List (Node ν β)) :
    content (x :: path) (.dir name readable writable entries) =
      (find x entries).bind (content path) := by
  rw [content, lookup]
  cases find x entries with
  | none => rfl
  | some e => rfl

end Lookup

/-! ## Changing one file -/

/-- The second tree is the first with another file at the path: with other content, or
    a new one in its directory. -/
inductive Changed : List ν → Node ν β → Node ν β → Prop
  | file (name : ν) (readable writable : Bool) (c c' : β) :
      Changed [] (.file name readable writable c) (.file name readable writable c')
  | entry {name : ν} {readable writable : Bool} {x : ν} {path : List ν} {entries : List (Node ν β)}
      {e e' : Node ν β} (hfind : find x entries = some e) (he : Changed path e e') :
      Changed (x :: path) (.dir name readable writable entries)
        (.dir name readable writable (replace x e' entries))
  | new {name : ν} {readable writable : Bool} {x : ν} {entries : List (Node ν β)}
      (hfind : find x entries = none) (p : Node ν β → Bool) (r w : Bool) (c : β) :
      Changed [x] (.dir name readable writable entries)
        (.dir name readable writable (entries.takeWhile p ++ .file x r w c :: entries.dropWhile p))

theorem changed_of_create [LT ν] [DecidableLT ν] {empty : β} {path : List ν} {node node' : Node ν β}
    (h : create empty path node = some node') : Changed path node node' := by
  induction path generalizing node node' with
  | nil =>
      cases node with
      | dir name readable writable entries => cases h
      | file name readable writable c =>
          simp only [create] at h
          split at h
          · cases h
            exact .file name readable writable c empty
          · cases h
  | cons x path ih =>
      cases node with
      | file name readable writable c => cases h
      | dir name readable writable entries =>
          simp only [create] at h
          split at h
          · next e hfind =>
              obtain ⟨e', he', rfl⟩ := Option.map_eq_some_iff.1 h
              exact .entry hfind (ih he')
          · next hfind =>
              split at h
              · next hnew =>
                  cases h
                  obtain ⟨rfl, _⟩ := hnew
                  exact .new hfind _ true true empty
              · cases h

theorem changed_write {path : List ν} {node : Node ν β} (c : β)
    (hfile : (content path node).isSome = true) : Changed path node (write c path node) := by
  induction path generalizing node with
  | nil =>
      cases node with
      | dir name readable writable entries => cases hfile
      | file name readable writable c' => exact .file name readable writable c' c
  | cons x path ih =>
      cases node with
      | file name readable writable c' => cases hfile
      | dir name readable writable entries =>
          rw [content_cons] at hfile
          rw [write]
          cases hfind : find x entries with
          | none =>
              rw [hfind] at hfile
              cases hfile
          | some e =>
              rw [hfind] at hfile
              exact .entry hfind (ih hfile)

namespace Changed

variable {path : List ν} {node node' : Node ν β}

theorem name_eq (h : Changed path node node') : node'.name = node.name := by
  cases h with
  | file name readable writable c c' => rfl
  | entry hfind he => rfl
  | new hfind p r w c => rfl

/-- The changed entry keeps its name. -/
theorem name_entry {x : ν} {entries : List (Node ν β)} {e e' : Node ν β} (h : Changed path e e')
    (hfind : find x entries = some e) : e'.name = x :=
  h.name_eq.trans (name_find hfind)

/-- Only what is on the way to the file is another. -/
theorem lookup_eq (h : Changed path node node') {path' : List ν} (hpath : ¬ path' <+: path) :
    lookup path' node' = lookup path' node := by
  cases path' with
  | nil => exact absurd (List.nil_prefix) hpath
  | cons y path' =>
      induction h generalizing y path' with
      | file name readable writable c c' => rfl
      | @entry name readable writable x path entries e e' hfind he ih =>
          rw [lookup, lookup]
          by_cases hy : y = x
          · subst hy
            rw [List.cons_prefix_cons] at hpath
            rw [find_replace (he.name_entry hfind) (by rw [hfind]; rfl), hfind, Option.bind_some,
              Option.bind_some]
            cases path' with
            | nil => exact absurd ⟨rfl, List.nil_prefix⟩ hpath
            | cons z path' => exact ih z path' fun hprefix => hpath ⟨rfl, hprefix⟩
          · rw [find_replace_of_ne (he.name_entry hfind) hy]
      | @new name readable writable x entries hfind p r w c =>
          rw [lookup, lookup]
          by_cases hy : y = x
          · subst hy
            rw [List.cons_prefix_cons] at hpath
            rw [find_insert hfind rfl, hfind]
            cases path' with
            | nil => exact absurd ⟨rfl, List.nil_prefix⟩ hpath
            | cons z path' => rfl
          · rw [find_insert_of_ne rfl hy]

/-- Every other file keeps its content. -/
theorem content_eq (h : Changed path node node') {path' : List ν} (hpath : path' ≠ path) :
    content path' node' = content path' node := by
  induction h generalizing path' with
  | file name readable writable c c' =>
      cases path' with
      | nil => exact absurd rfl hpath
      | cons y path' => rfl
  | @entry name readable writable x path entries e e' hfind he ih =>
      cases path' with
      | nil => rfl
      | cons y path' =>
          rw [content_cons, content_cons]
          by_cases hy : y = x
          · subst hy
            rw [find_replace (he.name_entry hfind) (by rw [hfind]; rfl), hfind]
            exact ih fun heq => hpath (by rw [heq])
          · rw [find_replace_of_ne (he.name_entry hfind) hy]
  | @new name readable writable x entries hfind p r w c =>
      cases path' with
      | nil => rfl
      | cons y path' =>
          rw [content_cons, content_cons]
          by_cases hy : y = x
          · subst hy
            rw [find_insert hfind rfl, hfind]
            cases path' with
            | nil => exact absurd rfl hpath
            | cons z path' => rfl
          · rw [find_insert_of_ne rfl hy]

theorem distinct (h : Changed path node node') (hdistinct : node.Distinct) : node'.Distinct := by
  induction h with
  | file name readable writable c c' => exact trivial
  | @entry name readable writable x path entries e e' hfind he ih =>
      rw [Node.Distinct, distinctAll_iff] at hdistinct ⊢
      refine ⟨by rw [map_name_replace (he.name_entry hfind)]; exact hdistinct.1, ?_⟩
      intro e'' he''
      obtain ⟨e₀, he₀, rfl⟩ := List.mem_map.1 he''
      split
      · exact ih (hdistinct.2 e (mem_of_find hfind))
      · exact hdistinct.2 e₀ he₀
  | @new name readable writable x entries hfind p r w c =>
      have hperm : (entries.takeWhile p ++ .file x r w c :: entries.dropWhile p).Perm
          (.file x r w c :: entries) := by
        refine List.perm_middle.trans ?_
        rw [List.takeWhile_append_dropWhile]
      have hfresh : x ∉ entries.map Node.name := by
        intro hx
        obtain ⟨e, he, hname⟩ := List.mem_map.1 hx
        exact List.find?_eq_none.1 hfind e he (decide_eq_true hname)
      rw [Node.Distinct, distinctAll_iff] at hdistinct ⊢
      refine ⟨(hperm.map Node.name).nodup_iff.2 (List.nodup_cons.2 ⟨hfresh, hdistinct.1⟩), ?_⟩
      intro e he
      rcases List.mem_cons.1 (hperm.mem_iff.1 he) with rfl | he
      · exact trivial
      · exact hdistinct.2 e he

/-- Below a directory on the way to the file, the change is that of the rest of the path. -/
theorem below_dir {dir rest : List ν} (h : Changed (dir ++ rest) node node') (hrest : rest ≠ []) :
    ∃ root root', lookup dir node = some root ∧ lookup dir node' = some root' ∧
      Changed rest root root' := by
  induction dir generalizing node node' with
  | nil => exact ⟨node, node', rfl, rfl, h⟩
  | cons x dir ih =>
      rw [List.cons_append] at h
      generalize hpath : dir ++ rest = path at h
      cases h with
      | @entry name readable writable x path entries e e' hfind he =>
          subst hpath
          obtain ⟨root, root', hroot, hroot', hchanged⟩ := ih he
          refine ⟨root, root', ?_, ?_, hchanged⟩
          · rw [lookup, hfind]
            exact hroot
          · rw [lookup, find_replace (he.name_entry hfind) (by rw [hfind]; rfl)]
            exact hroot'
      | new hfind p r w c => exact absurd (List.append_eq_nil_iff.1 hpath).2 hrest

/-- A directory that is not itself the changed file stays one. -/
theorem isDir {dir : List ν} (h : Changed path node node') (hne : path ≠ dir) (hdir : IsDir dir node) :
    IsDir dir node' := by
  by_cases hbelow : dir <+: path
  · obtain ⟨rest, rfl⟩ := hbelow
    have hrest : rest ≠ [] := by
      rintro rfl
      exact hne (List.append_nil dir)
    obtain ⟨root, root', _, hroot', hchanged⟩ := h.below_dir hrest
    cases hchanged with
    | file name readable writable c c' => exact absurd rfl hrest
    | entry hfind he => exact ⟨_, _, _, _, hroot'⟩
    | new hfind p r w c => exact ⟨_, _, _, _, hroot'⟩
  · obtain ⟨name, readable, writable, entries, hlookup⟩ := hdir
    exact ⟨name, readable, writable, entries, (h.lookup_eq hbelow).trans hlookup⟩

/-- A walk that takes nothing from directories and from files of the name `x` finds the
    same in both trees, where `x` is the name of the changed file. -/
theorem filterMap_visits {γ : Type} {f : Visit ν β → Option γ} {x : ν}
    (hdir : ∀ start name readable writable entries,
      f (.entry start (.dir name readable writable entries)) = none)
    (hfile : ∀ start readable writable c, f (.entry start (.file x readable writable c)) = none)
    (h : Changed path node node') (hlast : (node.name :: path).getLast? = some x)
    (hdistinct : node.Distinct) (start : List ν) :
    (node'.visits start).filterMap f = (node.visits start).filterMap f := by
  induction h generalizing start with
  | file name readable writable c c' =>
      obtain rfl : name = x := by simpa [Node.name] using hlast
      simp [Node.visits, hfile]
  | @entry name readable writable y path entries e e' hfind he ih =>
      rw [Node.Distinct, distinctAll_iff] at hdistinct
      have hlast : (e.name :: path).getLast? = some x := by
        rw [name_find hfind]
        rwa [List.getLast?_cons_cons] at hlast
      have ih := ih hlast (hdistinct.2 e (mem_of_find hfind)) (start ++ [e.name])
      obtain ⟨before, after, hentries, hreplace⟩ := replace_of_find hdistinct.1 hfind
      rw [hreplace, hentries]
      simp only [Node.visits, visitsAll_append, visitsAll, he.name_eq]
      split
      · simp only [List.filterMap_cons, List.filterMap_append, hdir, ih]
      · simp only [List.filterMap_cons, hdir]
  | @new name readable writable y entries hfind p r w c =>
      obtain rfl : y = x := by simpa using hlast
      have hsplit := congrArg (visitsAll start) (List.takeWhile_append_dropWhile (p := p) (l := entries))
      rw [visitsAll_append] at hsplit
      simp only [Node.visits, visitsAll_append, visitsAll]
      split
      · rw [← hsplit]
        simp only [List.filterMap_cons, List.filterMap_append, hdir, hfile, List.nil_append,
          List.filterMap_nil]
      · simp only [List.filterMap_cons, hdir]

end Changed

/-- What one change keeps, any number of changes keep. -/
theorem eq_of_changes {γ : Type} {g : Node ν β → γ} {path : List ν}
    (hstep : ∀ node node', Changed path node node' → g node' = g node) {node node' : Node ν β}
    (h : Relation.ReflTransGen (Changed path) node node') : g node' = g node := by
  induction h with
  | refl => rfl
  | tail _ hlast ih => exact (hstep _ _ hlast).trans ih

end Files
