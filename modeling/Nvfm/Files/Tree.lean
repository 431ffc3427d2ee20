-- SUMMARY: Trees of files: walking one, looking a path up, and creating and writing the file at a path.
import Mathlib.Data.List.Basic

/-!
# File Trees

A directory lists its entries in the order in which they are read. Walking a tree
calls a function for every entry, and once more for a directory that cannot be
read; it stops at the first error. So a walk is a fold over the visits of the
tree. Names have the type `ν` and contents the type `β`.
-/

namespace Files

inductive Node (ν β : Type) where
  | file (name : ν) (readable writable : Bool) (content : β)
  | dir (name : ν) (readable writable : Bool) (entries : List (Node ν β))

variable {ν β σ ε : Type}

def Node.name : Node ν β → ν
  | file name _ _ _ => name
  | dir name _ _ _ => name

/-! ## Walking -/

/-- What a walk calls its function for: an entry, or the failure to read what is at
    the path. Paths start at the root of the walk. -/
inductive Visit (ν β : Type) where
  | entry (path : List ν) (node : Node ν β)
  | failed (path : List ν)

mutual
/-- The visits of a node at `path`, in order. -/
def Node.visits (path : List ν) : Node ν β → List (Visit ν β)
  | .file name readable writable content => [.entry path (.file name readable writable content)]
  | .dir name readable writable entries =>
      .entry path (.dir name readable writable entries) ::
        (if readable then visitsAll path entries else [.failed path])

/-- The visits of the entries of the directory at `path`. -/
def visitsAll (path : List ν) : List (Node ν β) → List (Visit ν β)
  | [] => []
  | node :: nodes => node.visits (path ++ [node.name]) ++ visitsAll path nodes
end

mutual
/-- `walkDir`: call `fn` for the node at `path` and what is below it. -/
def Node.walk (fn : Visit ν β → σ → Except ε σ) (path : List ν) : Node ν β → σ → Except ε σ
  | .file name readable writable content, s =>
      fn (.entry path (.file name readable writable content)) s
  | .dir name readable writable entries, s => do
      let s ← fn (.entry path (.dir name readable writable entries)) s
      if readable then walkAll fn path entries s else fn (.failed path) s

/-- The loop of `walkDir` over the entries of the directory at `path`. -/
def walkAll (fn : Visit ν β → σ → Except ε σ) (path : List ν) : List (Node ν β) → σ → Except ε σ
  | [], s => .ok s
  | node :: nodes, s => do
      let s ← node.walk fn (path ++ [node.name]) s
      walkAll fn path nodes s
end

/-- `WalkDir`, where there may be nothing at the root. -/
def WalkDir (fn : Visit ν β → σ → Except ε σ) (root : Option (Node ν β)) (s : σ) : Except ε σ :=
  match root with
  | none => fn (.failed []) s
  | some root => root.walk fn [] s

def visits (root : Option (Node ν β)) : List (Visit ν β) :=
  match root with
  | none => [.failed []]
  | some root => root.visits []

mutual
theorem Node.walk_eq_foldlM (fn : Visit ν β → σ → Except ε σ) (path : List ν) (node : Node ν β)
    (s : σ) : node.walk fn path s = (node.visits path).foldlM (fun s v => fn v s) s := by
  cases node with
  | file name readable writable content =>
      simp only [Node.walk, Node.visits, List.foldlM_cons, List.foldlM_nil, bind_pure]
  | dir name readable writable entries =>
      simp only [Node.walk, Node.visits, List.foldlM_cons]
      congr 1
      funext s
      split
      · exact walkAll_eq_foldlM fn path entries s
      · simp only [List.foldlM_cons, List.foldlM_nil, bind_pure]

theorem walkAll_eq_foldlM (fn : Visit ν β → σ → Except ε σ) (path : List ν)
    (nodes : List (Node ν β)) (s : σ) :
    walkAll fn path nodes s = (visitsAll path nodes).foldlM (fun s v => fn v s) s := by
  cases nodes with
  | nil => rfl
  | cons node nodes =>
      simp only [walkAll, visitsAll, List.foldlM_append]
      rw [Node.walk_eq_foldlM fn (path ++ [node.name]) node s]
      congr 1
      funext s
      exact walkAll_eq_foldlM fn path nodes s
end

/-- A walk is a fold over the visits of the tree. -/
theorem WalkDir_eq_foldlM (fn : Visit ν β → σ → Except ε σ) (root : Option (Node ν β)) (s : σ) :
    WalkDir fn root s = (visits root).foldlM (fun s v => fn v s) s := by
  cases root with
  | none => simp only [WalkDir, visits, List.foldlM_cons, List.foldlM_nil, bind_pure]
  | some root => exact root.walk_eq_foldlM fn [] s

/-! ## Paths -/

section Paths

variable [DecidableEq ν]

/-- The entry of the name `x`. -/
def find (x : ν) (entries : List (Node ν β)) : Option (Node ν β) :=
  entries.find? fun e => e.name = x

/-- The entries with `node` in the place of those of the name `x`. -/
def replace (x : ν) (node : Node ν β) (entries : List (Node ν β)) : List (Node ν β) :=
  entries.map fun e => if e.name = x then node else e

theorem name_find {x : ν} {e : Node ν β} {entries : List (Node ν β)} (h : find x entries = some e) :
    e.name = x := by
  simpa using List.find?_some h

theorem find_replace {x : ν} {node : Node ν β} {entries : List (Node ν β)} (hname : node.name = x)
    (hfind : (find x entries).isSome) : find x (replace x node entries) = some node := by
  induction entries with
  | nil => cases hfind
  | cons e entries ih =>
      unfold find replace at *
      by_cases he : e.name = x
      · simp [he, hname]
      · simp only [List.find?_cons, he, decide_false] at hfind
        simp only [List.map_cons, he, if_false, List.find?_cons, decide_false]
        exact ih hfind

theorem replace_replace {x : ν} {node node' : Node ν β} (hname : node'.name = x)
    (entries : List (Node ν β)) :
    replace x node (replace x node' entries) = replace x node entries := by
  unfold replace
  rw [List.map_map]
  apply List.map_congr_left
  intro e _
  by_cases he : e.name = x
  · simp [he, hname]
  · simp [he]

/-- A new entry is found under its name. -/
theorem find_insert {x : ν} {node : Node ν β} {entries : List (Node ν β)}
    (hnone : find x entries = none) (hname : node.name = x) (p : Node ν β → Bool) :
    find x (entries.takeWhile p ++ node :: entries.dropWhile p) = some node := by
  unfold find at *
  rw [List.find?_append]
  have hbefore : (entries.takeWhile p).find? (fun e => decide (e.name = x)) = none := by
    rw [List.find?_eq_none] at hnone ⊢
    intro e he
    exact hnone e ((List.takeWhile_prefix p).subset he)
  rw [hbefore, List.find?_cons_of_pos (by simp [hname])]
  rfl

/-- A new entry is replaced alone. -/
theorem replace_insert {x : ν} {node node' : Node ν β} {entries : List (Node ν β)}
    (hnone : find x entries = none) (hname : node.name = x) (p : Node ν β → Bool) :
    replace x node' (entries.takeWhile p ++ node :: entries.dropWhile p) =
      entries.takeWhile p ++ node' :: entries.dropWhile p := by
  have hne : ∀ e ∈ entries, e.name ≠ x := by
    intro e he
    simpa using List.find?_eq_none.1 hnone e he
  have hkeep : ∀ es : List (Node ν β), es ⊆ entries →
      es.map (fun e => if e.name = x then node' else e) = es := by
    intro es hes
    refine (List.map_congr_left ?_).trans (List.map_id es)
    intro e he
    exact if_neg (hne e (hes he))
  unfold replace
  rw [List.map_append, List.map_cons, if_pos hname,
    hkeep _ (List.takeWhile_prefix p).subset, hkeep _ (List.dropWhile_suffix p).subset]

/-- What is at a path below a node. -/
def lookup : List ν → Node ν β → Option (Node ν β)
  | [], node => some node
  | _ :: _, .file _ _ _ _ => none
  | x :: path, .dir _ _ _ entries => (find x entries).bind (lookup path)

/-- The content of the file at a path, if there is one. -/
def content (path : List ν) (root : Node ν β) : Option β :=
  match lookup path root with
  | some (.file _ _ _ c) => some c
  | _ => none

/-- There is a directory at a path. -/
def IsDir (path : List ν) (root : Node ν β) : Prop :=
  ∃ name readable writable entries, lookup path root = some (.dir name readable writable entries)

/-- `os.Create`: the tree with an empty file at the path. A file that is there is opened
    for reading and writing, and truncated; a new one becomes an entry of its directory. -/
def create [LT ν] [DecidableLT ν] (empty : β) : List ν → Node ν β → Option (Node ν β)
  | [], .file name readable writable _ =>
      if readable ∧ writable then some (.file name readable writable empty) else none
  | [], .dir _ _ _ _ => none
  | _ :: _, .file _ _ _ _ => none
  | x :: path, .dir name readable writable entries =>
      match find x entries with
      | some e => (create empty path e).map fun e' => .dir name readable writable (replace x e' entries)
      | none =>
          if path = [] ∧ writable then
            some (.dir name readable writable (entries.takeWhile (·.name < x) ++
              .file x true true empty :: entries.dropWhile (·.name < x)))
          else none

/-- The tree with the content `c` in the file at the path. -/
def write (c : β) : List ν → Node ν β → Node ν β
  | [], .file name readable writable _ => .file name readable writable c
  | [], .dir name readable writable entries => .dir name readable writable entries
  | _ :: _, .file name readable writable c' => .file name readable writable c'
  | x :: path, .dir name readable writable entries =>
      match find x entries with
      | some e => .dir name readable writable (replace x (write c path e) entries)
      | none => .dir name readable writable entries

theorem name_write (c : β) (path : List ν) (node : Node ν β) : (write c path node).name = node.name := by
  unfold write
  split
  · rfl
  · rfl
  · rfl
  · split
    · rfl
    · rfl

/-- Writing to a file leaves the content there. -/
theorem content_write {path : List ν} {node : Node ν β} (c : β)
    (hfile : (content path node).isSome = true) : content path (write c path node) = some c := by
  induction path generalizing node with
  | nil =>
      cases node with
      | file name readable writable c' => rfl
      | dir name readable writable entries => cases hfile
  | cons x path ih =>
      cases node with
      | file name readable writable c' => cases hfile
      | dir name readable writable entries =>
          cases hfind : find x entries with
          | none => simp [content, lookup, hfind] at hfile
          | some e =>
              have hname : (write c path e).name = x := by
                rw [name_write]
                exact name_find hfind
              have he : (content path e).isSome = true := by
                simpa [content, lookup, hfind] using hfile
              simp only [content, lookup, write, hfind]
              rw [find_replace hname (by rw [hfind]; rfl)]
              exact ih he

section Create

variable [LT ν] [DecidableLT ν] {empty : β}

theorem name_create {path : List ν} {node node' : Node ν β} (h : create empty path node = some node') :
    node'.name = node.name := by
  unfold create at h
  split at h
  · split at h
    · cases h
      rfl
    · cases h
  · cases h
  · cases h
  · split at h
    · obtain ⟨e', _, rfl⟩ := Option.map_eq_some_iff.1 h
      rfl
    · split at h
      · cases h
        rfl
      · cases h

/-- What `create` leaves at the path is an empty file that can be read and written. -/
theorem lookup_create {path : List ν} {node node' : Node ν β}
    (h : create empty path node = some node') :
    ∃ name, lookup path node' = some (.file name true true empty) := by
  induction path generalizing node node' with
  | nil =>
      cases node with
      | file name readable writable c =>
          simp only [create] at h
          split at h
          · next hopens =>
              cases h
              obtain ⟨rfl, rfl⟩ := hopens
              exact ⟨name, rfl⟩
          · cases h
      | dir name readable writable entries => cases h
  | cons x path ih =>
      cases node with
      | file name readable writable c => cases h
      | dir name readable writable entries =>
          simp only [create] at h
          split at h
          · next e hfind =>
              obtain ⟨e', he', rfl⟩ := Option.map_eq_some_iff.1 h
              have hname : e'.name = x := by
                rw [name_create he']
                exact name_find hfind
              simp only [lookup]
              rw [find_replace hname (by rw [hfind]; rfl)]
              exact ih he'
          · next hnone =>
              split at h
              · next hnew =>
                  cases h
                  obtain ⟨rfl, _⟩ := hnew
                  simp only [lookup]
                  rw [find_insert hnone rfl]
                  exact ⟨x, rfl⟩
              · cases h

/-- A directory is not created once more. -/
theorem create_of_isDir {path : List ν} {node : Node ν β} (h : IsDir path node) :
    create empty path node = none := by
  obtain ⟨name, readable, writable, entries, hlookup⟩ := h
  induction path generalizing node with
  | nil =>
      cases hlookup
      rfl
  | cons x path ih =>
      cases node with
      | file name' readable' writable' c => cases hlookup
      | dir name' readable' writable' entries' =>
          rw [lookup] at hlookup
          obtain ⟨e, hfind, he⟩ := Option.bind_eq_some_iff.1 hlookup
          simp only [create, hfind]
          rw [ih he, Option.map_none]

theorem content_create {path : List ν} {node node' : Node ν β}
    (h : create empty path node = some node') : content path node' = some empty := by
  obtain ⟨name, hlookup⟩ := lookup_create h
  rw [content, hlookup]

/-- Creating a file once more takes back what was written to it. -/
theorem create_write {path : List ν} {node node' : Node ν β} (c : β)
    (h : create empty path node = some node') :
    create empty path (write c path node') = some node' := by
  induction path generalizing node node' with
  | nil =>
      cases node with
      | file name readable writable c' =>
          simp only [create] at h
          split at h
          · next hopens =>
              cases h
              simp only [write, create, if_pos hopens]
          · cases h
      | dir name readable writable entries => cases h
  | cons x path ih =>
      cases node with
      | file name readable writable c' => cases h
      | dir name readable writable entries =>
          simp only [create] at h
          split at h
          · next e hfind =>
              obtain ⟨e', he', rfl⟩ := Option.map_eq_some_iff.1 h
              have hname : e'.name = x := by
                rw [name_create he']
                exact name_find hfind
              have hsome : (find x entries).isSome = true := by
                rw [hfind]
                rfl
              have hwritten : (write c path e').name = x := (name_write c path e').trans hname
              simp only [write, find_replace hname hsome, replace_replace hname, create,
                find_replace hwritten hsome, ih he', replace_replace hwritten, Option.map_some]
          · next hnone =>
              split at h
              · next hnew =>
                  cases h
                  obtain ⟨rfl, _⟩ := hnew
                  have hname : ∀ c : β, (Node.file x true true c).name = x := fun _ => rfl
                  simp only [write, find_insert hnone (hname empty), replace_insert hnone (hname empty),
                    create, find_insert hnone (hname c), replace_insert hnone (hname c), and_self, if_true,
                    Option.map_some]
              · cases h

end Create

end Paths

end Files
