-- SUMMARY: A run of the generator over a file system, and what is left in its output file.
import Nvfm.Generator.Extract
import Nvfm.Generator.Text

/-!
# A Run

The output file is created before anything is read, and written once at the end.
Creating a file truncates it, so a run that fails in between leaves it empty.
-/

namespace Nvfm.Generator

open Go Files

variable {τ : Type}

/-- How a run ends. -/
inductive Exit where
  | usage
  | createFailed
  | extractFailed
  | formatFailed
  | writeFailed
  | ok
deriving DecidableEq

/-- The exit status of the process. -/
def Exit.status : Exit → Nat
  | .usage => 2
  | .ok => 0
  | _ => 1

theorem Exit.eq_ok_of_status {e : Exit} (h : e.status = 0) : e = .ok := by
  cases e with
  | ok => rfl
  | _ => cases h

/-- The run ends without an attempt to write. -/
def Exit.beforeWrite : Exit → Bool
  | .writeFailed => false
  | .ok => false
  | _ => true

/-- `getWriter`: without an output path the writer is the standard output. -/
def getWriter (output : Option (List GoString)) (fs : Tree) : Option Tree :=
  match output with
  | none => some fs
  | some path => create [] path fs

/-- One turn of the loop of `main` over the interfaces, with the index of the interface. -/
def appendInterface (T : Tools τ) (S : MethodSort τ) (root : Option Tree) (buf : GoString)
    (entry : GeneratableInterface × Nat) : Except ExtractError GoString := do
  let methods ← extractMethods T S root entry.1
  let buf := if entry.1.PackageMethodsAliasedFrom ≠ [] then
    buf ++ packageMethods entry.1 methods ++ ascii "\n" else buf
  let buf := buf ++ interfaceDefinition T entry.1 methods
  return if entry.2 < generatableInterfaces.length - 1 then buf ++ ascii "\n" else buf

/-- What `main` collects in its buffer. -/
def generate (T : Tools τ) (S : MethodSort τ) (comment : GoString) (root : Option Tree) :
    Except ExtractError GoString :=
  generatableInterfaces.zipIdx.foldlM (appendInterface T S root) (header comment)

/-- `writer.Write`. A write that fails has written the first `n` bytes. -/
def writeOutput (output : Option (List GoString)) (formatted : GoString) (failed : Option Nat)
    (fs : Tree) : Tree :=
  match output with
  | none => fs
  | some path =>
      match failed with
      | none => write formatted path fs
      | some n => write (formatted.take n) path fs

/-- `main`, with `none` for a flag that is empty. The last argument tells whether the
    write fails. -/
def main (T : Tools τ) (S : MethodSort τ) (comment : GoString) (fs : Tree)
    (sourceDir output : Option (List GoString)) (failed : Option Nat) : Exit × Tree :=
  match sourceDir with
  | none => (.usage, fs)
  | some dir =>
      match getWriter output fs with
      | none => (.createFailed, fs)
      | some fs =>
          match generate T S comment (lookup dir fs) with
          | .error _ => (.extractFailed, fs)
          | .ok buf =>
              match T.formatSource buf with
              | none => (.formatFailed, fs)
              | some formatted =>
                  (if failed.isSome then .writeFailed else .ok, writeOutput output formatted failed fs)

/-! ## The buffer -/

section Buffer

variable {T : Tools τ} {root : Option Tree}

/-- The buffer after the loop, for the methods of each interface. -/
def generated (T : Tools τ) (comment : GoString)
    (methods : GeneratableInterface → List (FuncDecl τ)) : GoString :=
  header comment ++ packageMethods libraryInterface (methods libraryInterface) ++ ascii "\n" ++
    interfaceDefinition T libraryInterface (methods libraryInterface) ++ ascii "\n" ++
    interfaceDefinition T fabricManagerInterface (methods fabricManagerInterface)

/-- The methods of an interface that the walk finds, sorted. -/
def sortedMethods (T : Tools τ) (S : MethodSort τ) (root : Option Tree) (iface : GeneratableInterface) :
    List (FuncDecl τ) :=
  S.sort ((functions T root).filter (·.isMethodOf T iface))

theorem generate_of_parses (h : Parses T root) (S : MethodSort τ) (comment : GoString) :
    generate T S comment root = .ok (generated T comment (sortedMethods T S root)) := by
  have hextract : ∀ iface, extractMethods T S root iface = .ok (sortedMethods T S root iface) :=
    fun iface => extractMethods_of_parses h S iface
  unfold generate generatableInterfaces
  simp only [List.zipIdx_cons, List.zipIdx_nil, List.foldlM_cons, List.foldlM_nil, appendInterface,
    hextract]
  rfl

/-- A tree that does not parse stops the loop at its first turn. -/
theorem generate_of_not_parses (h : ¬ Parses T root) (S : MethodSort τ) (comment : GoString) :
    ∃ e, generate T S comment root = .error e := by
  obtain ⟨e, he⟩ := extractMethods_of_not_parses h S libraryInterface
  refine ⟨e, ?_⟩
  unfold generate generatableInterfaces
  simp only [List.zipIdx_cons, List.foldlM_cons, appendInterface, he]
  rfl

end Buffer

/-- The tree below the source directory as it is when the walk starts. -/
def walkedTree (fs : Tree) (dir : List GoString) (output : Option (List GoString)) : Option Tree :=
  (getWriter output fs).bind (lookup dir)

/-! ## The output file -/

section Output

variable {T : Tools τ} {S : MethodSort τ} {comment : GoString} {fs : Tree}
variable {sourceDir output : Option (List GoString)} {failed : Option Nat}

/-- What the output file holds, if there is one. -/
def outputContent (output : Option (List GoString)) (fs : Tree) : Option (List UInt8) :=
  output.bind fun path => content path fs

/-- The runs for which opening the output changes nothing: there is no output file to
    open, opening it fails, or it is empty before. -/
def OpensUnchanged (fs : Tree) (sourceDir output : Option (List GoString)) : Prop :=
  sourceDir = none ∨ output = none ∨
    ∃ path, output = some path ∧ (create [] path fs = none ∨ content path fs = some [])

/-- A run that succeeds has formatted what it collected, and written that. -/
theorem main_ok (h : (main T S comment fs sourceDir output failed).1 = .ok) :
    ∃ dir fs' buf formatted, sourceDir = some dir ∧ getWriter output fs = some fs' ∧
      generate T S comment (lookup dir fs') = .ok buf ∧ T.formatSource buf = some formatted ∧
      main T S comment fs sourceDir output failed = (.ok, writeOutput output formatted none fs') := by
  unfold main at h ⊢
  cases sourceDir with
  | none => cases h
  | some dir =>
      cases hwriter : getWriter output fs with
      | none =>
          rw [hwriter] at h
          cases h
      | some fs' =>
          simp only [hwriter] at h
          cases hgen : generate T S comment (lookup dir fs') with
          | error e =>
              rw [hgen] at h
              cases h
          | ok buf =>
              simp only [hgen] at h
              cases hformat : T.formatSource buf with
              | none =>
                  rw [hformat] at h
                  cases h
              | some formatted =>
                  simp only [hformat] at h
                  cases failed with
                  | some n => cases h
                  | none => exact ⟨dir, fs', buf, formatted, rfl, rfl, hgen, hformat, by simp [hgen, hformat]⟩

/-- A run that ends after it has opened the output and before it writes leaves what
    opening the output has left. -/
theorem main_beforeWrite {dir : List GoString} {fs' : Tree} (hwriter : getWriter output fs = some fs')
    (h : (main T S comment fs (some dir) output failed).1.beforeWrite = true) :
    (main T S comment fs (some dir) output failed).2 = fs' := by
  unfold main at h ⊢
  simp only [hwriter] at h ⊢
  split
  · rfl
  · next buf hgen =>
      split
      · rfl
      · next formatted hformat =>
          simp only [hgen, hformat] at h
          cases failed with
          | none => cases h
          | some n => cases h

/-- A run that fails before it writes keeps what the output file held exactly when opening
    the output changes nothing. A run that succeeds leaves the formatted text there. -/
theorem main_output (T : Tools τ) (S : MethodSort τ) (comment : GoString) (fs : Tree)
    (sourceDir output : Option (List GoString)) (failed : Option Nat) :
    ((main T S comment fs sourceDir output failed).1.beforeWrite = true →
      (outputContent output (main T S comment fs sourceDir output failed).2 = outputContent output fs ↔
        OpensUnchanged fs sourceDir output)) ∧
    ((main T S comment fs sourceDir output failed).1.status = 0 → ∀ path, output = some path →
      ∃ dir fs' buf, sourceDir = some dir ∧ create [] path fs = some fs' ∧
        generate T S comment (lookup dir fs') = .ok buf ∧
        content path (main T S comment fs sourceDir output failed).2 = T.formatSource buf) := by
  constructor
  · intro hfail
    cases sourceDir with
    | none => exact iff_of_true rfl (.inl rfl)
    | some dir =>
        cases output with
        | none => exact iff_of_true rfl (.inr (.inl rfl))
        | some path =>
            cases hcreate : create [] path fs with
            | none =>
                have hsame : (main T S comment fs (some dir) (some path) failed).2 = fs := by
                  unfold main
                  simp [getWriter, hcreate]
                rw [hsame]
                exact iff_of_true rfl (.inr (.inr ⟨path, rfl, .inl hcreate⟩))
            | some fs' =>
                have hwriter : getWriter (some path) fs = some fs' := hcreate
                rw [main_beforeWrite hwriter hfail]
                change content path fs' = content path fs ↔ _
                rw [content_create hcreate]
                constructor
                · intro h
                  exact .inr (.inr ⟨path, rfl, .inr h.symm⟩)
                · rintro (h | h | ⟨path', h, hnone | hempty⟩)
                  · cases h
                  · cases h
                  · cases h
                    rw [hcreate] at hnone
                    cases hnone
                  · cases h
                    exact hempty.symm
  · rintro hstatus path rfl
    obtain ⟨dir, fs', buf, formatted, hdir, hcreate, hgen, hformat, hmain⟩ :=
      main_ok (Exit.eq_ok_of_status hstatus)
    refine ⟨dir, fs', buf, hdir, hcreate, hgen, ?_⟩
    have hfile : (content path fs').isSome = true := by
      rw [content_create hcreate]
      rfl
    rw [hmain, hformat]
    exact content_write formatted hfile

end Output

/-! ## A source file that does not parse -/

section Broken

/-- A receiver that is not closed. -/
def brokenSource : List UInt8 := ascii "package nvfm\n\nfunc (l *library Init() Return\n"

def previousText : List UInt8 := ascii "package nvfm\n\ntype Interface interface {}\n"

/-- A source file that does not parse, beside what was generated before. -/
def brokenTree (previous : List UInt8) : Tree :=
  .dir (ascii "go-nvfm") true true
    [.dir (ascii "nvfm") true true
      [.file (ascii "lib.go") true true brokenSource,
       .file (ascii "zz_generated.api.go") true true previous]]

/-- The run fails, and the file that was generated before is empty. -/
theorem main_truncates :
    ¬ ((main (tableTools []) (SortSlice.insertion _) [] (brokenTree previousText) (some [ascii "nvfm"])
          (some [ascii "nvfm", ascii "zz_generated.api.go"]) none).1.beforeWrite = true →
        outputContent (some [ascii "nvfm", ascii "zz_generated.api.go"])
            (main (tableTools []) (SortSlice.insertion _) [] (brokenTree previousText)
              (some [ascii "nvfm"]) (some [ascii "nvfm", ascii "zz_generated.api.go"]) none).2 =
          outputContent (some [ascii "nvfm", ascii "zz_generated.api.go"]) (brokenTree previousText)) := by
  decide

/-- A source directory without sources, beside what was generated before. -/
def bareTree : Tree :=
  .dir (ascii "go-nvfm") true true
    [.dir (ascii "nvfm") true true [.file (ascii "zz_generated.api.go") true true previousText]]

/-- A run that fails over an empty output, and one that succeeds over an earlier one. -/
theorem main_output_broken :
    outputContent (some [ascii "nvfm", ascii "zz_generated.api.go"])
        (main (tableTools []) (SortSlice.insertion _) [] (brokenTree []) (some [ascii "nvfm"])
          (some [ascii "nvfm", ascii "zz_generated.api.go"]) none).2 =
      outputContent (some [ascii "nvfm", ascii "zz_generated.api.go"]) (brokenTree []) ∧
    ∃ dir fs' buf, some [ascii "nvfm"] = some dir ∧
      create [] [ascii "nvfm", ascii "zz_generated.api.go"] bareTree = some fs' ∧
      generate (tableTools []) (SortSlice.insertion _) [] (lookup dir fs') = .ok buf ∧
      content [ascii "nvfm", ascii "zz_generated.api.go"]
        (main (tableTools []) (SortSlice.insertion _) [] bareTree (some [ascii "nvfm"])
          (some [ascii "nvfm", ascii "zz_generated.api.go"]) none).2 = some buf := by
  constructor
  · refine ((main_output (tableTools []) (SortSlice.insertion _) [] (brokenTree [])
      (some [ascii "nvfm"]) (some [ascii "nvfm", ascii "zz_generated.api.go"]) none).1 ?_).2 ?_
    · decide
    · exact .inr (.inr ⟨_, rfl, .inr (by decide)⟩)
  · exact (main_output (tableTools []) (SortSlice.insertion _) [] bareTree (some [ascii "nvfm"])
      (some [ascii "nvfm", ascii "zz_generated.api.go"]) none).2 (by rfl) _ rfl

end Broken

end Nvfm.Generator
