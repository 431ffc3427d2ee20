-- SUMMARY: What a run of the generator changes in the file system, and when it succeeds after other runs.
import Nvfm.Generator.Layout
import Nvfm.Files.Frame

/-!
# Effects

The output file is opened before the walk, so the walk may come to it. A name that
the walk skips keeps it apart from the sources, whatever other runs have left there.
Under the name of a source file it is parsed while it is empty.
-/

namespace Nvfm.Generator

open Go Files Relation

variable {τ : Type}

/-! ## One run -/

section Run

variable {T : Tools τ} {S : MethodSort τ} {comment : GoString} {fs : Tree}
variable {sourceDir output : Option (List GoString)} {failed : Option Nat}

/-- The text that a run is to write, if it comes so far. -/
def formattedText (T : Tools τ) (S : MethodSort τ) (comment : GoString) (fs : Tree)
    (dir : List GoString) (output : Option (List GoString)) : Option GoString :=
  match getWriter output fs with
  | none => none
  | some fs =>
      match generate T S comment (lookup dir fs) with
      | .error _ => none
      | .ok buf => T.formatSource buf

/-- Without an output path a run leaves the files alone. -/
theorem main_stdout (T : Tools τ) (S : MethodSort τ) (comment : GoString) (fs : Tree)
    (sourceDir : Option (List GoString)) (failed : Option Nat) :
    (main T S comment fs sourceDir none failed).2 = fs := by
  unfold main getWriter writeOutput
  cases sourceDir with
  | none => rfl
  | some dir =>
      simp only
      split
      · rfl
      · split
        · rfl
        · rfl

/-- A run changes the file at the output path alone, when it creates it and when it
    writes. What is there then is as before, or the start of the formatted text. -/
theorem main_changes (T : Tools τ) (S : MethodSort τ) (comment : GoString) (fs : Tree)
    (sourceDir : Option (List GoString)) (path : List GoString) (failed : Option Nat) :
    ReflTransGen (Changed path) fs (main T S comment fs sourceDir (some path) failed).2 ∧
      (content path (main T S comment fs sourceDir (some path) failed).2 = content path fs ∨
        ∃ text, content path (main T S comment fs sourceDir (some path) failed).2 = some text ∧
          (text = [] ∨ ∃ dir formatted, sourceDir = some dir ∧
            formattedText T S comment fs dir (some path) = some formatted ∧ text <+: formatted)) := by
  unfold main formattedText
  cases sourceDir with
  | none => exact ⟨.refl, .inl rfl⟩
  | some dir =>
      cases hcreate : getWriter (some path) fs with
      | none => exact ⟨.refl, .inl rfl⟩
      | some fs' =>
          have hchanged : Changed path fs fs' := changed_of_create hcreate
          have hcontent : content path fs' = some [] := content_create hcreate
          simp only
          cases hgen : generate T S comment (lookup dir fs') with
          | error e => exact ⟨.single hchanged, .inr ⟨[], hcontent, .inl rfl⟩⟩
          | ok buf =>
              simp only
              cases hformat : T.formatSource buf with
              | none => exact ⟨.single hchanged, .inr ⟨[], hcontent, .inl rfl⟩⟩
              | some formatted =>
                  have hfile : (content path fs').isSome = true := by
                    rw [hcontent]
                    rfl
                  have hwrite : ∀ text : GoString, text <+: formatted →
                      ReflTransGen (Changed path) fs (write text path fs') ∧
                        (content path (write text path fs') = content path fs ∨
                          ∃ text', content path (write text path fs') = some text' ∧
                            (text' = [] ∨ ∃ dir' formatted', some dir = some dir' ∧
                              (match generate T S comment (lookup dir' fs') with
                                | .error _ => none
                                | .ok buf => T.formatSource buf) = some formatted' ∧
                              text' <+: formatted')) := by
                    intro text htext
                    refine ⟨(ReflTransGen.single hchanged).tail (changed_write text hfile),
                      .inr ⟨text, content_write text hfile, .inr ⟨dir, formatted, rfl, ?_, htext⟩⟩⟩
                    rw [hgen]
                    exact hformat
                  cases failed with
                  | none => exact hwrite formatted (List.prefix_refl _)
                  | some n => exact hwrite (formatted.take n) (List.take_prefix _ _)

/-- A run that comes to its write leaves the formatted text, or as much of it as a failed
    write has written. -/
theorem content_main_of_formatted {dir path : List GoString} {formatted : GoString}
    (h : formattedText T S comment fs dir (some path) = some formatted) :
    content path (main T S comment fs (some dir) (some path) failed).2 =
      some (failed.elim formatted fun n => formatted.take n) := by
  unfold formattedText at h
  unfold main
  cases hcreate : getWriter (some path) fs with
  | none =>
      rw [hcreate] at h
      cases h
  | some fs' =>
      have hfile : (content path fs').isSome = true := by
        rw [content_create hcreate]
        rfl
      simp only [hcreate] at h ⊢
      cases hgen : generate T S comment (lookup dir fs') with
      | error e =>
          rw [hgen] at h
          cases h
      | ok buf =>
          rw [hgen] at h
          simp only [h]
          cases failed with
          | none => exact content_write formatted hfile
          | some n => exact content_write (formatted.take n) hfile

/-- A run succeeds when it is to write a text and the write does not fail. -/
theorem main_eq_ok_iff {dir : List GoString} :
    (main T S comment fs (some dir) output failed).1 = .ok ↔
      (formattedText T S comment fs dir output).isSome = true ∧ failed = none := by
  unfold main formattedText
  simp only
  cases getWriter output fs with
  | none => simp
  | some fs' =>
      simp only
      cases generate T S comment (lookup dir fs') with
      | error e => simp
      | ok buf =>
          simp only
          cases T.formatSource buf with
          | none => simp
          | some formatted =>
              cases failed with
              | none => simp
              | some n => simp

end Run

/-- Whatever the outcome, a run keeps the content of every file but its output, and all
    that is not on the way to it. The output holds what it held, or nothing, or the start
    of the formatted text; and when there is such a text it holds that, as far as the write
    has come. -/
theorem main_effects (T : Tools τ) (S : MethodSort τ) (comment : GoString) (fs : Tree)
    (sourceDir output : Option (List GoString)) (failed : Option Nat) :
    (∀ path, output ≠ some path →
      content path (main T S comment fs sourceDir output failed).2 = content path fs) ∧
    (∀ path, (∀ path', output = some path' → ¬ path <+: path') →
      lookup path (main T S comment fs sourceDir output failed).2 = lookup path fs) ∧
    (outputContent output (main T S comment fs sourceDir output failed).2 = outputContent output fs ∨
      ∃ text, outputContent output (main T S comment fs sourceDir output failed).2 = some text ∧
        (text = [] ∨ ∃ dir formatted, sourceDir = some dir ∧
          formattedText T S comment fs dir output = some formatted ∧ text <+: formatted)) ∧
    (∀ dir path formatted, sourceDir = some dir → output = some path →
      formattedText T S comment fs dir output = some formatted →
        content path (main T S comment fs sourceDir output failed).2 =
          some (failed.elim formatted fun n => formatted.take n)) := by
  cases output with
  | none =>
      rw [main_stdout]
      exact ⟨fun _ _ => rfl, fun _ _ => rfl, .inl rfl, fun _ _ _ _ h => nomatch h⟩
  | some out =>
      obtain ⟨hchanges, hcontent⟩ := main_changes T S comment fs sourceDir out failed
      refine ⟨?_, ?_, hcontent, ?_⟩
      · intro path hpath
        exact eq_of_changes (fun _ _ h => h.content_eq fun heq => hpath (congrArg some heq.symm)) hchanges
      · intro path hpath
        exact eq_of_changes (fun _ _ h => h.lookup_eq (hpath out rfl)) hchanges
      · rintro dir path formatted rfl hout hformatted
        obtain rfl := Option.some.inj hout
        exact content_main_of_formatted hformatted

/-! ## The sources and the output -/

/-- The walk below the source directory parses the output file. -/
def FeedsBack (dir : List GoString) (output : Option (List GoString)) : Prop :=
  ∃ path name, output = some path ∧ dir <+: path ∧ path.getLast? = some name ∧ isEligible name = true

/-- The output is neither the source directory nor a source file below it. -/
def Apart (dir : List GoString) (output : Option (List GoString)) : Prop :=
  output ≠ some dir ∧ ¬ FeedsBack dir output

section Walk

variable {T : Tools τ} {fs fs' : Tree} {dir path : List GoString}

/-- The visits that are errors. -/
def broken? (T : Tools τ) (v : Visit GoString (List UInt8)) : Option Unit :=
  if visitParses T v then none else some ()

theorem parses_iff (T : Tools τ) (root : Option Tree) :
    Parses T root ↔ (visits root).filterMap (broken? T) = [] := by
  rw [List.filterMap_eq_nil_iff]
  unfold Parses broken?
  simp

/-- A walk takes nothing from a file of another name. -/
theorem filterMap_visits_lookup {γ : Type} {f : Visit GoString (List UInt8) → Option γ}
    (hdir : ∀ start name readable writable entries,
      f (.entry start (.dir name readable writable entries)) = none)
    (hfile : ∀ name, isEligible name = false →
      ∀ start readable writable c, f (.entry start (.file name readable writable c)) = none)
    (hdistinct : fs.Distinct) (hchanged : Changed path fs fs') (hapart : Apart dir (some path)) :
    (visits (lookup dir fs')).filterMap f = (visits (lookup dir fs)).filterMap f := by
  by_cases hbelow : dir <+: path
  · obtain ⟨rest, rfl⟩ := hbelow
    have hrest : rest ≠ [] := by
      rintro rfl
      exact hapart.1 (by rw [List.append_nil])
    obtain ⟨root, root', hroot, hroot', hchange⟩ := hchanged.below_dir hrest
    obtain ⟨name, hname⟩ := Option.isSome_iff_exists.1 (List.getLast?_isSome.2 hrest)
    have hlast : (root.name :: rest).getLast? = some name := by
      rw [List.getLast?_cons, hname]
      rfl
    have heligible : isEligible name = false := by
      rw [← Bool.not_eq_true]
      intro h
      refine hapart.2 ⟨dir ++ rest, name, rfl, List.prefix_append dir rest, ?_, h⟩
      rw [List.getLast?_append, hname]
      rfl
    rw [hroot, hroot']
    exact hchange.filterMap_visits hdir (hfile name heligible) hlast
      (distinct_of_lookup hdistinct hroot) []
  · rw [hchanged.lookup_eq hbelow]

/-- A file that is no source changes neither the sources nor whether they parse. -/
theorem sources_of_changed (T : Tools τ) (hdistinct : fs.Distinct) (hchanged : Changed path fs fs')
    (hapart : Apart dir (some path)) :
    sources T (lookup dir fs') = sources T (lookup dir fs) ∧
      (Parses T (lookup dir fs') ↔ Parses T (lookup dir fs)) := by
  constructor
  · refine filterMap_visits_lookup ?_ ?_ hdistinct hchanged hapart
    · intro start name readable writable entries
      rfl
    · intro name hname start readable writable c
      simp [source?, hname]
  · rw [parses_iff, parses_iff]
    refine Eq.congr_left (filterMap_visits_lookup ?_ ?_ hdistinct hchanged hapart)
    · intro start name readable writable entries
      rfl
    · intro name hname start readable writable c
      simp [broken?, visitParses, hname]

/-- The output as a source file is empty when the walk comes to it. -/
theorem not_parses_of_feedsBack (hempty : T.ParseFile [] = none) (hcreate : create [] path fs = some fs')
    (hne : path ≠ dir) (hfeeds : FeedsBack dir (some path)) : ¬ Parses T (lookup dir fs') := by
  obtain ⟨_, name, hpath, ⟨rest, rfl⟩, hlast, heligible⟩ := hfeeds
  cases hpath
  obtain ⟨name', hlookup⟩ := lookup_create hcreate
  have hname := name_of_lookup hlookup
  rw [lookup_append] at hlookup
  obtain ⟨root, hroot, hfile⟩ := Option.bind_eq_some_iff.1 hlookup
  have hname' : name' = name := by
    have hlast' := List.getLast?_cons (a := fs'.name) (l := dir ++ rest)
    rw [hname, hlast] at hlast'
    exact Option.some.inj hlast'
  rw [hroot]
  intro hparse
  rcases mem_visits_of_lookup hfile [] with hmem | ⟨p, hmem⟩
  · have hvisit := hparse _ hmem
    have hread : readAndParse T true [] = none := by
      rw [readAndParse, hempty]
      rfl
    rw [visitParses, hname', heligible, hread] at hvisit
    cases hvisit
  · cases hparse _ hmem

end Walk

/-! ## Many runs -/

/-- The flags of a run, the comment of its header, and whether its write fails. -/
structure Invocation where
  comment : GoString
  sourceDir : Option (List GoString)
  output : Option (List GoString)
  failed : Option Nat

/-- The files after runs one after the other. -/
def mainAll (T : Tools τ) (S : MethodSort τ) (runs : List Invocation) (fs : Tree) : Tree :=
  runs.foldl (fun fs run => (main T S run.comment fs run.sourceDir run.output run.failed).2) fs

section Many

variable {T : Tools τ} {S : MethodSort τ} {fs fs' : Tree} {dir path : List GoString}

/-- The second tree gives the generator the same as the first. -/
structure SameSources (T : Tools τ) (dir : List GoString) (fs fs' : Tree) : Prop where
  distinct : fs'.Distinct
  sources : sources T (lookup dir fs') = sources T (lookup dir fs)
  parses : Parses T (lookup dir fs') ↔ Parses T (lookup dir fs)
  directory : IsDir dir fs → IsDir dir fs'

theorem SameSources.refl (hdistinct : fs.Distinct) : SameSources T dir fs fs where
  distinct := hdistinct
  sources := rfl
  parses := Iff.rfl
  directory := id

theorem SameSources.trans {fs'' : Tree} (h : SameSources T dir fs fs') (h' : SameSources T dir fs' fs'') :
    SameSources T dir fs fs'' where
  distinct := h'.distinct
  sources := h'.sources.trans h.sources
  parses := h'.parses.trans h.parses
  directory := h'.directory ∘ h.directory

theorem sameSources_of_changed (hdistinct : fs.Distinct) (hchanged : Changed path fs fs')
    (hapart : Apart dir (some path)) : SameSources T dir fs fs' where
  distinct := hchanged.distinct hdistinct
  sources := (sources_of_changed T hdistinct hchanged hapart).1
  parses := (sources_of_changed T hdistinct hchanged hapart).2
  directory := hchanged.isDir fun heq => hapart.1 (congrArg some heq)

/-- The same methods are extracted. -/
theorem SameSources.sortedMethods_eq (h : SameSources T dir fs fs') (S : MethodSort τ) :
    sortedMethods T S (lookup dir fs') = sortedMethods T S (lookup dir fs) := by
  unfold sortedMethods functions
  rw [h.sources]

/-- One run. -/
theorem sameSources_main (hdistinct : fs.Distinct) (run : Invocation) (hapart : Apart dir run.output) :
    SameSources T dir fs (main T S run.comment fs run.sourceDir run.output run.failed).2 := by
  obtain ⟨comment, sourceDir, output, failed⟩ := run
  cases output with
  | none =>
      rw [main_stdout]
      exact .refl hdistinct
  | some path =>
      have hchanges := (main_changes T S comment fs sourceDir path failed).1
      simp only at hapart ⊢
      generalize (main T S comment fs sourceDir (some path) failed).2 = after at hchanges ⊢
      induction hchanges with
      | refl => exact .refl hdistinct
      | tail _ hlast ih => exact ih.trans (sameSources_of_changed ih.distinct hlast hapart)

/-- All runs. -/
theorem sameSources_mainAll (hdistinct : fs.Distinct) {runs : List Invocation}
    (hapart : ∀ run ∈ runs, Apart dir run.output) : SameSources T dir fs (mainAll T S runs fs) := by
  unfold mainAll
  induction runs generalizing fs with
  | nil => exact .refl hdistinct
  | cons run runs ih =>
      rw [List.foldl_cons]
      have hrun : SameSources T dir fs _ :=
        sameSources_main (S := S) hdistinct run (hapart run List.mem_cons_self)
      exact hrun.trans (ih hrun.distinct fun r hr => hapart r (List.mem_cons_of_mem _ hr))

/-- The text of a run is that of the sources before it, unless its output is one of them. -/
theorem formattedText_eq_some_iff (S : MethodSort τ) (comment : GoString)
    {output : Option (List GoString)} (hempty : T.ParseFile [] = none) (hdistinct : fs.Distinct)
    (hdir : output = some dir → IsDir dir fs) (formatted : GoString) :
    formattedText T S comment fs dir output = some formatted ↔
      (getWriter output fs).isSome = true ∧ ¬ FeedsBack dir output ∧ Parses T (lookup dir fs) ∧
        T.formatSource (generated T comment (sortedMethods T S (lookup dir fs))) = some formatted := by
  -- A directory cannot be opened as the output.
  have hne : ∀ fs', getWriter output fs = some fs' → output ≠ some dir := by
    rintro fs' hwriter rfl
    have hnone : create [] dir fs = none := create_of_isDir (hdir rfl)
    exact Option.some_ne_none fs' (hwriter.symm.trans hnone)
  have hsame : ¬ FeedsBack dir output → ∀ fs', getWriter output fs = some fs' →
      SameSources T dir fs fs' := by
    intro hfeeds fs' hwriter
    have hapart : Apart dir output := ⟨hne fs' hwriter, hfeeds⟩
    cases output with
    | none =>
        cases hwriter
        exact .refl hdistinct
    | some path => exact sameSources_of_changed hdistinct (changed_of_create hwriter) hapart
  unfold formattedText
  cases hwriter : getWriter output fs with
  | none => simp
  | some fs' =>
      by_cases hparse : Parses T (lookup dir fs')
      · have hfeeds : ¬ FeedsBack dir output := by
          intro hfeeds
          cases output with
          | none =>
              obtain ⟨_, _, hpath, _⟩ := hfeeds
              cases hpath
          | some path =>
              have hother : path ≠ dir := fun h => hne fs' hwriter (congrArg some h)
              exact not_parses_of_feedsBack hempty hwriter hother hfeeds hparse
        have h := hsame hfeeds fs' hwriter
        simp only [generate_of_parses hparse, h.sortedMethods_eq S, Option.isSome_some, true_and, hfeeds,
          not_false_iff, h.parses.1 hparse]
      · obtain ⟨e, he⟩ := generate_of_not_parses hparse S comment
        simp only [he, reduceCtorEq, false_iff]
        rintro ⟨_, hfeeds, hbefore, _⟩
        exact hparse ((hsame hfeeds fs' hwriter).parses.2 hbefore)

/-- After any runs whose outputs are no sources, a run succeeds exactly when its output
    can be opened and is no source either, the sources as they were at first parse, their
    text can be formatted, and the write does not fail. It leaves that text. -/
theorem main_after_runs (S : MethodSort τ) (comment : GoString) (output : Option (List GoString))
    (failed : Option Nat) {runs : List Invocation} (hempty : T.ParseFile [] = none)
    (hdistinct : fs.Distinct) (hapart : ∀ run ∈ runs, Apart dir run.output)
    (hdir : output = some dir → IsDir dir fs) :
    ((main T S comment (mainAll T S runs fs) (some dir) output failed).1.status = 0 ↔
      (getWriter output (mainAll T S runs fs)).isSome = true ∧ ¬ FeedsBack dir output ∧
        Parses T (lookup dir fs) ∧
        (T.formatSource (generated T comment (sortedMethods T S (lookup dir fs)))).isSome = true ∧
        failed = none) ∧
    ((main T S comment (mainAll T S runs fs) (some dir) output failed).1.status = 0 →
      ∀ path, output = some path →
        content path (main T S comment (mainAll T S runs fs) (some dir) output failed).2 =
          T.formatSource (generated T comment (sortedMethods T S (lookup dir fs)))) := by
  have hsame : SameSources T dir fs (mainAll T S runs fs) := sameSources_mainAll hdistinct hapart
  have htext := formattedText_eq_some_iff S comment hempty hsame.distinct
    (fun hout => hsame.directory (hdir hout))
  rw [hsame.sortedMethods_eq S, hsame.parses] at htext
  have hstatus : (main T S comment (mainAll T S runs fs) (some dir) output failed).1.status = 0 ↔
      (main T S comment (mainAll T S runs fs) (some dir) output failed).1 = .ok :=
    ⟨Exit.eq_ok_of_status, fun h => by rw [h]; rfl⟩
  constructor
  · rw [hstatus, main_eq_ok_iff, Option.isSome_iff_exists]
    simp only [htext, Option.isSome_iff_exists]
    tauto
  · rintro hzero path rfl
    obtain ⟨hsome, hwritten⟩ := main_eq_ok_iff.1 (hstatus.1 hzero)
    obtain ⟨formatted, hformatted⟩ := Option.isSome_iff_exists.1 hsome
    rw [content_main_of_formatted hformatted, hwritten, ((htext formatted).1 hformatted).2.2.2]
    rfl

/-! ## A run that is cut off, and the next one -/

def apiPath : List GoString := [ascii "nvfm", ascii "zz_generated.api.go"]

/-- The write to the generated file fails after some bytes. -/
def interruptedRun : Invocation where
  comment := []
  sourceDir := some [ascii "nvfm"]
  output := some apiPath
  failed := some 20

theorem apart_apiPath : Apart [ascii "nvfm"] (some apiPath) := by
  refine ⟨by decide, ?_⟩
  rintro ⟨_, name, hpath, _, hlast, heligible⟩
  cases hpath
  cases hlast
  revert heligible
  decide

theorem main_after_runs_interrupted :
    (main sampleTools (SortSlice.insertion _) []
      (mainAll sampleTools (SortSlice.insertion _) [interruptedRun] freshTree)
      (some [ascii "nvfm"]) (some apiPath) none).1.status = 0 := by
  refine (main_after_runs (SortSlice.insertion _) [] (some apiPath) none (by decide) ?_ ?_
    (fun _ => ⟨_, _, _, _, rfl⟩)).1.2 ⟨by rfl, apart_apiPath.2, by decide, by rfl, rfl⟩
  · exact ⟨by decide, ⟨by decide, trivial, trivial⟩, trivial⟩
  · intro run hrun
    obtain rfl := List.mem_singleton.1 hrun
    exact apart_apiPath

end Many

end Nvfm.Generator
