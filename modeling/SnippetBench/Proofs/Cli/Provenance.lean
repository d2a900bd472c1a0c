import SnippetBench.Proofs.Cli.Course
import SnippetBench.Proofs.Cli.StartingUp
import SnippetBench.Proofs.Config.Usable
import SnippetBench.Proofs.Script.Heading
import SnippetBench.Proofs.Script.Lifetime
import SnippetBench.Proofs.Text.LineEnds

/-!
# Where scripts come from

The heading of a script records its document: the path and a digest. The digest is that of the text of
the document, so it is that of the bytes of the document with their line ends replaced by `\n`
(`exists_scriptOf_recording`). It is the digest of the file itself if there is no carriage return in
it; otherwise the file with other line ends would be recorded alike. What a benchmark run leaves behind
that was not there when it had begun are such scripts, each of a document as it stood when the script
was built (`files_of_run_recorded`).
-/

namespace SnippetBench.Cli

open Document (Item)
open Files (Location Path Tree)
open Relation (ReflTransGen)

variable {w : World} {documents : Path → Prop} {bench : Config.BenchOptions} {names : List Text}
  {s t : Session} {tree : Tree} {p : Path} {bytes : List UInt8} {text : Text} {items : List Item}

/-! ### Scripts of documents -/

/-- A script records a document with some bytes: their digest is in its heading, taken with all line
ends replaced by `\n`. -/
def RecordsBytes (bench : Config.BenchOptions) (p : Path) (bytes : List UInt8) (scriptText : Text) :
    Prop :=
  Script.Records bench.samples bench.iterations p.toText
    (Digest.Sha256.hexDigest (Text.Utf8.withNewlines bytes)) scriptText

/-- **The script of a document that is accepted** can be built, and it records the document. -/
theorem exists_scriptOf_recording (hbench : Config.Usable bench)
    (hfile : tree.entryAt p = .ok (.file bytes))
    (hreading : readingOf tree p = .ok (.ok (text, items))) :
    ∃ scriptText, scriptOf bench p text items = .ok scriptText ∧
      RecordsBytes bench p bytes scriptText := by
  obtain ⟨bytes', hfile', hbytes⟩ :=
    Files.Tree.textAt_eq_ok_iff.1 (textAt_of_readingOf hreading)
  cases hfile.symm.trans hfile'
  have hdigest : Digest.Sha256.ofText text =
      Digest.Sha256.hexDigest (Text.Utf8.withNewlines bytes) := by
    rw [Digest.Sha256.ofText, Text.Utf8.encode_of_textOfBytes hbytes]
  unfold scriptOf RecordsBytes
  rw [hdigest]
  exact Script.exists_build_records hbench.samples hbench.iterations rfl rfl
    (Digest.Sha256.newline_notMem_hexDigest _) items

/-! ### Stages and runs -/

/-- The bytes at a location are the script of one of some documents of a tree, and record it. -/
def IsScriptAt (documents : Path → Prop) (bench : Config.BenchOptions) (tree : Tree)
    (place : Location) (file : List UInt8) : Prop :=
  ∃ p script bytes text items scriptText,
    documents p ∧ p.script? = some script ∧ tree.locate script = .ok place ∧
    tree.entryAt p = .ok (.file bytes) ∧ readingOf tree p = .ok (.ok (text, items)) ∧
    scriptOf bench p text items = .ok scriptText ∧ file = Text.Utf8.encode scriptText ∧
    RecordsBytes bench p bytes scriptText

variable {place : Location} {file : List UInt8}

/-- **What a stage leaves** was there before, or is the script of a document, which is kept. -/
theorem DocumentStage.file_left (h : DocumentStage w documents bench s t) (hs : Orderly names s)
    (hbench : Config.Usable bench) (hfile : t.tree.find? place = some (.file file)) :
    s.tree.find? place = some (.file file) ∨
      bench.keep = true ∧ IsScriptAt documents bench s.tree place file := by
  cases h with
  | step h => exact .inl ((h.settled hs).2 ▸ hfile)
  | refused hp hreading hbuilt hscript henter =>
    obtain ⟨dir, hdir, hnames⟩ :=
      Path.exists_inDirectory_of_textAt hscript (textAt_of_readingOf hreading)
    have hsame := Script.sameBut_of_refused hdir hnames henter fun _ => False
    exact .inl ((hsame.find place id).symm.trans hfile)
  | @lifetime t p script text scriptText items tree hp hreading hbuilt hscript henter hsteps =>
    have htext := textAt_of_readingOf hreading
    obtain ⟨dir, hdir, hnames⟩ := Path.exists_inDirectory_of_textAt hscript htext
    have hplaced : Orderly names { s with tree } := ⟨hs.tidy, hs.there⟩
    have htree : t.tree = tree := (hsteps.settled hplaced).2
    dsimp only at hfile
    rw [htree] at hfile
    rcases Script.file_left_of_lifetime hdir hnames henter hfile with hfound | ⟨hkeep, hgoal, rfl⟩
    · exact .inl hfound
    · obtain ⟨bytes, hbytes, -⟩ := Files.Tree.textAt_eq_ok_iff.1 htext
      obtain ⟨scriptText', hbuilt', hrecords⟩ := exists_scriptOf_recording hbench hbytes hreading
      cases hbuilt.symm.trans hbuilt'
      exact .inr ⟨hkeep, p, script, bytes, text, items, scriptText, hp, hscript, hgoal, hbytes,
        hreading, hbuilt, rfl, hrecords⟩

/-- **What a course of stages leaves** was there before, or is the script of a document as it stood at
one of the stages. -/
theorem file_left_by_course (h : ReflTransGen (DocumentStage w documents bench) s t)
    (hs : Orderly names s) (hbench : Config.Usable bench)
    (hfile : t.tree.find? place = some (.file file)) :
    s.tree.find? place = some (.file file) ∨
      bench.keep = true ∧ ∃ between, ReflTransGen (DocumentStage w documents bench) s between ∧
        ReflTransGen (DocumentStage w documents bench) between t ∧
        IsScriptAt documents bench between.tree place file := by
  induction h with
  | refl => exact .inl hfile
  | @tail u t hfirst hstage ih =>
    have hu := Follows.orderly (admits_documentStage w documents bench) hfirst hs
    rcases hstage.file_left hu hbench hfile with hfile | ⟨hkeep, hscript⟩
    · rcases ih hfile with hfound | ⟨hkeep, between, hbefore, hbehind, hscript⟩
      · exact .inl hfound
      · exact .inr ⟨hkeep, between, hbefore, hbehind.tail hstage, hscript⟩
    · exact .inr ⟨hkeep, u, hfirst, .single hstage, hscript⟩

/-- **Scripts record their documents up to line ends.** In a benchmark run that has begun, with options
that are accepted, a script can be built of every document that is accepted, and its heading records
the digest of the bytes of the document with their line ends replaced by `\n`. Every file that the run
leaves and that was not there when it had begun is such a script, which is kept, of one of the documents
as it stood at one of the stages of the run. The digest is taken of the bytes of the document themselves
exactly if there is no carriage return among them. -/
theorem files_of_run_recorded {common : CommonOptions} {options : RunOptions}
    {config : Option Config.Configuration}
    (h : GoesOn (prepare w common "run") { tree } config s)
    (hbench : Config.applyOverrides ((config.map (·.bench)).getD {}) options.overrides = .ok bench) :
    (∀ tree p bytes text items, tree.entryAt p = .ok (.file bytes) →
        readingOf tree p = .ok (.ok (text, items)) →
          ∃ scriptText, scriptOf bench p text items = .ok scriptText ∧
            Script.Records bench.samples bench.iterations p.toText
              (Digest.Sha256.hexDigest (Text.Utf8.withNewlines bytes)) scriptText) ∧
      (let final := ((run w common options).run.run { tree }).2
      ∀ place file, final.tree.find? place = some (.file file) →
        s.tree.find? place = some (.file file) ∨
          bench.keep = true ∧ ∃ between,
            ReflTransGen (DocumentStage w (benchmarked common options) bench) s between ∧
            ReflTransGen (DocumentStage w (benchmarked common options) bench) between final ∧
            IsScriptAt (benchmarked common options) bench between.tree place file) ∧
      ∀ bytes, Text.Utf8.withNewlines bytes = bytes ↔ 0x0D ∉ bytes := by
  have husable := Config.usable_of_applyOverrides hbench
  obtain ⟨-, hs⟩ := settled_prepare (by decide +kernel) h
  have hcourse : ReflTransGen (DocumentStage w (benchmarked common options) bench) s
      ((run w common options).run.run { tree }).2 := by
    refine follows_run (admits_documentStage w _ bench) h fun bench' hbench' _ _ hstage => ?_
    cases hbench.symm.trans hbench'
    exact hstage
  exact ⟨fun _ _ _ _ _ hfile hreading => exists_scriptOf_recording husable hfile hreading,
    fun _ _ hfile => file_left_by_course hcourse hs.orderly husable hfile,
    fun _ => Text.Utf8.withNewlines_eq_self_iff⟩

/-- A document whose lines end in `\r\n`. -/
def returnBytes : List UInt8 := Text.Utf8.encode "#@bench sum\r\nsum(range(9))\r\n"

def returnTree : Tree := Tree.empty.put ["work", "a.py"] (.file returnBytes)

/-- A run that keeps the script of such a document. -/
theorem files_of_run_recorded_returns :
    ∃ config s,
      GoesOn (prepare talkingWorld {} "run") { tree := returnTree } config s ∧
      Config.applyOverrides ((config.map (·.bench)).getD {})
        (RunOptions.overrides { paths := ["a.py"], keep := true }) = .ok { keep := true } ∧
      (∃ text items scriptText,
        readingOf returnTree (Path.ofText "a.py") = .ok (.ok (text, items)) ∧
        scriptOf { keep := true } (Path.ofText "a.py") text items = .ok scriptText ∧
        Script.Records 1000 1 "a.py"
          (Digest.Sha256.hexDigest (Text.Utf8.withNewlines returnBytes)) scriptText) ∧
      Text.Utf8.withNewlines returnBytes ≠ returnBytes := by
  obtain ⟨config, s, hbegin, -⟩ : ∃ config s,
      GoesOn (prepare talkingWorld {} "run") { tree := returnTree } config s ∧ True :=
    exists_goesOn (by decide +kernel) trivial
  obtain rfl : config = none :=
    (begun_of_goesOn (.run { paths := ["a.py"], keep := true }) hbegin).1.reads
  have hbench : Config.applyOverrides {}
      (RunOptions.overrides { paths := ["a.py"], keep := true }) = .ok { keep := true } := by
    decide +kernel
  obtain ⟨hscripts, -, hreturns⟩ := files_of_run_recorded hbegin hbench
  have hread : ((readingOf returnTree (Path.ofText "a.py")).toOption.bind Except.toOption).isSome := by
    decide +kernel
  obtain ⟨⟨text, items⟩, hreading⟩ := Option.isSome_iff_exists.1 hread
  obtain ⟨reading, hok, hread⟩ := Option.bind_eq_some_iff.1 hreading
  have hreading : readingOf returnTree (Path.ofText "a.py") = .ok (.ok (text, items)) := by
    rw [toOption_eq_some_iff.1 hok, toOption_eq_some_iff.1 hread]
  obtain ⟨scriptText, hbuilt, hrecords⟩ := hscripts returnTree (Path.ofText "a.py") returnBytes text
    items (by decide +kernel) hreading
  exact ⟨none, s, hbegin, hbench, ⟨text, items, scriptText, hreading, hbuilt, hrecords⟩,
    fun heq => (hreturns returnBytes).1 heq (by decide +kernel)⟩

/-- The script of a document with carriage returns that a run keeps does not record the digest of the
file. -/
theorem kept_digest_differs :
    let heading (digest : Text) :=
      Text.Utf8.encode (Script.heading 1000 1 (some "a.py") (some digest))
    let final := (perform talkingWorld returnTree ["run", "--keep", "a.py"]).session.tree
    returnTree.entryAt (Path.ofText "a.py") = .ok (.file returnBytes) ∧
      ∃ file, ((Files.Action.readBytes (Path.ofText "a.pybm.py")).run.run final).1 = .ok file ∧
        heading (Digest.Sha256.hexDigest (Text.Utf8.withNewlines returnBytes)) <+: file ∧
        ¬ heading (Digest.Sha256.hexDigest returnBytes) <+: file := by
  intro heading final
  refine ⟨by decide +kernel, ?_⟩
  have hkept : ((Files.Action.readBytes (Path.ofText "a.pybm.py")).run.run final).1.toOption.any
      (fun file =>
        decide (heading (Digest.Sha256.hexDigest (Text.Utf8.withNewlines returnBytes)) <+: file) &&
          decide (¬ heading (Digest.Sha256.hexDigest returnBytes) <+: file)) = true := by
    decide +kernel
  obtain ⟨file, hfile, hheading⟩ := (Option.any_eq_true _ _).1 hkept
  rw [Bool.and_eq_true, decide_eq_true_eq, decide_eq_true_eq] at hheading
  exact ⟨file, toOption_eq_some_iff.1 hfile, hheading⟩

end SnippetBench.Cli
