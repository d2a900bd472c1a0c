import SnippetBench.Proofs.Cli.Reading
import SnippetBench.Proofs.Cli.ScriptLifetime
import SnippetBench.Proofs.Cli.Sequence

/-!
# Working on one document in a settled session

Benchmarking a document, and printing its code, comes to the same in all settled sessions whose
trees differ only where scripts stand and no document does, and leaves such a session
(`exists_yields_benchmarkDocument`, `yields_printDocument`). It is trouble exactly if there
is an obstacle, which can be told from the tree alone: bytes that are no text, or a script that
cannot be built or put in place.
-/

namespace SnippetBench.Cli

open Document (Item Token)
open Files (Action InDirectory Location Path Tree)
open Files.Action (refusalOf run_replace)
open Files.Tree (SameBut)

variable {names : List Text} {versions : Interpreter.Versions} {base : Tree}
  {P : Location → Prop} {I : Tree → Prop}

/-- The lines of a listing. -/
def listingOf (path : Text) (items : List Item) (markdown : Bool) : List Text :=
  (Document.snippets items).flatMap fun snippet =>
    [Document.Listing.format path snippet markdown]

theorem yields_printListing (path : Text) (items : List Item) (markdown : Bool) :
    Yields (Settled names versions I) (Settled names versions I)
      (printListing path items markdown) (.ok ()) (listingOf path items markdown) := by
  unfold printListing
  exact (Yields.forIn_list fun snippet _ =>
    yields_print (Document.Listing.format path snippet markdown)).bind_pure rfl

/-- The script that is put beside a document, if there is one: none is in a dry run, nor beside a
document that is not read. -/
def writtenScript? (common : CommonOptions) (tree : Tree) (p : Path) : Option Path :=
  match readingOf tree p with
  | .ok (.ok _) => if common.dryRun then none else p.script?
  | _ => none

theorem script?_of_writtenScript? {common : CommonOptions} {tree : Tree} {p script : Path}
    (h : writtenScript? common tree p = some script) : p.script? = some script := by
  unfold writtenScript? at h
  split at h
  · split at h
    · cases h
    · exact h
  · cases h

/-- A document of a tree where other trees may differ at some locations: the document stands at none
of them and its script at one, and temporary files have none of them. -/
structure IsApart (common : CommonOptions) (P : Location → Prop) (base : Tree) (p : Path) :
    Prop where
  document : ∀ place, base.locate p = .ok place → ¬ P place
  script : ∀ script place, writtenScript? common base p = some script →
    base.locate script = .ok place → P place
  temporary : ∀ dir n, ¬ P (dir ++ [Action.temporaryName n])

theorem Yields.lift_ending {J K : Session → Prop} {α : Type} {work : Work α}
    {obstacle : Option Trouble} {a : α} {lines : List Text}
    (h : Yields J K work (ending obstacle a) lines) :
    Yields J K (liftM work : Part α).run (ending obstacle (.ok a)) lines := by
  cases obstacle with
  | none => exact h.lift
  | some t => exact h.lift_trouble

theorem Yields.finish_ending {J K : Session → Prop} {part : Part ExitCode}
    {obstacle : Option Trouble} {code : ExitCode} {lines : List Text}
    (h : Yields J K part.run (ending obstacle (.ok code)) lines) :
    Yields J K part.finish (ending obstacle code) lines := by
  cases obstacle with
  | none => exact h.finish_ok
  | some t => exact h.finish_trouble

theorem textAt_of_readingOf {p : Path} {text : Text} {items : List Item}
    (h : readingOf base p = .ok (.ok (text, items))) : base.textAt p = .ok text := by
  unfold readingOf at h
  cases htext : base.textAt p with
  | error e => cases e <;> simp [htext] at h
  | ok t =>
    simp only [htext] at h
    split at h <;> cases h
    rfl

/-! ### Reading -/

/-- The trouble with reading a document of a tree, if there is any. -/
def readingObstacle (tree : Tree) (p : Path) : Option Trouble :=
  match readingOf tree p with
  | .error t => some t
  | .ok _ => none

/-- The exit code of a document of a tree that is only read. -/
def readingCode (tree : Tree) (p : Path) : ExitCode :=
  match readingOf tree p with
  | .ok (.error code) => code
  | _ => .success

/-- The listing of a document of a tree, with a text for its path; it is empty if the document
cannot be read. -/
def listingAt (tree : Tree) (p : Path) (shown : Text) (markdown : Bool) : List Text :=
  match readingOf tree p with
  | .ok (.ok (_, items)) => listingOf shown items markdown
  | _ => []

theorem listingAt_unread {p : Path} (h : ∀ document, readingOf base p ≠ .ok (.ok document))
    (shown : Text) (markdown : Bool) : listingAt base p shown markdown = [] := by
  unfold listingAt
  rcases hreading : readingOf base p with t | code | document
  · rfl
  · rfl
  · exact absurd hreading (h document)

/-! ### Benchmarking -/

/-- What is done with a document that was read: its script is built, and executed unless the run is
a dry one. -/
def workOnItems (w : World) (common : CommonOptions) (bench : Config.BenchOptions)
    (runtimes : List Text) (p : Path) (text : Text) (items : List Item) : Part ExitCode :=
  match scriptOf bench p text items, p.script? with
  | .error e, _ => Part.trouble (.counts e)
  | _, none => Part.trouble (.noName p)
  | .ok scriptText, some script =>
    if common.dryRun then do
      Work.note w runLogger .info "Dry run, generated script not executed"
        [("path", .text p.toText), ("script", .text script.toText),
          ("runtimes", .list (runtimes.map Data.text))]
      return .success
    else
      ExceptT.lift <| duringScript w script scriptText bench.keep
        (executeAll w bench p script runtimes)

/-- The trouble with putting a script in place, if there is any. -/
def placingObstacle (tree : Tree) (script : Path) (scriptText : Text) : Option Trouble :=
  match ((Script.enter script scriptText).run.run tree).1 with
  | .error f => some (.system f)
  | .ok () => none

/-- The trouble with the script of a document that was read, if there is any. -/
def scriptObstacle (common : CommonOptions) (bench : Config.BenchOptions) (tree : Tree) (p : Path)
    (text : Text) (items : List Item) : Option Trouble :=
  match scriptOf bench p text items, p.script? with
  | .error e, _ => some (.counts e)
  | _, none => some (.noName p)
  | .ok scriptText, some script =>
    if common.dryRun then none else placingObstacle tree script scriptText

/-- The trouble with benchmarking a document of a tree, if there is any. -/
def obstacleOf (common : CommonOptions) (bench : Config.BenchOptions) (tree : Tree) (p : Path) :
    Option Trouble :=
  match readingOf tree p with
  | .error t => some t
  | .ok (.error _) => none
  | .ok (.ok (text, items)) => scriptObstacle common bench tree p text items

theorem obstacleOf_unread (common : CommonOptions) (bench : Config.BenchOptions) {p : Path}
    (h : ∀ document, readingOf base p ≠ .ok (.ok document)) :
    obstacleOf common bench base p = readingObstacle base p := by
  unfold obstacleOf readingObstacle
  rcases hreading : readingOf base p with t | code | document
  · rfl
  · rfl
  · exact absurd hreading (h document)

section Benchmark

variable (w : World) (common : CommonOptions) (options : RunOptions) (bench : Config.BenchOptions)
  {runtimes : List Text}

/-- Putting the script of a document in place and executing it. -/
theorem exists_yields_duringScript (hrun : runLogger ∈ names) (hhost : hostLogger ∈ names)
    (hscript : scriptLogger ∈ names) (hknown : AreKnown w versions runtimes) {p script : Path}
    (hapart : IsApart common P base p) {text : Text} (htext : base.textAt p = .ok text)
    (hwritten : writtenScript? common base p = some script) (scriptText : Text) :
    ∃ code lines, Yields (Settled names versions (SameBut P base))
      (Settled names versions (SameBut P base))
      (duringScript w script scriptText bench.keep (executeAll w bench p script runtimes))
      (ending (placingObstacle base script scriptText) code) lines := by
  obtain ⟨dir, hdir, hnames⟩ :=
    Path.exists_inDirectory_of_textAt (script?_of_writtenScript? hwritten) htext
  obtain ⟨hresult, hreplaced⟩ := run_replace hdir hnames scriptText
  have henter : ((Script.enter script scriptText).run.run base).1 = refusalOf base script dir :=
    hresult
  unfold placingObstacle
  rw [henter]
  cases hrefusal : refusalOf base script dir with
  | error f =>
    exact ⟨.success, [], yields_duringScript_refused w hdir hnames (hapart.temporary dir) hrefusal
      _ _ _⟩
  | ok _ =>
    rw [hrefusal] at hreplaced
    obtain ⟨goal, hgoal, -⟩ := hreplaced.put rfl
    have hP := hapart.script script goal hwritten hgoal
    have hread (tree : Tree)
        (htree : HasScript P base goal (Text.Utf8.encode scriptText) tree) :=
      htree.readBytes hgoal
    obtain ⟨code, lines, hbody⟩ := exists_yields_executeAll w bench p _ hrun hhost hknown hread
    exact ⟨code, lines, yields_duringScript w hscript hdir hnames (hapart.temporary dir) hgoal hP
      hrefusal _ hbody⟩

theorem exists_yields_workOnItems (hrun : runLogger ∈ names) (hhost : hostLogger ∈ names)
    (hscript : scriptLogger ∈ names) (hknown : AreKnown w versions runtimes) {p : Path}
    (hapart : IsApart common P base p) {text : Text} {items : List Item}
    (hreading : readingOf base p = .ok (.ok (text, items))) :
    ∃ code lines, Yields (Settled names versions (SameBut P base))
      (Settled names versions (SameBut P base))
      (workOnItems w common bench runtimes p text items).run
      (ending (scriptObstacle common bench base p text items) (.ok code)) lines := by
  unfold workOnItems scriptObstacle
  cases scriptOf bench p text items with
  | error e => exact ⟨.success, [], (Yields.throw _).lift_trouble⟩
  | ok scriptText =>
    cases hname : p.script? with
    | none => exact ⟨.success, [], (Yields.throw _).lift_trouble⟩
    | some script =>
      dsimp only
      cases hdry : common.dryRun with
      | true =>
        exact ⟨.success, [], (yields_part_note w hrun (by decide +kernel) _ _ _).part_next
          (Yields.pure _)⟩
      | false =>
        have hwritten : writtenScript? common base p = some script := by
          simp [writtenScript?, hreading, hdry, hname]
        obtain ⟨code, lines, hyields⟩ := exists_yields_duringScript w common bench hrun hhost
          hscript hknown hapart (textAt_of_readingOf hreading) hwritten scriptText
        exact ⟨code, lines, hyields.lift_ending⟩

theorem Settled.of_later {s : Session}
    (h : Settled (documentLoggers.reverse ++ scriptLogger :: names) versions I s) :
    Settled names versions I s :=
  h.mono (fun _ hname => List.mem_append_right _ (.tail _ hname)) fun _ htree => htree

section Document

variable {path : Text} (hdocument : ∀ place, base.locate (Path.ofText path) = .ok place → ¬ P place)

include hdocument

/-- Reading a document to benchmark it. -/
theorem yields_needed_readDocument (versions : Interpreter.Versions) (hrun : runLogger ∈ names) :
    Yields (Settled names versions (SameBut P base))
      (Settled (documentLoggers.reverse ++ scriptLogger :: names) versions (SameBut P base))
      (do Work.needLoggers [scriptLogger]; readDocument w "run" (Path.ofText path) : Part _).run
      (readingOf base (Path.ofText path)) [] := by
  have hneeded : Yields (Settled names versions (SameBut P base))
      (Settled (scriptLogger :: names) versions (SameBut P base))
      (Work.needLoggers [scriptLogger]) (.ok ()) [] := yields_needLoggers (by decide +kernel)
  exact hneeded.lift.part_next
    (yields_readDocument w (.tail scriptLogger hrun) (by decide +kernel) hdocument)

/-- A document that cannot be read is not benchmarked. -/
theorem yields_benchmarkDocument_unread (hrun : runLogger ∈ names)
    (hreading : ∀ document, readingOf base (Path.ofText path) ≠ .ok (.ok document)) :
    Yields (Settled names versions (SameBut P base)) (Settled names versions (SameBut P base))
      (benchmarkDocument w common options bench runtimes path)
      (ending (readingObstacle base (Path.ofText path)) (readingCode base (Path.ofText path)))
      [] := by
  have hread := yields_needed_readDocument w hdocument versions hrun
  unfold benchmarkDocument readingObstacle readingCode
  dsimp only
  rw [← bind_assoc]
  rcases hresult : readingOf base (Path.ofText path) with t | code | document
  · rw [hresult] at hread
    exact hread.part_trouble.finish_trouble.mono (fun _ h => h) fun _ => Settled.of_later
  · rw [hresult] at hread
    exact hread.part_exit.finish_exit.mono (fun _ h => h) fun _ => Settled.of_later
  · exact absurd hresult (hreading document)

/-- A document that was read is listed, if that is asked for, and worked on. -/
theorem yields_benchmarkDocument_read (hrun : runLogger ∈ names) {text : Text} {items : List Item}
    {obstacle : Option Trouble} {code : ExitCode} {lines : List Text}
    (hreading : readingOf base (Path.ofText path) = .ok (.ok (text, items)))
    (hwork : Yields
      (Settled (documentLoggers.reverse ++ scriptLogger :: names) versions (SameBut P base))
      (Settled (documentLoggers.reverse ++ scriptLogger :: names) versions (SameBut P base))
      (workOnItems w common bench runtimes (Path.ofText path) text items).run
      (ending obstacle (.ok code)) lines) :
    Yields (Settled names versions (SameBut P base)) (Settled names versions (SameBut P base))
      (benchmarkDocument w common options bench runtimes path) (ending obstacle code)
      ((if options.code then listingOf (Path.ofText path).toText items bench.markdown else []) ++
        lines) := by
  have hread := yields_needed_readDocument w hdocument versions hrun
  rw [hreading] at hread
  unfold benchmarkDocument
  dsimp only
  rw [← bind_assoc]
  refine Yields.mono (Yields.finish_ending (hread.part_next ?_)) (fun _ h => h)
    fun _ => Settled.of_later
  dsimp only
  split
  · exact (yields_printListing _ items _).lift.part_bind hwork
  · exact hwork

end Document

/-- **Benchmarking a document** comes to the same in all settled sessions whose trees differ from
one only where scripts stand and the document does not. -/
theorem exists_yields_benchmarkDocument (hrun : runLogger ∈ names) (hhost : hostLogger ∈ names)
    (hknown : AreKnown w versions runtimes) {path : Text}
    (hapart : IsApart common P base (Path.ofText path)) :
    ∃ code lines, Yields (Settled names versions (SameBut P base))
      (Settled names versions (SameBut P base))
      (benchmarkDocument w common options bench runtimes path)
      (ending (obstacleOf common bench base (Path.ofText path)) code) lines := by
  by_cases hreading : ∃ text items,
      readingOf base (Path.ofText path) = .ok (.ok (text, items))
  · obtain ⟨text, items, hreading⟩ := hreading
    have hlater {name : Text} (h : name ∈ names) :
        name ∈ documentLoggers.reverse ++ scriptLogger :: names :=
      List.mem_append_right _ (.tail _ h)
    obtain ⟨code, lines, hwork⟩ := exists_yields_workOnItems w common bench (hlater hrun)
      (hlater hhost) (List.mem_append_right _ (.head _)) hknown hapart hreading
    unfold obstacleOf
    rw [hreading]
    exact ⟨code, _, yields_benchmarkDocument_read w common options bench hapart.document hrun
      hreading hwork⟩
  · have hunread : ∀ document, readingOf base (Path.ofText path) ≠ .ok (.ok document) :=
      fun document h => hreading ⟨document.1, document.2, h⟩
    rw [obstacleOf_unread common bench hunread]
    exact ⟨_, [], yields_benchmarkDocument_unread w common options bench hapart.document hrun
      hunread⟩

end Benchmark

/-! ### Printing code -/

/-- Printing the code of the snippets of one document. -/
def printDocument (w : World) (markdown : Bool) (path : Text) : Work ExitCode :=
  Part.finish do
    let (_, items) ← readDocument w "code" (Path.ofText path)
    printListing path items markdown
    return .success

/-- **Printing the code of a document** comes to the same in all settled sessions with one tree. -/
theorem yields_printDocument (w : World) (markdown : Bool) (path : Text)
    (hcode : commandLogger "code" ∈ names) (hplace : ∀ place, ¬ P place) :
    Yields (Settled names versions (SameBut P base)) (Settled names versions (SameBut P base))
      (printDocument w markdown path)
      (ending (readingObstacle base (Path.ofText path)) (readingCode base (Path.ofText path)))
      (listingAt base (Path.ofText path) path markdown) := by
  have hread : Yields (Settled names versions (SameBut P base))
      (Settled (documentLoggers.reverse ++ names) versions (SameBut P base))
      (readDocument w "code" (Path.ofText path)).run (readingOf base (Path.ofText path)) [] :=
    yields_readDocument w hcode (by decide +kernel) fun place _ => hplace place
  have hleft (s : Session) (h : Settled (documentLoggers.reverse ++ names) versions
      (SameBut P base) s) : Settled names versions (SameBut P base) s :=
    h.mono (fun name hname => List.mem_append_right _ hname) fun _ htree => htree
  unfold printDocument readingObstacle readingCode listingAt
  cases hreading : readingOf base (Path.ofText path) with
  | error t =>
    rw [hreading] at hread
    exact hread.part_trouble.finish_trouble.mono (fun _ h => h) hleft
  | ok reading =>
    rw [hreading] at hread
    cases reading with
    | error code => exact hread.part_exit.finish_exit.mono (fun _ h => h) hleft
    | ok document =>
      obtain ⟨text, items⟩ := document
      refine Yields.mono (Yields.finish_ok (hread.part_next ?_)) (fun _ h => h) hleft
      dsimp only
      rw [ExceptT.run_bind]
      exact (yields_printListing path items markdown).lift.bind_pure rfl

end SnippetBench.Cli
