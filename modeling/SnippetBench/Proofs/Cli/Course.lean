import SnippetBench.Proofs.Cli.Steps

/-!
# The course of a command

What a command does once it has begun, it does by steps and stages: each of its pieces of work goes
by steps, and what it does with a document goes by stages, in which the script is the one that is built
of the document as it stands then (`DocumentStage`). So what a step preserves, and what a stage
preserves, holds at the end of a command if it holds when the command has begun (`follows_run`,
`course_run`, `steps_printCode`, `steps_tellInfo`).
-/

namespace SnippetBench.Cli

open Files (Path Tree)
open Log (Level Record)
open Relation (ReflTransGen)

variable {w : World} {running : Option Path} {names : List Text} {s t : Session}

/-! ### Pieces of work -/

section Pieces

variable {R : Session → Session → Prop} (hR : Admits w running R)

include hR

theorem follows_tell {r : Record} (hname : r.logger ∈ names) (hquiet : r.logger ∈ quietLoggers)
    (hr : r.reserved? = none) : Follows R names (Work.tell w r) :=
  Follows.of_step hR fun s hs => .tell s hquiet (hs.there _ hname) hr

theorem follows_note {name : Text} (hname : name ∈ names) (hquiet : name ∈ quietLoggers)
    {level : Level} {message : Text} {details : List (Text × Data)}
    (hr : Record.reserved? { level, logger := name, message, details } = none) :
    Follows R names (Work.note w name level message details) :=
  follows_tell hR hname hquiet hr

theorem follows_version (runtime : Text) : Follows R names (Work.version w runtime) :=
  Follows.of_step hR fun s _ => .ask s _

theorem follows_print (line : Text) : Follows R names (Work.print line) :=
  Follows.of_step hR fun s _ => .print s line

theorem follows_prints (lines : List Text) :
    Follows R names
      (forIn lines PUnit.unit fun line _ => do
        Work.print line
        return ForInStep.yield PUnit.unit) :=
  Follows.forIn_list hR fun line _ => follows_print hR line

theorem follows_printListing (path : Text) (items : List Document.Item) (markdown : Bool) :
    Follows R names (printListing path items markdown) :=
  Follows.bind hR (Follows.forIn_list hR fun _ _ => follows_print hR _) fun _ => Follows.pure _

theorem follows_readDocument {command : Text} (hcommand : commandLogger command ∈ names)
    (hquiet : commandLogger command ∈ quietLoggers) (p : Path) :
    Follows R names (readDocument w command p).run := by
  have hlate : ∀ name ∈ documentLoggers, name ∈ lateLoggers :=
    fun name hname => List.mem_append_right _ hname
  have hcommand' : commandLogger command ∈ documentLoggers.reverse ++ names :=
    List.mem_append_right _ hcommand
  have hneeded {name : Text} (hname : name ∈ documentLoggers) :
      name ∈ documentLoggers.reverse ++ names :=
    List.mem_append_left _ (List.mem_reverse.2 hname)
  unfold readDocument
  refine Follows.part_need_bind hR hlate (Follows.part_get_bind fun s => ?_)
  cases s.tree.textAt p with
  | error e =>
    cases e with
    | encoding m => exact Follows.lift hR (Follows.throw _)
    | notFound q | notFile q | system f =>
      exact Follows.part_bind hR (Follows.lift hR (follows_note hR hcommand' hquiet rfl))
        fun _ => Follows.pure _
  | ok text =>
    dsimp only
    cases Document.Token.ofText text with
    | error m =>
      exact Follows.part_bind hR (Follows.lift hR (follows_note hR hcommand' hquiet rfl))
        fun _ => Follows.pure _
    | ok tokens =>
      have htokenizer : ("pybm.document.tokenizer" : Text) ∈ documentLoggers := by decide
      have hparser : ("pybm.document.parser" : Text) ∈ documentLoggers := by decide
      refine Follows.part_bind hR (Follows.lift hR (follows_note hR (hneeded htokenizer)
        (mem_quietLoggers_of_late (hlate _ htokenizer)) rfl)) fun _ => ?_
      exact Follows.part_bind hR (Follows.lift hR (follows_note hR (hneeded hparser)
        (mem_quietLoggers_of_late (hlate _ hparser)) rfl)) fun _ => Follows.pure _

theorem follows_forPaths {work : Text → Work ExitCode} {paths : List Text}
    (h : ∀ path ∈ paths, Follows R names (work path)) : Follows R names (forPaths work paths) := by
  induction paths with
  | nil => exact Follows.pure _
  | cons path paths ih =>
    refine Follows.bind hR (h path (.head _)) fun code => ?_
    exact Follows.bind hR (ih fun p hp => h p (.tail _ hp)) fun _ => Follows.pure _

end Pieces

/-! ### Runtimes -/

theorem runLogger_mem_quietLoggers : runLogger ∈ quietLoggers := by decide +kernel

theorem hostLogger_mem_quietLoggers : hostLogger ∈ quietLoggers := by decide +kernel

section Runtimes

variable {R : Session → Session → Prop} (hR : Admits w running R) (hrun : runLogger ∈ names)

include hR hrun

theorem follows_checkRuntimes (runtimes : List Text) :
    Follows R names (checkRuntimes w runtimes).run := by
  induction runtimes with
  | nil => exact Follows.pure _
  | cons name runtimes ih =>
    refine Follows.part_bind hR (Follows.lift hR (follows_version hR name)) fun result => ?_
    cases result with
    | ok v => exact ih
    | error e =>
      dsimp only
      split
      · exact Follows.part_bind hR
          (Follows.lift hR (follows_note hR hrun runLogger_mem_quietLoggers rfl))
          fun _ => Follows.pure _
      · exact Follows.lift hR (Follows.throw _)

theorem follows_firstRuntime (hhost : hostLogger ∈ names) (runtimes : List Text) :
    Follows R names (firstRuntime w runtimes).run := by
  unfold firstRuntime
  refine Follows.part_get fun s hs => ?_
  rcases (Interpreter.firstAvailable (w.host.among s.tree) runtimes).run s.versions with
    ⟨result, versions⟩
  refine Follows.part_set_bind ?_ (hR.step _ _ (.ask s versions)) ⟨hs.tidy, hs.there⟩
  cases result with
  | error e => exact Follows.lift hR (Follows.throw _)
  | ok selection =>
    refine Follows.part_bind hR ?_ fun _ => ?_
    · induction selection.skipped with
      | nil => exact Follows.pure _
      | cons name skipped ih =>
        rw [List.forIn_cons, bind_assoc]
        exact Follows.part_bind hR
          (Follows.lift hR (follows_note hR hhost hostLogger_mem_quietLoggers rfl)) fun _ => ih
    · cases selection.chosen with
      | some name => exact Follows.pure _
      | none =>
        exact Follows.part_bind hR
          (Follows.lift hR (follows_note hR hrun runLogger_mem_quietLoggers rfl))
          fun _ => Follows.pure _

theorem follows_selectRuntimes {α : Type} (named configured : List Text)
    {f : List Text → Part α} (h : ∀ runtimes, Follows R (hostLogger :: names) (f runtimes).run) :
    Follows R names (selectRuntimes w named configured >>= f).run := by
  have hlate : ∀ name ∈ [hostLogger], name ∈ lateLoggers := by decide +kernel
  have hrun' : runLogger ∈ hostLogger :: names := .tail _ hrun
  unfold selectRuntimes
  rw [bind_assoc]
  refine Follows.part_need_bind hR hlate ?_
  split
  · rw [bind_assoc]
    refine Follows.part_bind hR (follows_firstRuntime hR hrun' (.head _) configured) fun name => ?_
    exact h [name]
  · rw [bind_assoc]
    exact Follows.part_bind hR (follows_checkRuntimes hR hrun' named) fun _ => h named

end Runtimes

/-! ### Executing a script -/

theorem follows_stream (e : Interpreter.Execution) (limit : Option Number.Binary64) :
    Follows (Step w running) names (ExceptT.lift (e.stream limit Work.print) :
      Work (Except (Interpreter.Refusal Trouble) Interpreter.RunResult)) := by
  intro s _
  have hprints (lines : List Text) (s : Session) :
      Steps w running s { s with printed := s.printed ++ lines } := by
    induction lines generalizing s with
    | nil => rw [List.append_nil]
    | cons line lines ih =>
      have hrest := ih { s with printed := s.printed ++ [line] }
      rw [List.append_assoc] at hrest
      exact .head (.print s line) hrest
  rw [ExceptT.run_lift, StateT.run_map, (takes_print (Interpreter.linesOf e.output) s).run_stream]
  exact hprints _ s

/-- Reading a file leaves the files as they are. -/
theorem tree_readBytes (p : Path) (tree : Tree) :
    ((Files.Action.readBytes p).run.run tree).2 = tree := by
  unfold Files.Action.readBytes
  cases hentry : tree.entryAt p with
  | error f => rw [run_bind_error ((Files.Action.run_ask _).trans (by rw [hentry]))]
  | ok entry =>
    rw [run_bind_ok ((Files.Action.run_ask _).trans (by rw [hentry]))]
    cases entry <;> rfl

/-- Work on the files ends as its action does, and changes nothing but the files. -/
theorem run_files {α : Type} (act : Files.Action α) (s : Session) :
    (Work.files act).run.run s = ((act.run.run s.tree).1.mapError .system,
      { s with tree := (act.run.run s.tree).2 }) := by
  unfold Work.files
  rw [run_bind_ok (run_onTree act.run s)]
  rcases act.run.run s.tree with ⟨result, tree⟩
  cases result <;> rfl

section Execution

variable (hrun : runLogger ∈ names) (hhost : hostLogger ∈ names) (bench : Config.BenchOptions)
  (p script : Path)

include hrun hhost

theorem follows_tellEnd (runtime : Text) (r : Interpreter.RunResult) :
    Follows (Step w running) names (tellEnd w bench p script runtime r) := by
  have hR := admits_step w running
  unfold tellEnd
  dsimp only
  split
  all_goals
    refine Follows.bind hR (follows_note hR hhost hostLogger_mem_quietLoggers rfl) fun _ => ?_
    split
    · exact Follows.pure _
    · exact Follows.bind hR (follows_note hR hrun runLogger_mem_quietLoggers rfl)
        fun _ => Follows.pure _

theorem follows_execute (runtime : Text) :
    Follows (Step w (some script)) names (execute w bench p script runtime) := by
  have hR := admits_step w (some script)
  unfold execute
  refine Follows.bind hR (follows_version hR runtime) fun result => ?_
  cases result with
  | error e => exact Follows.throw _
  | ok version =>
    refine Follows.bind hR (follows_prints hR _) fun _ => Follows.get_bind fun s => ?_
    dsimp only
    split
    · exact Follows.bind hR (follows_note hR hrun runLogger_mem_quietLoggers rfl)
        fun _ => Follows.pure _
    · exact Follows.throw _
    · refine Follows.bind hR (Follows.of_step hR fun s _ => .start s rfl runtime) fun _ => ?_
      have hread : Follows (Step w (some script)) names
          (Work.files (Files.Action.readBytes script)) := by
        intro s _
        rw [run_files, tree_readBytes]
      refine Follows.bind hR hread fun bytes => Follows.bind hR (follows_stream _ _) fun result => ?_
      cases result with
      | error refusal => exact Follows.throw _
      | ok r => exact follows_tellEnd hrun hhost bench p script runtime r

theorem follows_executeAll (runtimes : List Text) :
    Follows (Step w (some script)) names (executeAll w bench p script runtimes) := by
  have hR := admits_step w (some script)
  induction runtimes with
  | nil => exact Follows.pure _
  | cons runtime runtimes ih =>
    refine Follows.bind hR (follows_execute hrun hhost bench p script runtime) fun code => ?_
    exact Follows.bind hR ih fun _ => Follows.pure _

end Execution

/-! ### Scripts of documents -/

theorem steps_leaveScript (hscript : scriptLogger ∈ names) (script : Path) (keep : Bool)
    (hs : Orderly names s) :
    Steps w none { s with tree := ((Script.leave script keep).run s.tree).2 }
      ((leaveScript w script keep).run.run s).2 := by
  have hR := admits_step w none
  have hquiet : scriptLogger ∈ quietLoggers := by decide +kernel
  have hleft : Orderly names { s with tree := ((Script.leave script keep).run s.tree).2 } :=
    ⟨hs.tidy, hs.there⟩
  unfold leaveScript
  rw [run_bind_ok (run_onTree _ s)]
  cases ((Script.leave script keep).run s.tree).1 with
  | absent => exact .refl
  | kept | deleted | failed f => exact follows_note hR hscript hquiet rfl _ hleft

section Documents

variable {documents : Path → Prop} {bench : Config.BenchOptions} {p script : Path}
  {text scriptText : Text} {items : List Document.Item}

/-- A stage of a benchmark run with some options: the script that is put in place, or refused, is the
one that is built of a document as it can be read then. -/
inductive DocumentStage (w : World) (documents : Path → Prop) (bench : Config.BenchOptions) :
    Session → Session → Prop
  | step {s t : Session} (h : Step w none s t) : DocumentStage w documents bench s t
  | refused (s : Session) {p script : Path} {text scriptText : Text} {items : List Document.Item}
      {f : Files.Failure} {tree : Tree} (hp : documents p)
      (hreading : readingOf s.tree p = .ok (.ok (text, items)))
      (hbuilt : scriptOf bench p text items = .ok scriptText) (hscript : p.script? = some script)
      (henter : (Script.enter script scriptText).run.run s.tree = (.error f, tree)) :
      DocumentStage w documents bench s { s with tree }
  | lifetime {s t : Session} {p script : Path} {text scriptText : Text}
      {items : List Document.Item} {tree : Tree} (hp : documents p)
      (hreading : readingOf s.tree p = .ok (.ok (text, items)))
      (hbuilt : scriptOf bench p text items = .ok scriptText) (hscript : p.script? = some script)
      (henter : (Script.enter script scriptText).run.run s.tree = (.ok (), tree))
      (hsteps : Steps w (some script) { s with tree } t) :
      DocumentStage w documents bench s
        { t with tree := ((Script.leave script bench.keep).run t.tree).2 }

theorem DocumentStage.stage (h : DocumentStage w documents bench s t) :
    Stage w documents bench.keep s t := by
  cases h with
  | step h => exact .step h
  | refused hp hreading _ hscript henter =>
    exact .refused s hp (textAt_of_readingOf hreading) hscript henter
  | lifetime hp hreading _ hscript henter hsteps =>
    exact .lifetime hp (textAt_of_readingOf hreading) hscript henter hsteps

theorem admits_documentStage (w : World) (documents : Path → Prop) (bench : Config.BenchOptions) :
    Admits w none (DocumentStage w documents bench) :=
  ⟨fun _ _ h => .step h, fun _ _ _ h hs => h.stage.orderly hs⟩

/-- Work during the lifetime of a script is a stage, and perhaps a step behind it. -/
theorem course_duringScript (hscriptLogger : scriptLogger ∈ names) (hs : Orderly names s)
    (hp : documents p) (hreading : readingOf s.tree p = .ok (.ok (text, items)))
    (hbuilt : scriptOf bench p text items = .ok scriptText) (hscript : p.script? = some script)
    {body : Work ExitCode} (hbody : Follows (Step w (some script)) names body) :
    ReflTransGen (DocumentStage w documents bench) s
      ((duringScript w script scriptText bench.keep body).run.run s).2 := by
  have hR := admits_step w (some script)
  have hquiet : scriptLogger ∈ quietLoggers := by decide +kernel
  have hfiles := run_files (Script.enter script scriptText) s
  unfold duringScript
  rcases henter : (Script.enter script scriptText).run.run s.tree with ⟨result, tree⟩
  rw [henter] at hfiles
  cases result with
  | error f =>
    rw [run_bind_error hfiles]
    exact .single (.refused s hp hreading hbuilt hscript henter)
  | ok _ =>
    rw [run_bind_ok hfiles]
    have hinside : Orderly names { s with tree } := ⟨hs.tidy, hs.there⟩
    have hnote : Follows (Step w (some script)) names (Work.note w scriptLogger .debug
        "Generated script written" [("path", .text script.toText)]) :=
      follows_note hR hscriptLogger hquiet rfl
    have hwritten := hnote _ hinside
    obtain ⟨told, htell⟩ := run_tell w
      { level := .debug, logger := scriptLogger, message := "Generated script written"
        details := [("path", .text script.toText)] } { s with tree }
    unfold Work.note at hwritten ⊢
    rw [htell] at hwritten
    rw [run_bind_ok htell]
    have hwork := hwritten.trans (hbody _ (Follows.orderly hR hwritten hinside))
    exact .head (.lifetime hp hreading hbuilt hscript henter hwork)
      (Steps.follow (steps_leaveScript hscriptLogger script bench.keep
        (Follows.orderly hR hwork hinside)) (admits_documentStage w documents bench))

/-- What is done with a document that was read. -/
theorem course_workOnItems (common : CommonOptions) (runtimes : List Text)
    (hrun : runLogger ∈ names) (hhost : hostLogger ∈ names) (hscriptLogger : scriptLogger ∈ names)
    (hs : Orderly names s) (hp : common.dryRun = false → documents p)
    (hreading : readingOf s.tree p = .ok (.ok (text, items))) :
    ReflTransGen (DocumentStage w documents bench) s
      ((workOnItems w common bench runtimes p text items).run.run.run s).2 := by
  have hR := admits_documentStage w documents bench
  unfold workOnItems
  cases hbuilt : scriptOf bench p text items with
  | error e => exact .refl
  | ok scriptText =>
    cases hscript : p.script? with
    | none => exact .refl
    | some script =>
      dsimp only
      split
      · exact Follows.part_bind hR
          (Follows.lift hR (follows_note hR hrun runLogger_mem_quietLoggers rfl))
          (fun _ => Follows.pure _) s hs
      case isFalse hdry =>
        have hbody := follows_executeAll (w := w) hrun hhost bench p script runtimes
        have hdoc := hp (by simpa using hdry)
        show ReflTransGen (DocumentStage w documents bench) s
          ((liftM (duringScript w script scriptText bench.keep
            (executeAll w bench p script runtimes)) : Part ExitCode).run.run.run s).2
        rw [run_liftM]
        exact course_duringScript hscriptLogger hs hdoc hreading hbuilt hscript hbody

theorem readingOf_congr {tree tree' : Tree} (h : tree.textAt p = tree'.textAt p) :
    readingOf tree p = readingOf tree' p := by
  unfold readingOf
  rw [h]

/-- A document that was read is still there. -/
theorem reading_of_readDocument {command : Text} (hcommand : commandLogger command ∈ names)
    (hquiet : commandLogger command ∈ quietLoggers) (hs : Orderly names s)
    (h : GoesOn (readDocument w command p) s (text, items) t) :
    Orderly (documentLoggers.reverse ++ names) t ∧
      readingOf t.tree p = .ok (.ok (text, items)) := by
  have hplace : ∀ place, s.tree.locate p = .ok place → ¬ False := fun _ _ => id
  have hbase : Settled names s.versions (Files.Tree.SameBut (fun _ => False) s.tree) s :=
    ⟨hs.tidy, hs.there, rfl, .refl⟩
  obtain ⟨hresult, -, ht⟩ := yields_readDocument w hcommand hquiet hplace s hbase
  rw [h] at hresult ht
  exact ⟨ht.orderly, (readingOf_congr (ht.tree.textAt_eq hplace)).trans hresult.symm⟩

theorem follows_benchmarkDocument (common : CommonOptions) (options : RunOptions)
    (bench : Config.BenchOptions) (runtimes : List Text) (hrun : runLogger ∈ names)
    (hhost : hostLogger ∈ names) {path : Text}
    (hp : common.dryRun = false → documents (Path.ofText path)) :
    Follows (DocumentStage w documents bench) names
      (benchmarkDocument w common options bench runtimes path) := by
  have hR := admits_documentStage w documents bench
  have hlate : ∀ name ∈ [scriptLogger], name ∈ lateLoggers := by decide +kernel
  have hrun' : runLogger ∈ scriptLogger :: names := .tail _ hrun
  unfold benchmarkDocument
  refine Follows.finish hR (Follows.part_need_bind hR hlate ?_)
  refine Follows.part_bind_goesOn (follows_readDocument hR hrun' runLogger_mem_quietLoggers _) ?_
  rintro s ⟨text, items⟩ t hs hread
  obtain ⟨ht, hreading⟩ := reading_of_readDocument hrun' runLogger_mem_quietLoggers hs hread
  have hlater {name : Text} (h : name ∈ scriptLogger :: names) :
      name ∈ documentLoggers.reverse ++ scriptLogger :: names := List.mem_append_right _ h
  have hwork {u : Session} (hu : Orderly (documentLoggers.reverse ++ scriptLogger :: names) u)
      (hreading : readingOf u.tree (Path.ofText path) = .ok (.ok (text, items))) :
      ReflTransGen (DocumentStage w documents bench) u
        ((workOnItems w common bench runtimes (Path.ofText path) text items).run.run.run u).2 :=
    course_workOnItems common runtimes (hlater hrun') (hlater (.tail _ hhost))
      (hlater (.head _)) hu hp hreading
  dsimp only
  split
  · -- the lines of the listing leave the document where it is
    have hlisting := follows_printListing (admits_step w none) (Path.ofText path).toText items
      bench.markdown t ht
    obtain ⟨hu, htree⟩ := Steps.settled hlisting ht
    obtain ⟨hresult, -⟩ := yields_printListing (Path.ofText path).toText items bench.markdown
      t ht.settled
    rw [(goesOn_lift.2 (Prod.ext hresult rfl)).run_bind]
    exact (Steps.follow hlisting hR).trans (hwork hu (by rw [htree]; exact hreading))
  · exact hwork ht hreading

end Documents

/-! ### Commands -/

theorem follows_guarded {R : Session → Session → Prop} (hR : Admits w running R)
    (hrun : runLogger ∈ names) {work : Work ExitCode} (h : Follows R names work) :
    Follows R names (guarded w work) := by
  intro s hs
  have hwork := h s hs
  unfold guarded
  rw [ExceptT.run_tryCatch, StateT.run_bind]
  rcases hresult : work.run.run s with ⟨result, t⟩
  rw [hresult] at hwork
  cases result with
  | ok code => exact hwork
  | error e =>
    have htell : Follows R names (do
        Work.tell w
          { level := .error, logger := runLogger, message := "Benchmark run failed"
            details := [("error", .text e.message)], exception := some e.message }
        return ExitCode.runtimeError) :=
      Follows.bind hR (follows_tell hR hrun runLogger_mem_quietLoggers rfl) fun _ => Follows.pure _
    exact hwork.trans (htell t (Follows.orderly hR hwork hs))

/-- The documents whose scripts a benchmark run puts in place. -/
def benchmarked (common : CommonOptions) (options : RunOptions) (p : Path) : Prop :=
  common.dryRun = false ∧ ∃ path ∈ options.paths, p = Path.ofText path

theorem follows_benchmarkAll (common : CommonOptions) (options : RunOptions)
    (bench : Config.BenchOptions) (hrun : runLogger ∈ names) :
    Follows (DocumentStage w (benchmarked common options) bench) names
      (benchmarkAll w common options bench) := by
  have hR := admits_documentStage w (benchmarked common options) bench
  have hrun' : runLogger ∈ hostLogger :: names := .tail _ hrun
  unfold benchmarkAll
  refine Follows.finish hR (follows_selectRuntimes hR hrun _ _ fun runtimes => ?_)
  refine Follows.part_bind hR
    (Follows.lift hR (follows_note hR hrun' runLogger_mem_quietLoggers rfl)) fun _ => ?_
  refine Follows.lift hR (follows_forPaths hR fun path hpath => ?_)
  exact follows_benchmarkDocument common options bench runtimes hrun' (.head _)
    fun hdry => ⟨hdry, path, hpath, rfl⟩

variable {common : CommonOptions} {config : Option Config.Configuration} {tree : Tree}

theorem follows_benchOptions {R : Session → Session → Prop} (hR : Admits w running R)
    (hrun : runLogger ∈ names) (options : RunOptions) (config : Option Config.Configuration) :
    Follows R names (benchOptions w options config).run := by
  unfold benchOptions
  dsimp only
  split
  · exact Follows.pure _
  · exact Follows.part_bind hR
      (Follows.lift hR (follows_note hR hrun runLogger_mem_quietLoggers rfl))
      fun _ => Follows.pure _

/-- Options that are in order are those of the configuration with the overrides laid on. -/
theorem applyOverrides_of_benchOptions {options : RunOptions} {bench : Config.BenchOptions}
    (h : GoesOn (benchOptions w options config) s bench t) :
    Config.applyOverrides ((config.map (·.bench)).getD {}) options.overrides = .ok bench := by
  unfold benchOptions at h
  dsimp only at h
  split at h
  case h_1 heq =>
    obtain ⟨rfl, -⟩ := goesOn_pure.1 h
    exact heq
  case h_2 =>
    obtain ⟨_, _, _, h⟩ := goesOn_bind.1 h
    exact absurd h (not_goesOn_throw _)

/-- A benchmark run that has begun goes as a relation says that every stage with its options belongs
to. -/
theorem follows_run {R : Session → Session → Prop} (hR : Admits w none R)
    (h : GoesOn (prepare w common "run") { tree } config s) {options : RunOptions}
    (hstage : ∀ bench, Config.applyOverrides ((config.map (·.bench)).getD {}) options.overrides =
      .ok bench → ∀ s t, DocumentStage w (benchmarked common options) bench s t → R s t) :
    ReflTransGen R s ((run w common options).run.run { tree }).2 := by
  have hrun : runLogger ∈ [runLogger] := .head _
  obtain ⟨-, hs⟩ := settled_prepare (by decide +kernel) h
  have hcommand : Follows R [runLogger] (Part.finish do
      let bench ← benchOptions w options config
      guarded w (benchmarkAll w common options bench)) := by
    refine Follows.finish hR (Follows.part_bind_goesOn (follows_benchOptions hR hrun _ _) ?_)
    intro s bench t hs hbench
    rw [session_of_benchOptions hbench, run_liftM]
    have hstages := follows_guarded (admits_documentStage w (benchmarked common options) bench) hrun
      (follows_benchmarkAll common options bench hrun) s hs
    exact hstages.lift id (hstage bench (applyOverrides_of_benchOptions hbench))
  unfold run
  rw [h.run_finish]
  exact hcommand s hs.orderly

/-- **The course of a benchmark run** that has begun. -/
theorem course_run (h : GoesOn (prepare w common "run") { tree } config s) {options : RunOptions}
    {keep : Bool} (hkeep : ∀ bench, Config.applyOverrides ((config.map (·.bench)).getD {})
      options.overrides = .ok bench → bench.keep = keep) :
    Course w (benchmarked common options) keep s ((run w common options).run.run { tree }).2 := by
  refine follows_run (admits_stage w (benchmarked common options) keep) h ?_
  intro bench hbench s t hstage
  rw [← hkeep bench hbench]
  exact hstage.stage

/-- **The course of a listing of code** that has begun. -/
theorem steps_printCode (h : GoesOn (prepare w common "code") { tree } config s)
    (paths : List Text) (markdown : Bool) :
    Steps w none s ((printCode w common paths markdown).run.run { tree }).2 := by
  have hR := admits_step w none
  have hcode : commandLogger "code" ∈ [commandLogger "code"] := .head _
  obtain ⟨-, hs⟩ := settled_prepare (by decide +kernel) h
  rw [run_printCode h]
  refine follows_forPaths hR (fun path _ => Follows.finish hR ?_) s hs.orderly
  refine Follows.part_bind hR (follows_readDocument hR hcode (by decide +kernel) _) fun document => ?_
  exact Follows.part_bind hR (Follows.lift hR (follows_printListing hR _ _ _)) fun _ => Follows.pure _

theorem follows_versionsOf {R : Session → Session → Prop} (hR : Admits w running R)
    (runtimes : List Text) (known : List (Text × Data)) :
    Follows R names (versionsOf w runtimes known) := by
  induction runtimes generalizing known with
  | nil => exact Follows.pure _
  | cons name runtimes ih =>
    refine Follows.bind hR (follows_version hR name) fun result => ?_
    cases result with
    | ok v => exact ih _
    | error e =>
      dsimp only
      split
      · exact ih _
      · exact Follows.throw _

/-- **The course of a report about the surroundings** that has begun. -/
theorem steps_tellInfo (h : GoesOn (prepare w common "info") { tree } config s) :
    Steps w none s ((tellInfo w common).run.run { tree }).2 := by
  have hR := admits_step w none
  have hlate : ∀ name ∈ [hostLogger], name ∈ lateLoggers := by decide +kernel
  have hinfo : commandLogger "info" ∈ [hostLogger].reverse ++ [commandLogger "info"] :=
    .tail _ (.head _)
  obtain ⟨-, hs⟩ := settled_prepare (by decide +kernel) h
  unfold tellInfo
  rw [h.run_finish]
  refine Follows.finish hR (Follows.part_need_bind hR hlate ?_) s hs.orderly
  refine Follows.part_bind hR (Follows.lift hR (follows_versionsOf hR _ _)) fun versions => ?_
  exact Follows.part_bind hR (Follows.lift hR (follows_note hR hinfo (by decide +kernel) rfl))
    fun _ => Follows.pure _

end SnippetBench.Cli
