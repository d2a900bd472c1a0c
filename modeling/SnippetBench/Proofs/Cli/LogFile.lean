import SnippetBench.Proofs.Cli.Course
import SnippetBench.Proofs.Cli.StartingUp
import SnippetBench.Proofs.Files.Footprint

/-!
# The log file of a command

The beginning of a command changes the files only for the sake of the log file: the file and the
directories above it are made if they are not there, and a record may be added at its end
(`grows_begunTree`). If the command does not begin, not even that record is (`grows_prepare`). All
that is made is on the way of the log file (`alikeBut_begunTree`).
-/

namespace SnippetBench.Cli

open Files (Location Path Tree)
open Files.Tree (AlikeBut Grows)
open Log.Registry (Leveled opened targetsOf)

variable {w : World} {common : CommonOptions} {config : Option Config.Configuration}
  {command : Command} {level : Log.Level} {tree : Tree} {P : Location → Prop} {s t : Session}

/-! ### Opening the log file and writing to it -/

/-- The log file of a configuration stands at a location. -/
def IsLogFile (config : Option Config.Configuration) (tree : Tree) (place : Location) : Prop :=
  ∃ p, logFileOf config = some p ∧ tree.locate p = .ok place

theorem grows_opened (file : Option Path) (tree : Tree) : Grows P tree (opened file tree).2 := by
  cases file with
  | none => exact .refl
  | some p =>
    have hdirectories := Files.Action.grows_ensureDirectories (P := P) p.parent tree
    unfold opened
    dsimp only
    unfold Log.Registry.openFile
    rcases hrun : (Files.Action.ensureDirectories p.parent).run.run tree with ⟨f | _, tree'⟩
    all_goals rw [hrun] at hdirectories
    · rw [run_bind_error hrun]
      exact hdirectories
    · rw [run_bind_ok hrun]
      exact hdirectories.trans (Files.Action.grows_appendBytes fun hne => absurd rfl hne)

/-- A record is added at the end of the log file, if there is one. -/
theorem grows_record (time : Text) (r : Log.Record) {file : Option Path}
    (hP : ∀ p ∈ file, ∀ place, tree.locate p = .ok place → P place) :
    Grows P tree ((Log.record time r (targetsOf file)).run tree).2 := by
  cases file with
  | none => exact .refl
  | some p =>
    have hwrite : ((Log.record time r (targetsOf (some p))).run tree).2 =
        ((Files.Action.appendBytes p (Text.Utf8.encode (r.line time))).run.run tree).2 := rfl
    rw [hwrite]
    exact Files.Action.grows_appendBytes fun _ => hP p rfl

/-- **The files when a command has begun** are those from before, but for the log file. -/
theorem grows_begunTree (w : World) (common : CommonOptions)
    (config : Option Config.Configuration) (tree : Tree) :
    Grows (IsLogFile config (begunTree w common config tree)) tree
      (begunTree w common config tree) := by
  let file := logFileOf config
  let record := Log.record w.time (startRecord w common config) (targetsOf file)
  have hopened (P : Location → Prop) : Grows P tree (opened file tree).2 := grows_opened file tree
  unfold begunTree
  dsimp only
  split
  · refine (hopened _).trans (grows_record w.time _ fun p hp place hplace => ⟨p, hp, ?_⟩)
    have hrecord : Grows (fun _ => True) (opened file tree).2 (record.run (opened file tree).2).2 :=
      grows_record w.time _ fun _ _ _ _ => trivial
    exact hrecord.locate_eq_ok hplace
  · exact hopened _

/-- A location is on the way of a log file. -/
def OnLogWay (file : Option Path) (tree : Tree) (place : Location) : Prop :=
  ∃ p, file = some p ∧ tree.OnWay p place

theorem OnLogWay.of_grows {file : Option Path} {tree' : Tree} {place : Location}
    (h : OnLogWay file tree place) (hgrows : Grows P tree tree') : OnLogWay file tree' place :=
  have ⟨p, hp, hway⟩ := h
  ⟨p, hp, hway.of_grows hgrows⟩

theorem alikeBut_opened (file : Option Path) (tree : Tree) :
    AlikeBut (OnLogWay file (opened file tree).2) tree (opened file tree).2 := by
  cases file with
  | none => exact .refl
  | some p =>
    have hdirectories := Files.Action.alikeBut_ensureDirectories p.parent tree
    unfold opened
    dsimp only
    unfold Log.Registry.openFile
    rcases hrun : (Files.Action.ensureDirectories p.parent).run.run tree with ⟨f | _, tree'⟩
    all_goals
      rw [hrun] at hdirectories
      dsimp only at hdirectories
    · rw [run_bind_error hrun]
      exact hdirectories.mono fun place hway => ⟨p, rfl, hway.of_parent⟩
    · rw [run_bind_ok hrun]
      have hgrows : Grows (fun _ => True) tree'
          ((Files.Action.appendBytes p []).run.run tree').2 :=
        Files.Action.grows_appendBytes fun _ _ _ => trivial
      exact (hdirectories.mono fun place hway => ⟨p, rfl, hway.of_parent.of_grows hgrows⟩).trans
        ((Files.Action.alikeBut_appendBytes p [] tree').mono fun place hway => ⟨p, rfl, hway⟩)

theorem alikeBut_record (time : Text) (r : Log.Record) (file : Option Path) (tree : Tree) :
    let after := ((Log.record time r (targetsOf file)).run tree).2
    AlikeBut (OnLogWay file after) tree after := by
  cases file with
  | none => exact .refl
  | some p =>
    exact (Files.Action.alikeBut_appendBytes p (Text.Utf8.encode (r.line time)) tree).mono
      fun place hway => ⟨p, rfl, hway⟩

/-- **What stands elsewhere when a command has begun** stood there before. -/
theorem alikeBut_begunTree (w : World) (common : CommonOptions)
    (config : Option Config.Configuration) (tree : Tree) :
    AlikeBut (OnLogWay (logFileOf config) (begunTree w common config tree)) tree
      (begunTree w common config tree) := by
  let file := logFileOf config
  let record := Log.record w.time (startRecord w common config) (targetsOf file)
  have hopened := alikeBut_opened file tree
  unfold begunTree
  dsimp only
  split
  · have hgrows : Grows (fun _ => True) (opened file tree).2 (record.run (opened file tree).2).2 :=
      grows_record w.time _ fun _ _ _ _ => trivial
    exact (hopened.mono fun place hway => hway.of_grows hgrows).trans
      (alikeBut_record w.time (startRecord w common config) file (opened file tree).2)
  · exact hopened

/-! ### Commands that do not begin -/

section Part

variable {α β : Type} {part : Part α}

/-- What follows a part that does not go on is not done. -/
theorem session_bind_of_not_goesOn {f : α → Part β} (h : ∀ a t, ¬ GoesOn part s a t) :
    ((part >>= f).run.run.run s).2 = (part.run.run.run s).2 := by
  rcases hrun : part.run.run.run s with ⟨trouble | code | a, t⟩
  · have hstops : Stops part s (.error trouble) t := hrun
    rw [hstops.bind]
  · have hstops : Stops part s (.ok code) t := hrun
    rw [hstops.bind]
  · exact absurd hrun (h a t)

theorem session_finish {part : Part ExitCode} :
    (part.finish.run.run s).2 = (part.run.run.run s).2 := by
  unfold Part.finish
  rcases hrun : part.run.run.run s with ⟨trouble | code | code, t⟩
  · rw [run_bind_error hrun]
  · rw [run_bind_ok hrun]
    rfl
  · rw [run_bind_ok hrun]
    rfl

end Part

/-- Reading the configuration leaves the files as they are. -/
theorem tree_readConfiguration (command : Command)
    (hs : Orderly [commandLogger command.name] s) (path : Option Text) :
    ((readConfiguration w command.name path).run.run.run s).2.tree = s.tree := by
  have hR := admits_step w none
  have hquiet := commandLogger_mem_quietLoggers command
  have hfollows : Follows (Step w none) [commandLogger command.name]
      (readConfiguration w command.name path).run := by
    cases path with
    | none => exact Follows.pure _
    | some t =>
      unfold readConfiguration
      refine Follows.part_get_bind fun s => ?_
      split
      case h_1 => exact Follows.pure _
      case h_6 e _ _ _ _ _ =>
        have hr : (configRecord command.name (Path.ofText t) e).reserved? = none :=
          reserved?_configRecord _ _ _
        exact Follows.part_bind hR (Follows.lift hR (follows_note hR (.head _) hquiet hr))
          fun _ => Follows.pure _
      all_goals exact Follows.lift hR (Follows.throw _)
  exact (Steps.settled (hfollows s hs) hs).2

/-- The record of an interpreter that is too old. -/
def oldRecord (w : World) (command : Command) : Log.Record :=
  { level := .error, logger := commandLogger command.name, message := "Environment check failed"
    details := [("error", .text (Interpreter.tooOldMessage w.surroundings.version))] }

/-- An interpreter that is too old is told, and ends the command with an exit code. -/
theorem stops_startUp_old (hold : Interpreter.isRecent w.surroundings.version = false)
    (hs : IsFresh tree command level s) (common : CommonOptions)
    (config : Option Config.Configuration) :
    Stops (startUp w common command.name config) s (.ok .runtimeError)
      { s with told := [(oldRecord w command, configTargets level)] } := by
  obtain ⟨⟨registry, rfl⟩, l, hl, hwrites⟩ := hs
  have hrun := run_onLoggers (Startup.run w.surroundings (config.map (·.global))
    (common.level.map (·.name))).run { tree, registry }
  have hstart : (Startup.run w.surroundings (config.map (·.global))
      (common.level.map (·.name))).run.run (registry, tree) = _ := run_startup_old hold _ _ _ _
  rw [hstart] at hrun
  have htold : GoesOn (liftM (Work.tell w (oldRecord w command)) : Part Unit) { tree, registry } ()
      { tree, registry, told := [(oldRecord w command, configTargets level)] } :=
    goesOn_lift.2 (run_tell_of_ok (Log.Registry.tell_of_writesErrors w.time
      (isLeaf_commandLogger command).keptName_ne hl hwrites rfl tree))
  exact GoesOn.stops_bind (goesOn_lift.2 hrun) (htold.stops_bind (stops_throw _))

/-- A log file that cannot be opened is trouble. -/
theorem stops_startUp_unopened {registry : Log.Registry} {f : Files.Failure}
    (hrecent : Interpreter.isRecent w.surroundings.version = true)
    (hleveled : Leveled (fun name _ => name = commandLogger command.name) registry)
    (hopened : (opened (logFileOf config) tree).1 = .error f) (common : CommonOptions) :
    ∃ registry', Stops (startUp w common command.name config) { tree, registry }
      (.error (.system f))
      { tree := (opened (logFileOf config) tree).2, registry := registry' } := by
  obtain ⟨registry', hstart, -⟩ := exists_startup hrecent command common config hleveled tree
  have hrun := run_onLoggers (Startup.run w.surroundings (config.map (·.global))
    (common.level.map (·.name))).run { tree, registry }
  have hstart' : (Startup.run w.surroundings (config.map (·.global))
      (common.level.map (·.name))).run.run (registry, tree) = _ := hstart
  rw [hstart', hopened] at hrun
  exact ⟨registry', GoesOn.stops_bind (goesOn_lift.2 hrun) (stops_trouble _)⟩

/-- Starting up that cannot be done may have opened the log file, and does nothing else with the
files. -/
theorem tree_startUp {registry : Log.Registry}
    (hleveled : Leveled (fun name _ => name = commandLogger command.name) registry)
    (hs : IsFresh tree command level { tree, registry })
    (hreads : Reads w tree common.config config) (h : ¬ CanBegin w common tree config) :
    let after := ((startUp w common command.name config).run.run.run { tree, registry }).2.tree
    after = tree ∨ after = (opened (logFileOf config) tree).2 := by
  intro after
  cases hrecent : Interpreter.isRecent w.surroundings.version with
  | false =>
    have hstops := stops_startUp_old hrecent hs common config
    exact .inl (congrArg (fun out => out.2.tree) hstops)
  | true =>
    cases hopened : (opened (logFileOf config) tree).1 with
    | ok _ => exact absurd ⟨hrecent, hreads, hopened⟩ h
    | error f =>
      obtain ⟨_, hstops⟩ := stops_startUp_unopened hrecent hleveled hopened common
      exact .inr (congrArg (fun out => out.2.tree) hstops)

/-- A command that does not begin may have opened the log file, and does nothing else with the
files. -/
theorem tree_prepare (command : Command)
    (h : ∀ config s, ¬ GoesOn (prepare w common command.name) { tree } config s) :
    let after := ((prepare w common command.name).run.run.run { tree }).2.tree
    after = tree ∨ ∃ config, Reads w tree common.config config ∧
      after = (opened (logFileOf config) tree).2 := by
  have hquiet := commandLogger_mem_quietLoggers command
  obtain ⟨registry, hlogger, hleveled⟩ :=
    exists_goesOn_setUpLogger command (common.level.getD .info) tree
  obtain ⟨s, hlogger', hfresh⟩ := goesOn_setUpLogger tree command (common.level.getD .info)
  obtain ⟨-, rfl⟩ := hlogger'.unique hlogger
  obtain ⟨-, hset⟩ :=
    hlogger.of_yields (yields_setUpLogger hquiet (common.level.getD .info)).lift (settled_first tree)
  have htree := tree_readConfiguration (w := w) command hset.orderly common.config
  have hprepare : (prepare w common command.name).run.run.run { tree } = _ := hlogger.run_bind
  rw [hprepare]
  by_cases hread : ∃ config t,
      GoesOn (readConfiguration w command.name common.config) { tree, registry } config t
  · obtain ⟨config, t, hgoes⟩ := hread
    obtain ⟨hreads, rfl⟩ := goesOn_readConfiguration_iff.1 hgoes
    have hcannot : ¬ CanBegin w common tree config := fun hcan =>
      have ⟨s, hbegun, _⟩ := exists_begun command hcan
      h config s hbegun
    have hstop : ∀ a s, ¬ GoesOn (startUp w common command.name config) { tree, registry } a s :=
      fun _ _ hstart => hcannot (canBegin_of_startUp hreads command hleveled hstart)
    rw [hgoes.run_bind, session_bind_of_not_goesOn hstop]
    exact (tree_startUp hleveled hfresh hreads hcannot).imp_right
      fun hopened => ⟨config, hreads, hopened⟩
  · rw [session_bind_of_not_goesOn fun config t hgoes => hread ⟨config, t, hgoes⟩]
    exact .inl htree

/-- **A command that does not begin** leaves all files as they are; it may have made the log file and
the directories above it. -/
theorem grows_prepare (command : Command)
    (h : ∀ config s, ¬ GoesOn (prepare w common command.name) { tree } config s) :
    Grows (fun _ => False) tree
      ((prepare w common command.name).run.run.run { tree }).2.tree := by
  rcases tree_prepare command h with hsame | ⟨config, -, hopened⟩
  · rw [hsame]
    exact .refl
  · rw [hopened]
    exact grows_opened _ _

/-- A benchmark run that does not begin ends where its beginning ends. -/
theorem session_run_of_not_begun {options : RunOptions}
    (h : ∀ config s, ¬ GoesOn (prepare w common "run") { tree } config s) :
    ((run w common options).run.run { tree }).2 =
      ((prepare w common "run").run.run.run { tree }).2 := by
  unfold run
  rw [session_finish, session_bind_of_not_goesOn h]

end SnippetBench.Cli
