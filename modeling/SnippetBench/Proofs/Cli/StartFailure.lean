import SnippetBench.Proofs.Cli.LogFile
import SnippetBench.Proofs.Log.Holdings

/-!
# Starts that fail

The program can be started up unless the interpreter is too old or the log file cannot be opened, as
it is a directory or one of its directories is a file. The first failure is told, and ends a command
with the exit code 3. The second is caught nowhere: the command ends in it, and has told nothing
(`start_fails_or_escapes`).
-/

namespace SnippetBench.Cli

open Files (Path Tree)
open Log (Level Registry)
open Log.Registry (opened)

variable {w : World} {command : Command} {common : CommonOptions}
  {config : Option Config.Configuration} {tree : Tree}

/-! ### Log files that cannot be opened -/

/-- A file cannot be opened for records where a directory stands. -/
theorem opened_of_directory {p : Path} (h : tree.entryAt p = .ok .directory) :
    ∃ f, (opened (some p) tree).1 = .error f := by
  obtain ⟨place, hlocate, hplace⟩ := Tree.entryAt_eq_ok_iff.1 h
  have hgrows := Files.Action.grows_ensureDirectories (P := fun _ => True) p.parent tree
  unfold opened
  dsimp only
  unfold Log.Registry.openFile
  rcases hrun : (Files.Action.ensureDirectories p.parent).run.run tree with ⟨f | _, tree'⟩
  · rw [run_bind_error hrun]
    exact ⟨f, rfl⟩
  · rw [hrun] at hgrows
    have hask : (Files.Action.ask fun tree => tree.locate p).run.run tree' = (.ok place, tree') := by
      rw [Files.Action.run_ask, hgrows.locate_eq_ok hlocate]
    rw [run_bind_ok hrun, Files.Action.appendBytes, Files.Action.changeBytes, run_bind_ok hask,
      run_get_bind, hgrows.directory place hplace]
    exact ⟨_, rfl⟩

/-- A file cannot be opened for records below another file. -/
theorem opened_below_file {p above : Path} {bytes : List UInt8} (hroot : above.root = p.root)
    (habove : above.names <+: p.parent.names) (h : tree.entryAt above = .ok (.file bytes)) :
    ∃ f, opened (some p) tree = (.error f, tree) := by
  obtain ⟨place, hlocate, hfile⟩ := Tree.entryAt_eq_ok_iff.1 h
  obtain ⟨rest, hnames⟩ := habove
  have hwalk : tree.walk (tree.start p.root) above.names = .ok place := by
    rw [← hroot]
    exact (Tree.locate_eq_ok_iff.1 hlocate).2
  have hway : (Files.Action.ensureFrom (tree.start p.root) p.parent.names).run.run tree =
      (Files.Action.ensureFrom place rest).run.run tree := by
    rw [← hnames]
    exact Files.Action.run_ensureFrom_append hwalk hfile rest
  obtain ⟨f, hbarred⟩ := Files.Action.exists_ensureFrom_of_file hfile rest
  obtain ⟨f, hensure⟩ : ∃ f, (Files.Action.ensureDirectories p.parent).run.run tree =
      (.error f, tree) := by
    unfold Files.Action.ensureDirectories
    split
    case h_1 f _ => exact ⟨f, rfl⟩
    case h_2 => exact ⟨f, (run_get_bind _).trans (hway.trans hbarred)⟩
  unfold opened
  dsimp only
  unfold Log.Registry.openFile
  exact ⟨f, run_bind_error hensure⟩

/-! ### Starting up -/

/-- The log file that is opened when the program is started up, which is none if its logger has
handlers already. -/
def fileToOpen (global : Option Config.GlobalOptions) (reg : Registry) : Option Path :=
  if (reg.holding Startup.loggerName).handlers.isEmpty then
    (global.bind (·.logFile)).map Path.ofText
  else none

/-- **Starting up** gives the level, or fails as opening the log file does. -/
theorem run_startup_recent (hrecent : Interpreter.isRecent w.surroundings.version = true)
    (global : Option Config.GlobalOptions) (asked : Option Level) (reg : Registry) (tree : Tree) :
    ∃ reg', (Startup.run w.surroundings global (asked.map (·.name))).run.run (reg, tree) =
      (((opened (fileToOpen global reg) tree).1.mapError fun f => .logging (.system f)).map
        fun _ => ((asked.or (global.map (·.level))).getD .info).name,
        reg', (opened (fileToOpen global reg) tree).2) := by
  let level := (asked.or (global.map (·.level))).getD .info
  obtain ⟨reg₁, hset⟩ := Registry.exists_setLevels_ok (read?_upper_name level) Startup.programName reg
  have hempty : (reg₁.holding Startup.loggerName).handlers.isEmpty =
      (reg.holding Startup.loggerName).handlers.isEmpty := by
    rw [Registry.holding_setLevels (read?_upper_name level) hset, Bool.eq_iff_iff,
      List.isEmpty_iff, List.isEmpty_iff]
    split
    · exact Log.Holding.handlers_raise_eq_nil
    · rfl
  obtain ⟨reg', hsetUp, -⟩ := Registry.exists_setUp_holding (read?_name level) Startup.loggerName
    ((global.bind (·.logFile)).map Path.ofText) reg₁ tree
  rw [hempty] at hsetUp
  exact ⟨reg', run_startup_of_setUp hrecent rfl hset hsetUp⟩

/-! ### Commands that do not start up -/

/-- A command stops where the program cannot be started up. -/
theorem stops_prepare_of_startUp {registry : Registry} {outcome : Except Trouble ExitCode}
    {s' : Session}
    (hlogger : GoesOn (liftM (Work.setUpLogger (commandLogger command.name)
      (common.level.getD .info).name)) { tree } () { tree, registry })
    (hreads : Reads w tree common.config config)
    (h : Stops (startUp w common command.name config) { tree, registry } outcome s') :
    Stops (prepare w common command.name) { tree } outcome s' :=
  hlogger.stops_bind (GoesOn.stops_bind (goesOn_readConfiguration_iff.2 ⟨hreads, rfl⟩) h.bind)

/-- **A start that fails.** With an interpreter that is too old, starting up fails with that and
changes nothing; otherwise it gives the level, or fails as opening the log file does, which fails
where a directory stands and below a file. Every command whose configuration is read ends with the
exit code 3 in the first case, having told the failure; it goes on when the log file can be opened;
and when it cannot, the command ends in that trouble, having told and done nothing else. -/
theorem start_fails_or_escapes (w : World) (tree : Tree) :
    (∀ (global : Option Config.GlobalOptions) (asked : Option Level) (reg : Registry),
      let start := (Startup.run w.surroundings global (asked.map (·.name))).run.run (reg, tree)
      let file := fileToOpen global reg
      (Interpreter.isRecent w.surroundings.version = false →
        start = (.error (.tooOld w.surroundings.version), reg, tree)) ∧
      (Interpreter.isRecent w.surroundings.version = true → ∃ reg', start =
        (((opened file tree).1.mapError fun f => .logging (.system f)).map
          fun _ => ((asked.or (global.map (·.level))).getD .info).name,
          reg', (opened file tree).2))) ∧
    (∀ p, tree.entryAt p = .ok .directory ∨ (∃ above bytes, above.root = p.root ∧
        above.names <+: p.parent.names ∧ tree.entryAt above = .ok (.file bytes)) →
      ∃ f, (opened (some p) tree).1 = .error f) ∧
    ∀ arguments i config, readInvocation arguments = .ok i → Reads w tree i.common.config config →
      (Interpreter.isRecent w.surroundings.version = false →
        ∃ registry, perform w tree arguments =
          { ending := .ok 3
            session :=
              { tree, registry
                told := [(oldRecord w i.command, configTargets (i.common.level.getD .info))] } }) ∧
      (Interpreter.isRecent w.surroundings.version = true →
        ((opened (logFileOf config) tree).1 = .ok () →
          ∃ s, GoesOn (prepare w i.common i.command.name) { tree } config s) ∧
        ∀ f, (opened (logFileOf config) tree).1 = .error f →
          ∃ registry, perform w tree arguments =
            { ending := .error (.system f)
              session := { tree := (opened (logFileOf config) tree).2, registry } }) := by
  refine ⟨fun global asked reg => ⟨fun hold => run_startup_old hold reg tree global _,
    fun hrecent => run_startup_recent hrecent global asked reg tree⟩, ?_, ?_⟩
  · rintro p (hdirectory | ⟨above, bytes, hroot, habove, hfile⟩)
    · exact opened_of_directory hdirectory
    · obtain ⟨f, hopened⟩ := opened_below_file hroot habove hfile
      exact ⟨f, by rw [hopened]⟩
  · intro arguments i config hread hreads
    refine ⟨fun hold => ?_, fun hrecent => ⟨fun hopens => ?_, fun f hopened => ?_⟩⟩
    · obtain ⟨s, hlogger, hs⟩ := goesOn_setUpLogger tree i.command (i.common.level.getD .info)
      obtain ⟨registry, rfl⟩ := hs.only
      exact ⟨registry, perform_of_stops_prepare hread
        (stops_prepare_of_startUp hlogger hreads (stops_startUp_old hold hs i.common config))⟩
    · obtain ⟨s, hbegun, -⟩ := exists_begun i.command ⟨hrecent, hreads, hopens⟩
      exact ⟨s, hbegun⟩
    · obtain ⟨registry, hlogger, hleveled⟩ :=
        exists_goesOn_setUpLogger i.command (i.common.level.getD .info) tree
      obtain ⟨registry', hstop⟩ := stops_startUp_unopened hrecent hleveled hopened i.common
      exact ⟨registry', perform_of_stops_prepare hread
        (stops_prepare_of_startUp hlogger hreads hstop)⟩

/-- A configuration whose log file is a directory. -/
def barredLog : Tree :=
  (Tree.empty.put ["work", "logs"] .directory).put ["work", "cfg.yaml"]
    (.file (Text.Utf8.encode "global:\n  config_version: '1'\n  log_file: logs\n"))

/-- A world with an interpreter that is too old. -/
def oldWorld : World :=
  { talkingWorld with surroundings := { talkingWorld.surroundings with version := [3, 8] } }

/-- An interpreter that is too old, and a log file that is a directory. -/
theorem start_fails_or_escapes_barred :
    (∃ i, readInvocation ["info"] = .ok i ∧ Reads oldWorld barredLog i.common.config none ∧
      Interpreter.isRecent oldWorld.surroundings.version = false ∧
      (perform oldWorld barredLog ["info"]).ending = .ok 3) ∧
    ∃ i config, readInvocation ["info", "--config", "cfg.yaml"] = .ok i ∧
      Reads talkingWorld barredLog i.common.config config ∧
      Interpreter.isRecent talkingWorld.surroundings.version = true ∧
      (opened (logFileOf config) barredLog).1 = .error .isDirectory ∧
      (perform talkingWorld barredLog ["info", "--config", "cfg.yaml"]).ending =
        .error (.system .isDirectory) := by
  constructor
  · have hread : readInvocation ["info"] = .ok ⟨{}, .info⟩ := by decide +kernel
    have hold : Interpreter.isRecent oldWorld.surroundings.version = false := by decide
    obtain ⟨registry, hends⟩ :=
      ((start_fails_or_escapes oldWorld barredLog).2.2 _ _ none hread rfl).1 hold
    exact ⟨_, hread, rfl, hold, congrArg Outcome.ending hends⟩
  · have hread : readInvocation ["info", "--config", "cfg.yaml"] =
        .ok ⟨{ config := some "cfg.yaml" }, .info⟩ := by decide +kernel
    have hrecent : Interpreter.isRecent talkingWorld.surroundings.version = true := by decide
    obtain ⟨c, hload, hfile⟩ :
        ∃ c, Config.load talkingWorld.configs barredLog (Path.ofText "cfg.yaml") = .ok c ∧
          logFileOf (some c) = some (Path.ofText "logs") := by
      have hfile :
          ((Config.load talkingWorld.configs barredLog (Path.ofText "cfg.yaml")).toOption.bind
            fun c => logFileOf (some c)) = some (Path.ofText "logs") := by decide +kernel
      cases hload : Config.load talkingWorld.configs barredLog (Path.ofText "cfg.yaml") with
      | ok c =>
        rw [hload] at hfile
        exact ⟨c, rfl, hfile⟩
      | error e =>
        rw [hload] at hfile
        cases hfile
    have hreads : Reads talkingWorld barredLog (some "cfg.yaml") (some c) := ⟨c, hload, rfl⟩
    have hopened : (opened (logFileOf (some c)) barredLog).1 = .error .isDirectory := by
      rw [hfile]
      decide +kernel
    obtain ⟨registry, hends⟩ :=
      (((start_fails_or_escapes talkingWorld barredLog).2.2 _ _ _ hread hreads).2 hrecent).2 _
        hopened
    exact ⟨_, _, hread, hreads, hrecent, hopened, congrArg Outcome.ending hends⟩

/-- A log file that is a directory is not told, and no exit code is given. -/
theorem start_barredLog_escapes :
    (Config.load talkingWorld.configs barredLog (Path.ofText "cfg.yaml")).isOk = true ∧
      let outcome := perform talkingWorld barredLog ["info", "--config", "cfg.yaml"]
      outcome.ending = .error (.system .isDirectory) ∧ outcome.session.told = [] :=
  ⟨by decide +kernel, by decide +kernel, by decide +kernel⟩

end SnippetBench.Cli
