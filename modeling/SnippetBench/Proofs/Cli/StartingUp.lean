import SnippetBench.Proofs.Cli.ConfigurationError
import SnippetBench.Proofs.Log.Holdings

/-!
# What a command has done when it has begun

Whether a command can begin depends on the version of the interpreter, on the configuration and on
the log file, and not on which command it is (`exists_begun`, `begun_of_goesOn`). When it has begun,
its logger and that of the program have the level that is asked for, or else the configured one, or
else INFO; they told their records at that level; and nothing but the log file was written.
-/

namespace SnippetBench.Cli

open Files (Path Tree)
open Log (Level Record Registry Target)
open Log.Registry (IsLeaf Keeps Leveled Tidy WritesTo opened targetsOf)

variable {w : World} {common : CommonOptions} {config : Option Config.Configuration}
  {tree : Tree} {reg : Registry} {s : Session}

/-! ### The level and the log file -/

/-- The level that is asked for on the command line, or else the configured one, or else INFO. -/
def levelOf (common : CommonOptions) (config : Option Config.Configuration) : Level :=
  (common.level.or (config.map (·.global.level))).getD .info

/-- The log file of the configuration. -/
def logFileOf (config : Option Config.Configuration) : Option Path :=
  ((config.map (·.global)).bind (·.logFile)).map Path.ofText

theorem upper_name (level : Level) : Text.upper level.name = level.name := by
  cases level <;> decide +kernel

theorem read?_upper_name (level : Level) : Level.read? (Text.upper level.name) = some level := by
  rw [upper_name, read?_name]

theorem choose_name (asked configured : Option Level) :
    Level.choose (asked.map (·.name)) configured = ((asked.or configured).getD .info).name := by
  unfold Level.choose
  cases asked with
  | some level => exact upper_name level
  | none => cases configured <;> rfl

/-- The root is not among the loggers of the program. -/
theorem keptName_ne_of_isUnder {name : Text}
    (h : Registry.isUnder Startup.programName name = true) :
    Log.keptName name ≠ Log.rootName := by
  intro hroot
  unfold Log.keptName at hroot
  split at hroot
  case isTrue hempty =>
    obtain rfl := List.isEmpty_iff.1 hempty
    exact absurd h (by decide)
  case isFalse =>
    subst hroot
    exact absurd h (by decide)

theorem commandLogger_isUnder (command : Command) :
    Registry.isUnder Startup.programName (commandLogger command.name) = true ∧
      Startup.loggerName ≠ commandLogger command.name := by
  have hall : ∀ name ∈ commandForms.map Prod.fst,
      Registry.isUnder Startup.programName (commandLogger name) = true ∧
        Startup.loggerName ≠ commandLogger name := by decide
  exact hall _ command.name_mem

theorem commandLogger_mem_quietLoggers (command : Command) :
    commandLogger command.name ∈ quietLoggers := by
  have hall : ∀ name ∈ commandForms.map Prod.fst, commandLogger name ∈ quietLoggers := by
    decide +kernel
  exact hall _ command.name_mem

/-! ### Starting up -/

/-- The levels of the loggers that have handlers when a command has begun: those of its own logger
and of the logger of the program. -/
def firstLevels (command : Command) (level : Level) (name : Text) (lv : Level) : Prop :=
  (name = commandLogger command.name ∨ name = Startup.loggerName) ∧ lv = level

theorem run_startup_old (h : Interpreter.isRecent w.surroundings.version = false)
    (reg : Registry) (tree : Tree) (global : Option Config.GlobalOptions) (asked : Option Text) :
    (Startup.run w.surroundings global asked).run.run (reg, tree) =
      (.error (.tooOld w.surroundings.version), reg, tree) := by
  unfold Startup.run
  rw [h]
  rfl

/-- With an interpreter that is recent enough, starting up ends as setting the logger of the program
up does, once the levels have been changed. -/
theorem run_startup_of_setUp (hrecent : Interpreter.isRecent w.surroundings.version = true)
    {global : Option Config.GlobalOptions} {asked : Option Level} {level : Level}
    (hlevel : (asked.or (global.map (·.level))).getD .info = level) {reg₁ reg' : Registry}
    {tree' : Tree} {opening : Except Files.Failure Unit}
    (hset : reg.setLevels Startup.programName level.name = .ok reg₁)
    (hsetUp : (Registry.setUp Startup.loggerName level.name
        ((global.bind (·.logFile)).map Path.ofText)).run.run (reg₁, tree) =
      (opening.mapError .system, reg', tree')) :
    (Startup.run w.surroundings global (asked.map (·.name))).run.run (reg, tree) =
      ((opening.mapError fun f => .logging (.system f)).map fun _ => level.name, reg', tree') := by
  unfold Startup.run
  simp only [hrecent, Bool.not_true, Bool.false_eq_true, if_false]
  rw [choose_name, hlevel, run_get_bind]
  dsimp only
  rw [hset]
  dsimp only
  rw [run_modify_bind, ExceptT.run_bind, StateT.run_bind, ExceptT.run_adapt, StateT.run_map]
  dsimp only
  rw [hsetUp]
  cases opening <;> rfl

/-- The loggers that are there get the level of the command. -/
theorem exists_setLevels (command : Command) (level : Level)
    (h : Leveled (fun name _ => name = commandLogger command.name) reg) :
    ∃ reg', reg.setLevels Startup.programName level.name = .ok reg' ∧
      Leveled (fun name lv => name = commandLogger command.name ∧ lv = level) reg' := by
  obtain ⟨reg', hset⟩ := Registry.exists_setLevels_ok (read?_upper_name level) Startup.programName reg
  have hraised := h.setLevels (fun _ => keptName_ne_of_isUnder) (read?_upper_name level) hset
  refine ⟨reg', hset, hraised.mono fun name lv hlv => ?_⟩
  unfold Registry.raised at hlv
  split at hlv
  case isTrue =>
    obtain ⟨hlv, -, hname⟩ := hlv
    exact ⟨hname, hlv⟩
  case isFalse hunder =>
    subst hlv
    exact absurd (commandLogger_isUnder command).1 hunder

/-- Starting up changes the levels of the loggers that are there, opens the log file and, if that
can be done, sets the logger of the program up. -/
theorem exists_startup (hrecent : Interpreter.isRecent w.surroundings.version = true)
    (command : Command) (common : CommonOptions) (config : Option Config.Configuration)
    (h : Leveled (fun name _ => name = commandLogger command.name) reg) (tree : Tree) :
    ∃ reg', (Startup.run w.surroundings (config.map (·.global))
        (common.level.map (·.name))).run.run (reg, tree) =
          (((opened (logFileOf config) tree).1.mapError fun f => .logging (.system f)).map
            fun _ => (levelOf common config).name, reg', (opened (logFileOf config) tree).2) ∧
      ((opened (logFileOf config) tree).1 = .ok () →
        Leveled (firstLevels command (levelOf common config)) reg' ∧
          ∃ l, reg'.find? Startup.loggerName = some l ∧
            WritesTo (levelOf common config) (targetsOf (logFileOf config)) l) := by
  obtain ⟨reg₁, hset, hleveled⟩ := exists_setLevels command (levelOf common config) h
  have hnone : (reg₁.holding Startup.loggerName).handlers = [] :=
    hleveled.handlers_eq_nil isLeaf_loggerName.keptName_ne
      fun lv ⟨hname, _⟩ => (commandLogger_isUnder command).2 hname
  obtain ⟨reg', hsetUp, hwrites⟩ := Registry.exists_setUp_writes
    (read?_name (levelOf common config)) hnone (logFileOf config) tree
  have hlevel : (common.level.or ((config.map (·.global)).map (·.level))).getD .info =
      levelOf common config := by
    rw [Option.map_map]
    rfl
  refine ⟨reg', run_startup_of_setUp hrecent hlevel hset hsetUp,
    fun hopened => ⟨?_, hwrites hopened⟩⟩
  rw [hopened] at hsetUp
  have hfirst : Leveled (firstLevels command (levelOf common config)) reg₁ :=
    hleveled.mono fun name lv ⟨hname, hlv⟩ => ⟨.inl hname, hlv⟩
  exact hfirst.setUp isLeaf_loggerName.kept isLeaf_loggerName.notRoot
    (read?_name (levelOf common config)) hsetUp ⟨.inr rfl, rfl⟩

/-! ### Records of loggers with levels -/

/-- A record of a logger that is there and writes no file is written somewhere exactly if it reaches
a level that is allowed for the logger. -/
theorem exists_run_tell {allowed : Text → Level → Prop} (hleveled : Leveled allowed s.registry)
    (htidy : Tidy innerNames Startup.loggerName s.registry) {r : Record}
    (hquiet : r.logger ∈ quietLoggers) (hthere : (s.registry.find? r.logger).isSome)
    (hr : r.reserved? = none) (w : World) :
    ∃ level targets, allowed r.logger level ∧
      (Work.tell w r).run.run s = (.ok (), { s with told := s.told ++ [(r, targets)] }) ∧
      (targets ≠ [] ↔ level.severity ≤ r.level.severity) := by
  obtain ⟨hleaf, hown⟩ := isLeaf_of_mem_quietLoggers hquiet
  obtain ⟨l, hl⟩ := Option.isSome_iff_exists.1 hthere
  obtain ⟨level, targets, tree, hallowed, hrun, htargets⟩ := hleveled.exists_tell w.time
    hleaf.keptName_ne hl (htidy.handlers_ne_nil hleaf hl) hr s.tree
  have hsame := Log.Registry.tell_of_tidy w.time htidy hleaf hown hthere s.tree
  rw [hrun] at hsame
  cases hsame
  exact ⟨level, targets, hallowed, run_tell_of_ok hrun, htargets⟩

/-! ### Beginning -/

/-- What a command has to find to begin. -/
structure CanBegin (w : World) (common : CommonOptions) (tree : Tree)
    (config : Option Config.Configuration) : Prop where
  recent : Interpreter.isRecent w.surroundings.version = true
  reads : Reads w tree common.config config
  opens : (opened (logFileOf config) tree).1 = .ok ()

/-- The record of the start of the program. -/
def startRecord (w : World) (common : CommonOptions) (config : Option Config.Configuration) :
    Record :=
  Startup.record w.surroundings (levelOf common config).name

/-- The files when a command has begun. -/
def begunTree (w : World) (common : CommonOptions) (config : Option Config.Configuration)
    (tree : Tree) : Tree :=
  let tree := (opened (logFileOf config) tree).2
  if (levelOf common config).severity ≤ Level.debug.severity then
    ((Log.record w.time (startRecord w common config) (targetsOf (logFileOf config))).run tree).2
  else tree

/-- What a command has done when it has begun. -/
structure Begun (w : World) (common : CommonOptions) (command : Command)
    (config : Option Config.Configuration) (tree : Tree) (s : Session) : Prop where
  tree : s.tree = begunTree w common config tree
  leveled : Leveled (firstLevels command (levelOf common config)) s.registry
  told : ∀ entry ∈ s.told, firstLevels command (levelOf common config) entry.1.logger
    (levelOf common config) ∧
      (entry.2 ≠ [] ↔ (levelOf common config).severity ≤ entry.1.level.severity)

/-- A command that can begin starts the program up. -/
theorem exists_startUp (h : CanBegin w common tree config) (command : Command) {registry : Registry}
    (hleveled : Leveled (fun name _ => name = commandLogger command.name) registry) :
    ∃ s, GoesOn (startUp w common command.name config) { tree, registry } () s ∧
      Begun w common command config tree s := by
  obtain ⟨reg, hrun, hafter⟩ := exists_startup h.recent command common config hleveled tree
  obtain ⟨hleveled', l, hl, hwrites⟩ := hafter h.opens
  rw [h.opens] at hrun
  have hstart : GoesOn (liftM (Work.onLoggers (Startup.run w.surroundings (config.map (·.global))
      (common.level.map (·.name))).run) : Part _) { tree, registry }
      (.ok (levelOf common config).name)
      { tree := (opened (logFileOf config) tree).2, registry := reg } := by
    refine goesOn_lift.2 ((run_onLoggers _ _).trans ?_)
    rw [hrun]
    rfl
  have hhandlers : ∀ handler ∈ l.handlers, handler.level = levelOf common config := by
    simp [hwrites.handlers]
  have hsome : l.handlers ≠ [] := by simp [hwrites.handlers, targetsOf]
  have hreserved : (startRecord w common config).reserved? = none := rfl
  have htargets : l.handlers.map (·.target) = targetsOf (logFileOf config) := by
    simp [hwrites.handlers, Function.comp_def]
  have htell := Log.Registry.run_tell_of_level w.time isLeaf_loggerName.keptName_ne hl
    hwrites.passesOn hsome hwrites.level hhandlers hreserved (opened (logFileOf config) tree).2
  rw [htargets] at htell
  -- the record of the start counts if the level is DEBUG
  by_cases hdebug : (levelOf common config).severity ≤ Level.debug.severity
  · have hlevel : (levelOf common config).severity ≤ (startRecord w common config).level.severity :=
      hdebug
    rw [if_pos hlevel] at htell
    refine ⟨_, goesOn_bind.2 ⟨_, _, hstart, goesOn_lift.2 (run_tell_of_ok htell)⟩, ?_, hleveled', ?_⟩
    · unfold begunTree
      rw [if_pos hdebug]
    · rintro entry hentry
      obtain rfl := List.mem_singleton.1 hentry
      exact ⟨⟨.inr rfl, rfl⟩, iff_of_true (by simp [targetsOf]) hlevel⟩
  · have hlevel : ¬ (levelOf common config).severity ≤
        (startRecord w common config).level.severity := hdebug
    rw [if_neg hlevel] at htell
    refine ⟨_, goesOn_bind.2 ⟨_, _, hstart, goesOn_lift.2 (run_tell_of_ok htell)⟩, ?_, hleveled', ?_⟩
    · unfold begunTree
      rw [if_neg hdebug]
    · rintro entry hentry
      obtain rfl := List.mem_singleton.1 hentry
      exact ⟨⟨.inr rfl, rfl⟩, iff_of_false (by simp) hlevel⟩

/-- The logger of a command is the first that is set up. -/
theorem exists_goesOn_setUpLogger (command : Command) (level : Level) (tree : Tree) :
    ∃ registry, GoesOn (liftM (Work.setUpLogger (commandLogger command.name) level.name) : Part Unit)
        { tree } () { tree, registry } ∧
      Leveled (fun name _ => name = commandLogger command.name) registry := by
  have hleaf := isLeaf_commandLogger command
  have hempty : Leveled (fun name _ => name = commandLogger command.name) {} :=
    Log.Registry.all_empty
  obtain ⟨registry, hsetUp, -⟩ := Registry.exists_setUp hleaf.kept (read?_name level) {} tree
  have hgoes := goesOn_firstLogger tree command level
  rw [hsetUp] at hgoes
  exact ⟨registry, hgoes,
    hempty.setUp hleaf.kept hleaf.notRoot (read?_name level) hsetUp rfl⟩

/-- **A command that can begin** does so, and has then only set its first loggers up, told their
records and written the log file. -/
theorem exists_begun (command : Command) (h : CanBegin w common tree config) :
    ∃ s, GoesOn (prepare w common command.name) { tree } config s ∧
      Begun w common command config tree s := by
  have hquiet := commandLogger_mem_quietLoggers command
  obtain ⟨registry, hlogger, hleveled⟩ :=
    exists_goesOn_setUpLogger command (common.level.getD .info) tree
  have hread : GoesOn (readConfiguration w command.name common.config) { tree, registry } config
      { tree, registry } := goesOn_readConfiguration_iff.2 ⟨h.reads, rfl⟩
  obtain ⟨s, hstart, hbegun⟩ := exists_startUp h command hleveled
  obtain ⟨-, hset⟩ :=
    hlogger.of_yields (yields_setUpLogger hquiet (common.level.getD .info)).lift (settled_first tree)
  obtain ⟨-, hs⟩ := settled_startUp hset hstart
  have hprepare {s' : Session} (hlast : GoesOn (if config.isNone then do
        Work.note w (commandLogger command.name) .debug "No config provided, running with defaults"
          [("command", .text command.name)]
        return config
      else return config) s config s') :
      GoesOn (prepare w common command.name) { tree } config s' :=
    goesOn_bind.2 ⟨_, _, hlogger, goesOn_bind.2 ⟨_, _, hread, goesOn_bind.2 ⟨_, _, hstart, hlast⟩⟩⟩
  cases config with
  | some c => exact ⟨s, hprepare (goesOn_pure.2 ⟨rfl, rfl⟩), hbegun⟩
  | none =>
    let r : Record :=
      { level := .debug, logger := commandLogger command.name
        message := "No config provided, running with defaults"
        details := [("command", .text command.name)] }
    obtain ⟨level, targets, hallowed, htell, htargets⟩ :=
      exists_run_tell (r := r) hbegun.leveled hs.tidy hquiet (hs.there _ (.head _)) rfl w
    obtain ⟨-, rfl⟩ := hallowed
    refine ⟨_, hprepare (goesOn_bind.2 ⟨(), _, goesOn_lift.2 htell, goesOn_pure.2 ⟨rfl, rfl⟩⟩),
      hbegun.tree, hbegun.leveled, fun entry hentry => ?_⟩
    rcases List.mem_append.1 hentry with hentry | hentry
    · exact hbegun.told entry hentry
    · obtain rfl := List.mem_singleton.1 hentry
      exact ⟨⟨.inl rfl, rfl⟩, htargets⟩

/-- The program is started up only if the interpreter is recent and the log file can be opened. -/
theorem canBegin_of_startUp (hreads : Reads w tree common.config config) (command : Command)
    {registry : Registry}
    (hleveled : Leveled (fun name _ => name = commandLogger command.name) registry)
    (h : GoesOn (startUp w common command.name config) { tree, registry } () s) :
    CanBegin w common tree config := by
  unfold startUp at h
  obtain ⟨result, t, hstart, hrest⟩ := goesOn_bind.1 h
  have hresult : ((Startup.run w.surroundings (config.map (·.global))
      (common.level.map (·.name))).run.run (registry, tree)).1 = result := by
    have hrun := (run_onLoggers _ _).symm.trans (goesOn_lift.1 hstart)
    exact Except.ok.inj (congrArg Prod.fst hrun)
  cases hrecent : Interpreter.isRecent w.surroundings.version with
  | false =>
    rw [run_startup_old hrecent] at hresult
    subst hresult
    obtain ⟨_, _, _, hthrow⟩ := goesOn_bind.1 hrest
    exact absurd hthrow (not_goesOn_throw _)
  | true =>
    obtain ⟨reg, hrun, -⟩ := exists_startup hrecent command common config hleveled tree
    rw [hrun] at hresult
    refine ⟨hrecent, hreads, ?_⟩
    cases hopened : (opened (logFileOf config) tree).1 with
    | ok _ => rfl
    | error f =>
      rw [hopened] at hresult
      subst hresult
      exact absurd hrest (not_goesOn_trouble _)

/-- **A command that has begun** could begin, and has done no more than to set its first loggers up,
tell their records and write the log file. -/
theorem begun_of_goesOn (command : Command)
    (h : GoesOn (prepare w common command.name) { tree } config s) :
    CanBegin w common tree config ∧ Begun w common command config tree s := by
  have hcan : CanBegin w common tree config := by
    unfold prepare at h
    obtain ⟨_, s₁, hlogger, hrest⟩ := goesOn_bind.1 h
    obtain ⟨registry, hfirst, hleveled⟩ :=
      exists_goesOn_setUpLogger command (common.level.getD .info) tree
    obtain ⟨-, rfl⟩ := hlogger.unique hfirst
    obtain ⟨config', s₂, hconfig, hrest'⟩ := goesOn_bind.1 hrest
    obtain ⟨hreads, rfl⟩ := goesOn_readConfiguration_iff.1 hconfig
    obtain ⟨_, s₃, hstart, hlast⟩ := goesOn_bind.1 hrest'
    have hsame : config' = config := by
      split at hlast
      · obtain ⟨_, _, _, hpure⟩ := goesOn_bind.1 hlast
        exact (goesOn_pure.1 hpure).1
      · exact (goesOn_pure.1 hlast).1
    subst hsame
    exact canBegin_of_startUp hreads command hleveled hstart
  obtain ⟨s', hgoes, hbegun⟩ := exists_begun command hcan
  obtain ⟨-, rfl⟩ := h.unique hgoes
  exact ⟨hcan, hbegun⟩

end SnippetBench.Cli
