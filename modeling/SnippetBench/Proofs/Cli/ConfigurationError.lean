import SnippetBench.Proofs.Cli.Isolation
import SnippetBench.Proofs.Config.Loading

/-!
# Commands with a configuration in error

A command that is given a configuration sets its logger up and reads the file before it does
anything else. An error that a configuration file may have is told in one record, and ends the
command with the exit code 2; an error that is not caught ends it in trouble. In both cases nothing
was printed, started or written when it ends (`load_fails_or_escapes`). That is so wherever the
world has its configurations from: the system may refuse any question, and the reader of YAML any
text. `Stops part s outcome s'` says that a part of a command ends it.
-/

namespace SnippetBench.Cli

open Files (Path Tree)
open Log (Level Record Registry Target)
open Log.Registry (IsLeaf Tidy)

variable {w : World} {command : Command} {tree : Tree} {s s' : Session}

/-! ### Stopping -/

section Part

variable {α β : Type} {part : Part α} {f : α → Part β} {a : α} {outcome : Except Trouble ExitCode}

/-- A part stops the command in a session, with an exit code or in trouble. -/
def Stops (part : Part α) (s : Session) (outcome : Except Trouble ExitCode) (s' : Session) : Prop :=
  part.run.run.run s = (outcome.map .error, s')

theorem Stops.bind (h : Stops part s outcome s') : Stops (part >>= f) s outcome s' := by
  unfold Stops at h ⊢
  rw [ExceptT.run_bind, ExceptT.run_bind, StateT.run_bind, h]
  cases outcome <;> rfl

theorem GoesOn.stops_bind {t : Session} (h : GoesOn part s a t) (hf : Stops (f a) t outcome s') :
    Stops (part >>= f) s outcome s' := by
  unfold GoesOn at h
  unfold Stops at hf ⊢
  rw [ExceptT.run_bind, ExceptT.run_bind, StateT.run_bind, h]
  exact hf

theorem Stops.run_finish {part : Part ExitCode} (h : Stops part s outcome s') :
    part.finish.run.run s = (outcome, s') := by
  unfold Part.finish
  unfold Stops at h
  rw [ExceptT.run_bind, StateT.run_bind, h]
  cases outcome <;> rfl

theorem stops_get_bind {f : Session → Part α} :
    Stops (get >>= f) s outcome s' ↔ Stops (f s) s outcome s' := Iff.rfl

theorem stops_throw (code : ExitCode) : Stops (throw code : Part α) s (.ok code) s := rfl

theorem stops_trouble (t : Trouble) : Stops (Part.trouble t : Part α) s (.error t) s := rfl

end Part

/-! ### The logger of the command -/

/-- The name of a command. -/
def Command.name : Command → Text
  | run _ => "run"
  | code _ _ => "code"
  | info => "info"

theorem Command.name_mem (command : Command) : command.name ∈ commandForms.map Prod.fst := by
  cases command
  all_goals
    simp only [name]
    decide

theorem isLeaf_commandLogger (command : Command) :
    IsLeaf innerNames (commandLogger command.name) := by
  have hall : ∀ name ∈ commandForms.map Prod.fst, IsLeaf innerNames (commandLogger name) := by
    simp only [Log.Registry.isLeaf_iff]
    decide
  exact hall _ command.name_mem

/-- Telling a record that is not refused notes where it is written. -/
theorem run_tell_of_ok {r : Record} {targets : List Target} {registry : Registry} {tree : Tree}
    (h : (Log.tell w.time r).run.run (s.registry, s.tree) = (.ok targets, registry, tree)) :
    (Work.tell w r).run.run s =
      (.ok (), { s with registry, tree, told := s.told ++ [(r, targets)] }) := by
  unfold Work.tell
  rw [ExceptT.run_bind, StateT.run_bind, run_onLoggers, h]
  rfl

/-- A session in which nothing was done but setting the logger of the command up. -/
structure IsFresh (tree : Tree) (command : Command) (level : Level) (s : Session) : Prop where
  only : ∃ registry, s = { tree, registry }
  logger : ∃ l, s.registry.find? (commandLogger command.name) = some l ∧
    Log.Registry.WritesErrors level l

/-- The first logger that is set up is that of the command. -/
theorem goesOn_firstLogger (tree : Tree) (command : Command) (level : Level) :
    GoesOn (liftM (Work.setUpLogger (commandLogger command.name) level.name) : Part Unit) { tree } ()
      { tree
        registry := ((Registry.setUp (commandLogger command.name) level.name none).run.run
          ({}, tree)).2.1 } :=
  goesOn_lift.2 (run_setUpLogger (isLeaf_commandLogger command) level Log.Registry.all_empty)

/-- Every command begins with its logger. -/
theorem goesOn_setUpLogger (tree : Tree) (command : Command) (level : Level) :
    ∃ s, GoesOn (liftM (Work.setUpLogger (commandLogger command.name) level.name)) { tree } () s ∧
      IsFresh tree command level s := by
  have hleaf := isLeaf_commandLogger command
  have hnew : ¬ (Registry.find? {} (commandLogger command.name)).isSome := by
    rw [Registry.find?, if_neg hleaf.keptName_ne]
    exact Bool.false_ne_true
  exact ⟨_, goesOn_firstLogger tree command level, ⟨_, rfl⟩,
    Log.Registry.writesErrors_setUp hleaf hnew (read?_name level) tree⟩

/-! ### Reading the configuration -/

/-- The record of a configuration that is in error. -/
def configRecord (command : Text) (p : Path) (e : Config.LoadError) : Record :=
  { level := .error, logger := commandLogger command, message := "Configuration error"
    details := configDetails command p e }

/-- Where the record of a configuration that is in error is written, for the level of the logger. -/
def configTargets (level : Level) : List Target :=
  if level.severity ≤ Level.error.severity then [.errors] else []

theorem reserved?_configRecord (command : Text) (p : Path) (e : Config.LoadError) :
    (configRecord command p e).reserved? = none := by
  have hnames : (configRecord command p e).details.map Prod.fst =
      ["command", "config_path", "error"] := rfl
  rw [Record.reserved?, hnames]
  decide

/-- An error that a configuration file may have is told, and ends the command with an exit code. -/
theorem stops_readConfiguration_of_fails (w : World) {level : Level} {t : Text}
    {e : Config.LoadError} (hs : IsFresh tree command level s)
    (h : Config.Fails w.configs tree (Path.ofText t) e) :
    Stops (readConfiguration w command.name (some t)) s (.ok .configError)
      { s with told := [(configRecord command.name (Path.ofText t) e, configTargets level)] } := by
  obtain ⟨⟨registry, rfl⟩, l, hl, hwrites⟩ := hs
  let r := configRecord command.name (Path.ofText t) e
  have hnote : GoesOn (liftM (Work.tell w r) : Part Unit) { tree, registry } ()
      { tree, registry, told := [(r, configTargets level)] } :=
    goesOn_lift.2 (run_tell_of_ok (Log.Registry.tell_of_writesErrors w.time
      (isLeaf_commandLogger command).keptName_ne hl hwrites (reserved?_configRecord _ _ _) tree))
  unfold readConfiguration
  dsimp only
  rw [stops_get_bind, h.load_eq]
  cases h
  all_goals exact hnote.stops_bind (stops_throw _)

/-- An error that is not caught is trouble. -/
theorem stops_readConfiguration_of_escapes (w : World) (command : Command) (s : Session) {t : Text}
    {e : Config.LoadError} (h : Config.Escapes w.configs s.tree (Path.ofText t) e) :
    ∃ trouble : Trouble, trouble.message = e.message (Path.ofText t) ∧
      Stops (readConfiguration w command.name (some t)) s (.error trouble) s := by
  unfold readConfiguration
  dsimp only
  simp only [stops_get_bind, h.load_eq]
  cases h
  all_goals exact ⟨_, rfl, stops_trouble _⟩

/-! ### The commands -/

/-- A command that is stopped at its beginning ends there. -/
theorem run_perform_of_stops {i : Invocation} {outcome : Except Trouble ExitCode}
    (h : Stops (prepare w i.common i.command.name) s outcome s') :
    (i.perform w).run.run s = (outcome, s') := by
  obtain ⟨common, command⟩ := i
  cases command with
  | run options => exact h.bind.run_finish
  | code paths markdown => exact h.bind.run_finish
  | info => exact h.bind.run_finish

/-- A program whose command is stopped at its beginning ends there. -/
theorem perform_of_stops_prepare {arguments : List Text} {i : Invocation}
    {outcome : Except Trouble ExitCode} (hread : readInvocation arguments = .ok i)
    (h : Stops (prepare w i.common i.command.name) { tree } outcome s') :
    perform w tree arguments = { ending := outcome.map ExitCode.number, session := s' } := by
  have hrun : (i.perform w).run { tree } = (outcome, s') := run_perform_of_stops h
  rw [perform, hread]
  dsimp only
  rw [hrun]

/-- A command whose configuration cannot be read ends there. -/
theorem perform_of_stops {arguments : List Text} {i : Invocation} {t : Text}
    {outcome : Except Trouble ExitCode} (hread : readInvocation arguments = .ok i)
    (hconfig : i.common.config = some t)
    (hbegin : GoesOn (liftM (Work.setUpLogger (commandLogger i.command.name)
      (i.common.level.getD .info).name)) { tree } () s)
    (h : Stops (readConfiguration w i.command.name (some t)) s outcome s') :
    perform w tree arguments = { ending := outcome.map ExitCode.number, session := s' } := by
  refine perform_of_stops_prepare hread ?_
  unfold prepare
  rw [hconfig]
  exact hbegin.stops_bind h.bind

/-- **A configuration in error**: loading ends in options, in one of the errors that a configuration
file may have, or in one that is not caught. Every command that is given the path of such a file
ends there, and has done nothing else but tell the error of the file: with the exit code 2 in the
second case, and in trouble in the third. -/
theorem load_fails_or_escapes (w : World) (tree : Tree) :
    (∀ p, (∀ c, Config.load w.configs tree p = .ok c ↔ Config.Loads w.configs tree p c) ∧
      ∀ e, Config.load w.configs tree p = .error e ↔
        Config.Fails w.configs tree p e ∨ Config.Escapes w.configs tree p e) ∧
    ∀ arguments i t, readInvocation arguments = .ok i → i.common.config = some t →
      (∀ e, Config.Fails w.configs tree (Path.ofText t) e →
        ∃ registry, perform w tree arguments =
          { ending := .ok 2
            session :=
              { tree, registry
                told := [(configRecord i.command.name (Path.ofText t) e,
                  configTargets (i.common.level.getD .info))] } }) ∧
      ∀ e, Config.Escapes w.configs tree (Path.ofText t) e →
        ∃ registry trouble, Trouble.message trouble = e.message (Path.ofText t) ∧
          perform w tree arguments =
            { ending := .error trouble, session := { tree, registry } } := by
  refine ⟨fun p => ⟨fun c => Config.load_eq_ok_iff, fun e => Config.load_eq_error_iff⟩, ?_⟩
  intro arguments i t hread hconfig
  obtain ⟨s, hbegin, hs⟩ := goesOn_setUpLogger tree i.command (i.common.level.getD .info)
  constructor
  · intro e he
    have hperform := perform_of_stops hread hconfig hbegin
      (stops_readConfiguration_of_fails w hs he)
    obtain ⟨registry, rfl⟩ := hs.only
    exact ⟨registry, hperform⟩
  · intro e he
    obtain ⟨registry, rfl⟩ := hs.only
    obtain ⟨trouble, hmessage, hstop⟩ :=
      stops_readConfiguration_of_escapes w i.command { tree, registry } he
    exact ⟨registry, trouble, hmessage, perform_of_stops hread hconfig hbegin hstop⟩

/-- A directory with configuration files whose bytes are no text, and in which a list does not
end. -/
def faultyConfigs : Tree :=
  [(["work", "bytes.yaml"], [0xff, 0x0a]),
    (["work", "open.yaml"], Text.Utf8.encode "global: [")].foldl
    (fun tree (place, bytes) => tree.put place (.file bytes)) Tree.empty

/-- A world in which nobody may read a configuration file. -/
def lockedWorld : World :=
  { talkingWorld with configs := { bytesAt := fun _ _ => .error .notPermitted } }

/-- A list that does not end, a file that may not be read, and bytes that are no text. -/
theorem load_fails_or_escapes_faulty :
    (∃ i, readInvocation ["info", "--config", "open.yaml"] = .ok i ∧
      i.common.config = some "open.yaml" ∧
      Config.Fails talkingWorld.configs faultyConfigs (Path.ofText "open.yaml") .malformed ∧
      (perform talkingWorld faultyConfigs ["info", "--config", "open.yaml"]).ending = .ok 2 ∧
      Config.Fails lockedWorld.configs faultyConfigs (Path.ofText "open.yaml")
        (.refused .notPermitted) ∧
      (perform lockedWorld faultyConfigs ["info", "--config", "open.yaml"]).ending = .ok 2) ∧
    ∃ i e trouble, readInvocation ["run", "a.py", "--config", "bytes.yaml"] = .ok i ∧
      i.common.config = some "bytes.yaml" ∧
      Config.Escapes talkingWorld.configs faultyConfigs (Path.ofText "bytes.yaml") e ∧
      (perform talkingWorld faultyConfigs ["run", "a.py", "--config", "bytes.yaml"]).ending =
        .error trouble := by
  obtain ⟨hload, hperform⟩ := load_fails_or_escapes talkingWorld faultyConfigs
  constructor
  · have hread : readInvocation ["info", "--config", "open.yaml"] =
        .ok ⟨{ config := some "open.yaml" }, .info⟩ := by decide +kernel
    have hmalformed :
        Config.Fails talkingWorld.configs faultyConfigs (Path.ofText "open.yaml") .malformed :=
      (((hload _).2 _).1 (by decide +kernel)).resolve_right fun h =>
        absurd h.not_isExpected (by decide)
    obtain ⟨_, hends⟩ := (hperform _ _ _ hread rfl).1 _ hmalformed
    have hfile : Config.HasFile lockedWorld.configs faultyConfigs (Path.ofText "open.yaml") :=
      ⟨by decide +kernel, by decide +kernel⟩
    have hrefused : Config.Fails lockedWorld.configs faultyConfigs (Path.ofText "open.yaml")
        (.refused .notPermitted) := .refused hfile rfl rfl
    obtain ⟨_, hlocked⟩ :=
      ((load_fails_or_escapes lockedWorld faultyConfigs).2 _ _ _ hread rfl).1 _ hrefused
    exact ⟨_, hread, rfl, hmalformed, congrArg Outcome.ending hends, hrefused,
      congrArg Outcome.ending hlocked⟩
  · have hread : readInvocation ["run", "a.py", "--config", "bytes.yaml"] =
        .ok ⟨{ config := some "bytes.yaml" }, .run { paths := ["a.py"] }⟩ := by decide +kernel
    have hescapes : Config.Escapes talkingWorld.configs faultyConfigs (Path.ofText "bytes.yaml")
        (.encoding ⟨.start, 0, [0xff]⟩) :=
      (((hload _).2 _).1 (by decide +kernel)).resolve_left fun h => absurd h.isExpected (by decide)
    obtain ⟨registry, trouble, -, hends⟩ := (hperform _ _ _ hread rfl).2 _ hescapes
    exact ⟨_, _, trouble, hread, rfl, hescapes, congrArg Outcome.ending hends⟩

/-- Bytes that are no text are not caught: no command that is given such a configuration ends with
the exit code 2. -/
theorem load_faultyConfigs_escapes :
    (∃ e, Config.load talkingWorld.configs faultyConfigs (Path.ofText "bytes.yaml") = .error e ∧
      e.isExpected = false) ∧
    ∀ command ∈ ([["run", "a.py"], ["code", "a.py"], ["info"]] : List (List Text)),
      (perform talkingWorld faultyConfigs
        (command ++ (["--config", "bytes.yaml"] : List Text))).ending ≠ .ok 2 :=
  ⟨⟨.encoding ⟨.start, 0, [0xff]⟩, by decide +kernel, rfl⟩, by decide +kernel⟩

end SnippetBench.Cli
