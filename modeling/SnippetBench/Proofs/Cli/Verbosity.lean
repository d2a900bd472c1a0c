import SnippetBench.Proofs.Cli.Course
import SnippetBench.Proofs.Cli.StartingUp

/-!
# The log level of a command

When a command has begun, the loggers that were there before have the level of the command. The
loggers of the host, of scripts and of documents are set up later, when they are needed, and have
the level INFO then, whatever the command was asked for. Every step of a command preserves that
loggers have these levels and that records were written accordingly (`Governed.step`), and so a
record is written exactly if it reaches the level of its logger (`written_iff_threshold`). The level
of the command is obeyed by the records of the first loggers; by those of the later ones only as far
as it makes no difference to them whether INFO is the level (`obeys_iff`).
-/

namespace SnippetBench.Cli

open Files (Tree)
open Log (Level Record Registry Target)
open Log.Registry (Leveled)

variable {w : World} {level : Level} {names : List Text} {s t : Session}

/-! ### Levels by name -/

/-- The level that the records of a logger have to reach in a command with a level. -/
def threshold (level : Level) (name : Text) : Level :=
  if lateLoggers.contains name then .info else level

theorem threshold_of_late {name : Text} (h : name ∈ lateLoggers) : threshold level name = .info :=
  if_pos (List.contains_iff_mem.2 h)

theorem threshold_of_not_late {name : Text} (h : name ∉ lateLoggers) :
    threshold level name = level :=
  if_neg fun hcontains => h (List.contains_iff_mem.1 hcontains)

theorem threshold_of_first {command : Command} {name : Text} {lv : Level}
    (h : firstLevels command level name lv) : lv = threshold level name := by
  obtain ⟨hname, rfl⟩ := h
  have hfirst : ∀ name ∈ Startup.loggerName :: commandForms.map fun form => commandLogger form.1,
      name ∉ lateLoggers := by decide +kernel
  have hmem : name ∈ Startup.loggerName :: commandForms.map fun form => commandLogger form.1 := by
    rcases hname with rfl | rfl
    · obtain ⟨form, hform, hname⟩ := List.mem_map.1 command.name_mem
      exact .tail _ (List.mem_map.2 ⟨form, hform, by rw [hname]⟩)
    · exact .head _
  exact (threshold_of_not_late (hfirst name hmem)).symm

/-- A session whose loggers have the levels of their names, and whose records were written exactly
if they reached them. -/
structure Governed (level : Level) (s : Session) : Prop where
  leveled : Leveled (fun name lv => lv = threshold level name) s.registry
  told : ∀ entry ∈ s.told,
    entry.2 ≠ [] ↔ (threshold level entry.1.logger).severity ≤ entry.1.level.severity

theorem Begun.governed {common : CommonOptions} {command : Command}
    {config : Option Config.Configuration} {tree : Tree}
    (h : Begun w common command config tree s) : Governed (levelOf common config) s := by
  refine ⟨h.leveled.mono fun name lv hlv => threshold_of_first hlv, fun entry hentry => ?_⟩
  obtain ⟨hfirst, htargets⟩ := h.told entry hentry
  rw [← threshold_of_first hfirst]
  exact htargets

/-! ### Steps and runs -/

/-- **A step preserves the levels**: a record is written according to the level of its logger, and a
logger that is set up gets the level of its name. -/
theorem Governed.step {running : Option Files.Path} (h : Governed level s) (hs : Orderly names s)
    (hstep : Step w running s t) : Governed level t := by
  cases hstep with
  | print | ask | start => exact ⟨h.leveled, h.told⟩
  | @tell r hquiet hthere hr =>
    obtain ⟨_, targets, rfl, hrun, htargets⟩ :=
      exists_run_tell h.leveled hs.tidy hquiet hthere hr w
    rw [hrun]
    refine ⟨h.leveled, fun entry hentry => ?_⟩
    rcases List.mem_append.1 hentry with hentry | hentry
    · exact h.told entry hentry
    · obtain rfl := List.mem_singleton.1 hentry
      exact htargets
  | @need name hlate =>
    obtain ⟨hleaf, -⟩ := isLeaf_of_mem_quietLoggers (mem_quietLoggers_of_late hlate)
    obtain ⟨registry, hsetUp, -⟩ :=
      Registry.exists_setUp hleaf.kept (read?_name .info) s.registry s.tree
    rw [run_setUpLogger hleaf .info hs.tidy, hsetUp]
    refine ⟨h.leveled.setUp hleaf.kept hleaf.notRoot (read?_name .info) hsetUp ?_, h.told⟩
    exact (threshold_of_late hlate).symm

theorem Governed.steps {running : Option Files.Path} (h : Governed level s) (hs : Orderly names s)
    (hsteps : Steps w running s t) : Governed level t := by
  induction hsteps with
  | refl => exact h
  | tail hfirst hstep ih => exact ih.step (Steps.settled hfirst hs).1 hstep

/-- **A run preserves the levels**, since the lifetimes of scripts change the files only. -/
theorem Governed.course {documents : Files.Path → Prop} {keep : Bool} (h : Governed level s)
    (hs : Orderly names s) (hcourse : Course w documents keep s t) : Governed level t := by
  induction hcourse with
  | refl => exact h
  | @tail u _ hfirst hstage ih =>
    have horderly := Follows.orderly (admits_stage w documents keep) hfirst hs
    cases hstage with
    | step hstep => exact ih.step horderly hstep
    | refused => exact ⟨ih.leveled, ih.told⟩
    | @lifetime _ _ _ _ _ tree _ _ _ _ hsteps =>
      have hplaced : Governed level { u with tree } := ⟨ih.leveled, ih.told⟩
      have hleft := hplaced.steps ⟨horderly.tidy, horderly.there⟩ hsteps
      exact ⟨hleft.leveled, hleft.told⟩

/-- The loggers of a command that has begun keep their levels to its end. -/
theorem governed_perform {common : CommonOptions} {command : Command}
    {config : Option Config.Configuration} {tree : Tree}
    (h : GoesOn (prepare w common command.name) { tree } config s) :
    Governed (levelOf common config)
      (((Invocation.mk common command).perform w).run.run { tree }).2 := by
  obtain ⟨-, hs⟩ := settled_prepare (commandLogger_mem_quietLoggers command) h
  have hgoverned := (begun_of_goesOn command h).2.governed
  cases command with
  | run options =>
    -- what is kept makes no difference to the loggers
    cases hbench : Config.applyOverrides ((config.map (·.bench)).getD {}) options.overrides with
    | ok bench =>
      exact hgoverned.course hs.orderly (course_run h fun bench' h' => by
        rw [hbench] at h'
        cases h'
        rfl)
    | error e =>
      have hcourse : Course w (benchmarked common options) false _
          ((run w common options).run.run { tree }).2 := course_run h fun bench' h' => by
        rw [hbench] at h'
        cases h'
      exact hgoverned.course hs.orderly hcourse
  | code paths markdown => exact hgoverned.steps hs.orderly (steps_printCode h paths markdown)
  | info => exact hgoverned.steps hs.orderly (steps_tellInfo h)

/-! ### The level that is asked for -/

/-- Records that obey a level: none below it is written, and if it is DEBUG, every DEBUG record
is. -/
def Obeys (level : Level) (told : List (Record × List Target)) : Prop :=
  ∀ entry ∈ told, (entry.2 ≠ [] → level.severity ≤ entry.1.level.severity) ∧
    (level = .debug → entry.1.level = .debug → entry.2 ≠ [])

instance (level : Level) (told : List (Record × List Target)) : Decidable (Obeys level told) :=
  inferInstanceAs (Decidable (∀ entry ∈ told,
    (entry.2 ≠ [] → level.severity ≤ entry.1.level.severity) ∧
      (level = .debug → entry.1.level = .debug → entry.2 ≠ [])))

/-- A record that is written from INFO on obeys a level if that makes no difference to it. -/
theorem obeys_info_iff {level lv : Level} {written : Prop}
    (h : written ↔ Level.info.severity ≤ lv.severity) :
    ((written → level.severity ≤ lv.severity) ∧ (level = .debug → lv = .debug → written)) ↔
      (level.severity ≤ lv.severity ↔ Level.info.severity ≤ lv.severity) := by
  rw [h]
  cases level <;> cases lv <;> simp [Level.severity]

theorem Governed.obeys_iff (h : Governed level s) :
    Obeys level s.told ↔ ∀ entry ∈ s.told, entry.1.logger ∈ lateLoggers →
      (level.severity ≤ entry.1.level.severity ↔
        Level.info.severity ≤ entry.1.level.severity) := by
  refine forall₂_congr fun entry hentry => ?_
  have htold := h.told entry hentry
  by_cases hlate : entry.1.logger ∈ lateLoggers
  · rw [threshold_of_late hlate] at htold
    rw [obeys_info_iff htold]
    simp [hlate]
  · rw [threshold_of_not_late hlate] at htold
    refine iff_of_true ⟨htold.1, ?_⟩ fun hmem => absurd hmem hlate
    intro hdebug _
    subst hdebug
    exact htold.2 (by cases entry.1.level <;> decide)

/-- **Which records a command writes**: a command that has begun with some level writes the records
of the loggers that are set up later exactly if they reach INFO, and all others exactly if they reach
its level. So its records obey the level exactly if each of the former reaches the level when it
reaches INFO, and only then. -/
theorem written_iff_threshold {arguments : List Text} {i : Invocation} {tree : Tree}
    {config : Option Config.Configuration} (hread : readInvocation arguments = .ok i)
    (hbegin : GoesOn (prepare w i.common i.command.name) { tree } config s) :
    let level := levelOf i.common config
    let told := (perform w tree arguments).session.told
    (∀ entry ∈ told,
      entry.2 ≠ [] ↔ (threshold level entry.1.logger).severity ≤ entry.1.level.severity) ∧
    (Obeys level told ↔ ∀ entry ∈ told, entry.1.logger ∈ lateLoggers →
      (level.severity ≤ entry.1.level.severity ↔
        Level.info.severity ≤ entry.1.level.severity)) := by
  have hgoverned := governed_perform hbegin
  have hsession : (perform w tree arguments).session = ((i.perform w).run.run { tree }).2 := by
    unfold perform
    rw [hread]
    rfl
  intro level told
  simp only [told, hsession]
  exact ⟨hgoverned.told, hgoverned.obeys_iff⟩

/-- A listing of code at the level DEBUG. -/
theorem written_iff_threshold_code :
    ∃ i config s,
      readInvocation ["code", "--log-level", "DEBUG", "a.py"] = .ok i ∧
      GoesOn (prepare talkingWorld i.common i.command.name) { tree := mixedTree } config s ∧
      levelOf i.common config = .debug ∧
      let told := (perform talkingWorld mixedTree
        ["code", "--log-level", "DEBUG", "a.py"]).session.told
      ∀ entry ∈ told,
        entry.2 ≠ [] ↔ (threshold .debug entry.1.logger).severity ≤ entry.1.level.severity := by
  have hread : readInvocation ["code", "--log-level", "DEBUG", "a.py"] =
      .ok ⟨{ level := some .debug }, .code ["a.py"] false⟩ := by decide +kernel
  obtain ⟨config, s, hbegin, -⟩ : ∃ config s,
      GoesOn (prepare talkingWorld { level := some .debug } (Command.code ["a.py"] false).name)
        { tree := mixedTree } config s ∧ True :=
    exists_goesOn (by decide +kernel) trivial
  exact ⟨_, config, s, hread, hbegin, rfl, (written_iff_threshold hread hbegin).1⟩

/-- The level that is asked for is not always obeyed: at DEBUG, the records about the reading of a
document are not written; at ERROR, the one about a script that is kept is. -/
theorem not_obeys_level :
    (∃ i, readInvocation ["code", "--log-level", "DEBUG", "a.py"] = .ok i ∧
      i.common.config = none ∧ levelOf i.common none = .debug ∧
      (perform talkingWorld mixedTree ["code", "--log-level", "DEBUG", "a.py"]).ending = .ok 0 ∧
      ¬ Obeys .debug (perform talkingWorld mixedTree
        ["code", "--log-level", "DEBUG", "a.py"]).session.told) ∧
    ∃ i, readInvocation ["run", "--log-level", "ERROR", "--keep", "a.py"] = .ok i ∧
      i.common.config = none ∧ levelOf i.common none = .error ∧
      (perform talkingWorld mixedTree
        ["run", "--log-level", "ERROR", "--keep", "a.py"]).ending = .ok 0 ∧
      ¬ Obeys .error (perform talkingWorld mixedTree
        ["run", "--log-level", "ERROR", "--keep", "a.py"]).session.told :=
  ⟨⟨⟨{ level := some .debug }, .code ["a.py"] false⟩, by decide +kernel, rfl, rfl, by decide +kernel,
      by decide +kernel⟩,
    ⟨⟨{ level := some .error }, .run { paths := ["a.py"], keep := true }⟩, by decide +kernel, rfl,
      rfl, by decide +kernel, by decide +kernel⟩⟩

end SnippetBench.Cli
