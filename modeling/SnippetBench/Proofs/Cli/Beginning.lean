import SnippetBench.Proofs.Cli.Settled
import SnippetBench.Proofs.Except

/-!
# The beginning of a command

When a command has begun and goes on, its session is settled: nothing was printed so far, its logger
is there, and the log file is written no more (`settled_prepare`). `GoesOn part s a s'` says that a
part of a command does not end it.
-/

namespace SnippetBench.Cli

open Files (Path Tree)
open Log (Registry)
open Log.Registry (Keeps Tidy)

variable {w : World} {common : CommonOptions} {command : Text} {s s' : Session}
  {names : List Text} {versions : Interpreter.Versions}

/-! ### Going on -/

section Part

variable {α β : Type} {part : Part α} {f : α → Part β} {a : α} {b : β}

/-- A part goes on to give a value in a session. -/
def GoesOn (part : Part α) (s : Session) (a : α) (s' : Session) : Prop :=
  part.run.run.run s = (.ok (.ok a), s')

theorem goesOn_bind : GoesOn (part >>= f) s b s' ↔
    ∃ a t, GoesOn part s a t ∧ GoesOn (f a) t b s' := by
  unfold GoesOn
  rw [ExceptT.run_bind, ExceptT.run_bind, StateT.run_bind]
  rcases part.run.run.run s with ⟨result, t⟩
  constructor
  · intro h
    rcases result with trouble | exit | a
    · cases h
    · cases h
    · exact ⟨a, t, rfl, h⟩
  · rintro ⟨a, t', ht, h⟩
    cases ht
    exact h

theorem GoesOn.run_bind (h : GoesOn part s a s') :
    (part >>= f).run.run.run s = (f a).run.run.run s' := by
  rw [ExceptT.run_bind]
  exact run_bind_ok h

theorem GoesOn.unique {a' : α} {t : Session} (h : GoesOn part s a s') (h' : GoesOn part s a' t) :
    a = a' ∧ s' = t := by
  cases h.symm.trans h'
  exact ⟨rfl, rfl⟩

theorem goesOn_pure {a' : α} : GoesOn (pure a : Part α) s a' s' ↔ a = a' ∧ s = s' := by
  constructor
  · intro h
    cases h
    exact ⟨rfl, rfl⟩
  · rintro ⟨rfl, rfl⟩
    rfl

theorem goesOn_get_bind {f : Session → Part α} :
    GoesOn (get >>= f) s a s' ↔ GoesOn (f s) s a s' := Iff.rfl

theorem not_goesOn_throw (code : ExitCode) : ¬ GoesOn (throw code : Part α) s a s' := nofun

theorem not_goesOn_trouble (t : Trouble) : ¬ GoesOn (Part.trouble t : Part α) s a s' := nofun

theorem run_liftM (work : Work α) (s : Session) :
    (liftM work : Part α).run.run.run s =
      ((work.run.run s).1.map .ok, (work.run.run s).2) := by
  show (ExceptT.run (Except.ok <$> work)).run s = _
  rw [ExceptT.run_map, StateT.run_map]
  rcases work.run.run s with ⟨result, t⟩
  cases result <;> rfl

theorem goesOn_lift {work : Work α} :
    GoesOn (liftM work : Part α) s a s' ↔ work.run.run s = (.ok a, s') := by
  unfold GoesOn
  rw [run_liftM]
  rcases work.run.run s with ⟨result, t⟩
  constructor
  all_goals
    intro h
    cases result with
    | ok b =>
      cases h
      rfl
    | error e => cases h

/-- A part whose run gives a value goes on. -/
theorem exists_goesOn {Q : Session → Prop}
    (h : ((part.run.run.run s).1.toOption.bind Except.toOption).isSome)
    (hQ : Q (part.run.run.run s).2) : ∃ a s', GoesOn part s a s' ∧ Q s' := by
  unfold GoesOn
  rcases hrun : part.run.run.run s with ⟨trouble | exit | a, s'⟩
  · simp [hrun, Except.toOption] at h
  · simp [hrun, Except.toOption] at h
  · exact ⟨a, s', rfl, by rwa [hrun] at hQ⟩

/-- A part that goes on does what it comes to. -/
theorem GoesOn.of_yields {I J : Session → Prop} {result : Except Trouble (Except ExitCode α)}
    {lines : List Text} (h : GoesOn part s a s') (hpart : Yields I J part.run result lines)
    (hs : I s) : s'.printed = s.printed ++ lines ∧ J s' := by
  obtain ⟨-, hlines, hleft⟩ := hpart s hs
  rw [h] at hlines hleft
  exact ⟨hlines, hleft⟩

end Part

/-! ### Steps of the beginning -/

/-- A configuration is the one that is read from a path, if there is a path. -/
def Reads (w : World) (tree : Tree) (path : Option Text) (config : Option Config.Configuration) :
    Prop :=
  match path with
  | none => config = none
  | some t => ∃ c, Config.load w.configs tree (Path.ofText t) = .ok c ∧ config = some c

theorem goesOn_readConfiguration_iff {path : Option Text} {config : Option Config.Configuration} :
    GoesOn (readConfiguration w command path) s config s' ↔
      Reads w s.tree path config ∧ s' = s := by
  cases path with
  | none =>
    constructor
    · intro h
      obtain ⟨hnone, hsame⟩ := goesOn_pure.1 h
      exact ⟨hnone.symm, hsame.symm⟩
    · rintro ⟨hnone, rfl⟩
      exact goesOn_pure.2 ⟨hnone.symm, rfl⟩
  | some t =>
    unfold readConfiguration Reads
    dsimp only
    rw [goesOn_get_bind]
    cases hload : Config.load w.configs s.tree (Path.ofText t) with
    | ok c =>
      rw [goesOn_pure]
      constructor
      · rintro ⟨rfl, rfl⟩
        exact ⟨⟨c, rfl, rfl⟩, rfl⟩
      · rintro ⟨⟨c', hc, rfl⟩, rfl⟩
        cases hc
        exact ⟨rfl, rfl⟩
    | error e =>
      have hnote {work : Work Unit} :
          ¬ GoesOn (liftM work >>= fun _ => (throw .configError : Part _)) s config s' := by
        rw [goesOn_bind]
        rintro ⟨_, _, _, h⟩
        exact not_goesOn_throw _ h
      refine iff_of_false ?_ (by rintro ⟨⟨c, hc, -⟩, -⟩; cases hc)
      cases e with
      | system f => exact not_goesOn_trouble _
      | encoding m => exact not_goesOn_trouble _
      | unreadable what => exact not_goesOn_trouble _
      | unwritable => exact not_goesOn_trouble _
      | _ => exact hnote

/-- Starting up keeps the registry tidy, and the logger of the program is there then. -/
theorem tidy_startup {surroundings : Surroundings} {global : Option Config.GlobalOptions}
    {asked : Option Text} {reg : Registry} (htidy : Tidy innerNames Startup.loggerName reg)
    {tree : Tree} {level : Text} {after : Registry × Tree}
    (h : (Startup.run surroundings global asked).run.run (reg, tree) = (.ok level, after)) :
    Tidy innerNames Startup.loggerName after.1 ∧ Keeps reg after.1 ∧
      (after.1.find? Startup.loggerName).isSome := by
  unfold Startup.run at h
  by_cases hrecent : Interpreter.isRecent surroundings.version = true
  case neg =>
    simp only [hrecent] at h
    cases h
  simp only [hrecent, Bool.not_true, Bool.false_eq_true, if_false] at h
  generalize Log.Level.choose asked (global.map (·.level)) = chosen at h
  generalize (global.bind (·.logFile)).map Path.ofText = file at h
  rw [run_get_bind] at h
  dsimp only at h
  cases hset : reg.setLevels Startup.programName chosen with
  | error e =>
    rw [hset] at h
    cases h
  | ok reg' =>
    obtain ⟨htidy', hkeeps⟩ := htidy.setLevels isClosed_innerNames hset
    rw [hset] at h
    dsimp only at h
    rw [run_modify_bind, ExceptT.run_bind, StateT.run_bind, ExceptT.run_adapt, StateT.run_map] at h
    rcases hsetUp : (Registry.setUp Startup.loggerName chosen file).run.run (reg', tree) with
      ⟨result, after'⟩
    rw [hsetUp] at h
    cases result with
    | error e => cases h
    | ok _ =>
      obtain ⟨htidy'', hkeeps', hthere⟩ :=
        Log.Registry.tidy_of_setUp isLeaf_loggerName htidy' (.inr rfl) hsetUp
      cases h
      exact ⟨htidy'', hkeeps.trans hkeeps', hthere⟩

/-- A program that starts up and goes on has its loggers in order. -/
theorem settled_startUp {config : Option Config.Configuration}
    (hs : Settled names versions (fun _ => True) s)
    (h : GoesOn (startUp w common command config) s () s') :
    s'.printed = s.printed ∧ Settled names versions (fun _ => True) s' := by
  unfold startUp at h
  obtain ⟨result, t, hstart, h⟩ := goesOn_bind.1 h
  replace hstart : (Work.onLoggers (Startup.run w.surroundings (config.map (·.global))
      (common.level.map (·.name))).run).run.run s = (.ok result, t) := goesOn_lift.1 hstart
  rw [run_onLoggers] at hstart
  rcases hrun : (Startup.run w.surroundings (config.map (·.global))
    (common.level.map (·.name))).run.run (s.registry, s.tree) with ⟨outcome, after⟩
  rw [hrun] at hstart
  cases hstart
  cases outcome with
  | error e =>
    cases e with
    | logging e => exact absurd h (not_goesOn_trouble _)
    | tooOld version =>
      obtain ⟨_, _, _, h⟩ := goesOn_bind.1 h
      exact absurd h (not_goesOn_throw _)
  | ok level =>
    obtain ⟨htidy, hkeeps, hthere⟩ := tidy_startup hs.tidy hrun
    replace h := goesOn_lift.1 h
    obtain ⟨told, htell⟩ := run_tell w (Startup.record w.surroundings level)
      { s with registry := after.1, tree := after.2 }
    rw [htell] at h
    cases h
    refine ⟨rfl, ?_, ?_, hs.versions, trivial⟩
    · dsimp only
      rw [Log.Registry.registry_tell w.time hthere]
      exact htidy
    · dsimp only
      rw [Log.Registry.registry_tell w.time hthere]
      exact fun name hname => hkeeps name (hs.there name hname)

/-- **The beginning of a command** that goes on prints nothing and leaves a settled session. -/
theorem settled_prepare {tree : Tree} {config : Option Config.Configuration}
    (hquiet : commandLogger command ∈ quietLoggers)
    (h : GoesOn (prepare w common command) { tree } config s) :
    s.printed = [] ∧ Settled [commandLogger command] [] (fun _ => True) s := by
  unfold prepare at h
  obtain ⟨_, s₁, hlogger, hrest⟩ := goesOn_bind.1 h
  obtain ⟨hprinted, hs⟩ :=
    hlogger.of_yields (yields_setUpLogger hquiet (common.level.getD .info)).lift (settled_first tree)
  obtain ⟨config', s₂, hconfig, hrest'⟩ := goesOn_bind.1 hrest
  rw [(goesOn_readConfiguration_iff.1 hconfig).2] at hrest'
  obtain ⟨_, s₃, hstart, h⟩ := goesOn_bind.1 hrest'
  obtain ⟨hprinted', hs'⟩ := settled_startUp hs hstart
  have hlines : s₃.printed = [] := by rw [hprinted', hprinted]; rfl
  split at h
  · obtain ⟨_, s₄, hnote, h⟩ := goesOn_bind.1 h
    obtain ⟨hprinted'', hs''⟩ := hnote.of_yields (yields_note w (.head _) hquiet _ _ _).lift hs'
    obtain ⟨-, rfl⟩ := goesOn_pure.1 h
    exact ⟨by rw [hprinted'', hlines]; rfl, hs''⟩
  · obtain ⟨-, rfl⟩ := goesOn_pure.1 h
    exact ⟨hlines, hs'⟩

/-- Options that are in order change nothing in the session. -/
theorem session_of_benchOptions {options : RunOptions} {config : Option Config.Configuration}
    {bench : Config.BenchOptions} (h : GoesOn (benchOptions w options config) s bench s') :
    s' = s := by
  unfold benchOptions at h
  dsimp only at h
  split at h
  · exact (goesOn_pure.1 h).2.symm
  · obtain ⟨_, _, _, h⟩ := goesOn_bind.1 h
    exact absurd h (not_goesOn_throw _)

end SnippetBench.Cli
