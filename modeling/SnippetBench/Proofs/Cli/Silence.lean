import SnippetBench.Proofs.Cli.LogFile

/-!
# Work that neither prints nor starts anything

Work is silent if it prints no line and starts no script, whatever session it is done in and however
it ends. Setting loggers up, telling records, and asking for versions is silent, and so are the steps
of a benchmark run up to the point at which its options and its runtimes are settled. If it does not
get there, it has printed and started nothing when it ends (`silent_run_unsettled`).
-/

namespace SnippetBench.Cli

open Files (Tree)
open Log (Level Record Registry)

variable {w : World} {s t : Session}

/-- Two sessions with the same printed lines and started scripts. -/
structure SameSound (s t : Session) : Prop where
  printed : t.printed = s.printed
  started : t.started = s.started

theorem SameSound.refl : SameSound s s := ⟨rfl, rfl⟩

theorem SameSound.trans {u : Session} (h : SameSound s t) (h' : SameSound t u) : SameSound s u :=
  ⟨h'.printed.trans h.printed, h'.started.trans h.started⟩

/-- Work that neither prints nor starts anything. -/
def Silent {α : Type} (work : Work α) : Prop := ∀ s, SameSound s (work.run.run s).2

namespace Silent

variable {α β : Type} {work : Work α} {f : α → Work β}

theorem pure (a : α) : Silent (pure a : Work α) := fun _ => .refl

theorem throw (e : Trouble) : Silent (throw e : Work α) := fun _ => .refl

theorem bind (h : Silent work) (h' : ∀ a, Silent (f a)) : Silent (work >>= f) := by
  intro s
  have hfirst := h s
  rcases hrun : work.run.run s with ⟨result, t⟩
  rw [hrun] at hfirst
  cases result with
  | error e =>
    rw [run_bind_error hrun]
    exact hfirst
  | ok a =>
    rw [run_bind_ok hrun]
    exact hfirst.trans (h' a t)

theorem get_bind {f : Session → Work α} (h : ∀ s, SameSound s ((f s).run.run s).2) :
    Silent (get >>= f) :=
  fun s => h s

theorem forIn_list {γ : Type} {step : γ → Work (ForInStep PUnit)} (xs : List γ)
    (h : ∀ x, Silent (step x)) :
    Silent (forIn xs PUnit.unit fun x _ => step x) := by
  induction xs with
  | nil => exact pure _
  | cons x xs ih =>
    rw [List.forIn_cons]
    refine bind (h x) fun next => ?_
    cases next with
    | done => exact pure _
    | yield => exact ih

/-! ### Parts of commands -/

theorem part_bind {part : Part α} {f : α → Part β} (h : Silent part.run)
    (h' : ∀ a, Silent (f a).run) : Silent (part >>= f).run := by
  rw [ExceptT.run_bind]
  refine bind h fun result => ?_
  cases result with
  | ok a => exact h' a
  | error code => exact pure _

theorem lift (h : Silent work) : Silent (liftM work : Part α).run :=
  bind h fun _ => pure _

/-- A part that looks at the session first. -/
theorem part_get {f : Session → Part α} (h : ∀ s, SameSound s ((f s).run.run.run s).2) :
    Silent (get >>= f).run :=
  fun s => h s

theorem part_get_bind {f : Session → Part α} (h : ∀ s, Silent (f s).run) :
    Silent (get >>= f).run :=
  part_get fun s => h s s

/-- A part that goes to another session first. -/
theorem part_set_bind {f : PUnit → Part α} (h : Silent (f ⟨⟩).run) (hst : SameSound s t) :
    SameSound s ((set t >>= f).run.run.run s).2 :=
  hst.trans (h t)

theorem finish {part : Part ExitCode} (h : Silent part.run) : Silent part.finish := by
  refine bind h fun result => ?_
  cases result with
  | ok code => exact pure _
  | error code => exact pure _

end Silent

theorem GoesOn.sameSound {α : Type} {part : Part α} {a : α} (h : GoesOn part s a t)
    (hpart : Silent part.run) : SameSound s t := by
  have hsame := hpart s
  rwa [h] at hsame

/-! ### Records and loggers -/

theorem silent_onLoggers {α : Type} (act : StateM (Registry × Tree) α) :
    Silent (Work.onLoggers act) := by
  intro s
  rw [run_onLoggers]
  exact ⟨rfl, rfl⟩

theorem silent_tell (w : World) (r : Record) : Silent (Work.tell w r) := by
  intro s
  obtain ⟨told, hrun⟩ := run_tell w r s
  rw [hrun]
  exact ⟨rfl, rfl⟩

theorem silent_note (w : World) (logger : Text) (level : Level) (message : Text)
    (details : List (Text × Data)) : Silent (Work.note w logger level message details) :=
  silent_tell w _

theorem silent_part_note (w : World) (logger : Text) (level : Level) (message : Text)
    (details : List (Text × Data)) :
    Silent (liftM (Work.note w logger level message details) : Part Unit).run :=
  (silent_note w logger level message details).lift

theorem silent_setUpLogger (name level : Text) : Silent (Work.setUpLogger name level) := by
  refine Silent.bind (silent_onLoggers _) fun result => ?_
  cases result with
  | ok => exact Silent.pure _
  | error e => exact Silent.throw _

theorem silent_needLoggers (names : List Text) : Silent (Work.needLoggers names) := by
  refine Silent.bind (Silent.forIn_list _ fun name => Silent.get_bind fun s => ?_)
    fun _ => Silent.pure _
  split
  · exact (silent_setUpLogger _ _).bind (fun _ => Silent.pure _) s
  · exact .refl

/-! ### The beginning -/

theorem silent_readConfiguration (w : World) (command : Text) (path : Option Text) :
    Silent (readConfiguration w command path).run := by
  cases path with
  | none => exact Silent.pure _
  | some t =>
    refine Silent.part_get_bind fun s => ?_
    split
    case h_1 => exact Silent.pure _
    case h_6 => exact Silent.part_bind (silent_part_note w _ _ _ _) fun _ => Silent.pure _
    all_goals exact (Silent.throw _).lift

theorem silent_startUp (w : World) (common : CommonOptions) (command : Text)
    (config : Option Config.Configuration) : Silent (startUp w common command config).run := by
  refine Silent.part_bind (silent_onLoggers _).lift fun result => ?_
  split
  · exact (silent_tell w _).lift
  · exact (Silent.throw _).lift
  · exact Silent.part_bind (silent_part_note w _ _ _ _) fun _ => Silent.pure _

/-- **The beginning of a command** is silent. -/
theorem silent_prepare (w : World) (common : CommonOptions) (command : Text) :
    Silent (prepare w common command).run := by
  refine Silent.part_bind (silent_setUpLogger _ _).lift fun _ => ?_
  refine Silent.part_bind (silent_readConfiguration _ _ _) fun config => ?_
  refine Silent.part_bind (silent_startUp _ _ _ _) fun _ => ?_
  split
  · exact Silent.part_bind (silent_part_note w _ _ _ _) fun _ => Silent.pure _
  · exact Silent.pure _

/-! ### Options and runtimes -/

theorem silent_benchOptions (w : World) (options : RunOptions)
    (config : Option Config.Configuration) : Silent (benchOptions w options config).run := by
  unfold benchOptions
  dsimp only
  split
  · exact Silent.pure _
  · exact Silent.part_bind (silent_part_note w _ _ _ _) fun _ => Silent.pure _

theorem silent_version (w : World) (name : Text) : Silent (Work.version w name) := by
  intro s
  rw [run_version]
  exact ⟨rfl, rfl⟩

theorem silent_checkRuntimes (w : World) (names : List Text) :
    Silent (checkRuntimes w names).run := by
  induction names with
  | nil => exact Silent.pure _
  | cons name names ih =>
    refine Silent.part_bind (silent_version w name).lift fun result => ?_
    cases result with
    | ok v => exact ih
    | error e =>
      dsimp only
      split
      · exact Silent.part_bind (silent_part_note w _ _ _ _) fun _ => Silent.pure _
      · exact (Silent.throw _).lift

theorem silent_firstRuntime (w : World) (names : List Text) :
    Silent (firstRuntime w names).run := by
  unfold firstRuntime
  refine Silent.part_get fun s => ?_
  rcases (Interpreter.firstAvailable (w.host.among s.tree) names).run s.versions with
    ⟨result, versions⟩
  refine Silent.part_set_bind ?_ ⟨rfl, rfl⟩
  cases result with
  | error e => exact (Silent.throw _).lift
  | ok selection =>
    refine Silent.part_bind ?_ fun _ => ?_
    · induction selection.skipped with
      | nil => exact Silent.pure _
      | cons name skipped ih =>
        rw [List.forIn_cons, bind_assoc]
        exact Silent.part_bind (silent_part_note w _ _ _ _) fun _ => ih
    · cases selection.chosen with
      | some name => exact Silent.pure _
      | none => exact Silent.part_bind (silent_part_note w _ _ _ _) fun _ => Silent.pure _

theorem silent_selectRuntimes (w : World) (named configured : List Text) :
    Silent (selectRuntimes w named configured).run := by
  refine Silent.part_bind (silent_needLoggers _).lift fun _ => ?_
  split
  · exact Silent.part_bind (silent_firstRuntime w configured) fun _ => Silent.pure _
  · exact Silent.part_bind (silent_checkRuntimes w named) fun _ => Silent.pure _

/-! ### Benchmark runs -/

variable {common : CommonOptions} {options : RunOptions} {tree : Tree}

/-- Work whose trouble is told is silent where the work is. -/
theorem sameSound_guarded {work : Work ExitCode} (h : SameSound s (work.run.run s).2) :
    SameSound s ((guarded w work).run.run s).2 := by
  unfold guarded
  rw [ExceptT.run_tryCatch, StateT.run_bind]
  rcases hwork : work.run.run s with ⟨result, t⟩
  rw [hwork] at h
  cases result with
  | ok code => exact h
  | error e =>
    have htold : Silent (do
        Work.tell w
          { level := .error, logger := runLogger, message := "Benchmark run failed"
            details := [("error", .text e.message)], exception := some e.message }
        return ExitCode.runtimeError) := (silent_tell w _).bind fun _ => Silent.pure _
    exact h.trans (htold t)

/-- **A benchmark run that is not settled** has printed and started nothing when it ends. -/
theorem silent_run_unsettled
    (h : ∀ settled s, ¬ GoesOn (settle w common options) { tree } settled s) :
    SameSound { tree } ((run w common options).run.run { tree }).2 := by
  by_cases hprepare : ∃ config s, GoesOn (prepare w common "run") { tree } config s
  case neg =>
    rw [session_run_of_not_begun fun config s hgoes => hprepare ⟨config, s, hgoes⟩]
    exact silent_prepare w common "run" _
  obtain ⟨config, s₁, hprepare⟩ := hprepare
  have hbegun := hprepare.sameSound (silent_prepare w common "run")
  unfold run
  rw [hprepare.run_finish]
  by_cases hbench : ∃ bench s, GoesOn (benchOptions w options config) s₁ bench s
  case neg =>
    rw [session_finish, session_bind_of_not_goesOn fun bench s hgoes => hbench ⟨bench, s, hgoes⟩]
    exact hbegun.trans (silent_benchOptions w options config s₁)
  obtain ⟨bench, s₂, hbench⟩ := hbench
  have hoptions := hbegun.trans (hbench.sameSound (silent_benchOptions w options config))
  have hselect : ∀ runtimes s,
      ¬ GoesOn (selectRuntimes w options.runtimes bench.runtimes) s₂ runtimes s :=
    fun runtimes s hgoes => h (bench, runtimes) s (goesOn_bind.2 ⟨_, _, hprepare,
      goesOn_bind.2 ⟨_, _, hbench, goesOn_bind.2 ⟨_, _, hgoes, goesOn_pure.2 ⟨rfl, rfl⟩⟩⟩⟩)
  rw [hbench.run_finish, run_finish_liftM]
  refine hoptions.trans (sameSound_guarded ?_)
  unfold benchmarkAll
  rw [session_finish, session_bind_of_not_goesOn hselect]
  exact silent_selectRuntimes w _ _ s₂

end SnippetBench.Cli
