import SnippetBench.Proofs.Cli.ListingAgreement
import SnippetBench.Proofs.Cli.Silence

/-!
# Dry runs

A dry run only looks. Once it has begun it goes by steps that touch no file, and with no script in
place none of them starts one (`steps_dryRun`); before that it opens its log file and writes to it,
and does nothing else with the files (`tree_dryRun`). So nothing is started, and whatever stood in
the tree stands there still, but for the log file and what had to be made on its way. What is printed
are the listings that are asked for, and the exit code is the worst of those of the documents
(`dryRun_only_looks`).
-/

namespace SnippetBench.Cli

open Document (Token)
open Files (Path Tree)
open Files.Tree (AlikeBut Grows)
open Log.Registry (opened)

variable {w : World} {common : CommonOptions} {options : RunOptions}
  {config : Option Config.Configuration} {tree : Tree} {s t : Session}

/-! ### Scripts -/

/-- A step starts a script only if one is in place. -/
theorem Step.started (h : Step w none s t) : t.started = s.started := by
  cases h with
  | print => rfl
  | tell => exact (silent_tell w _ s).started
  | need => exact (silent_setUpLogger _ _ s).started
  | ask => rfl
  | start hscript => cases hscript

theorem Steps.started (h : Steps w none s t) : t.started = s.started := by
  induction h with
  | refl => rfl
  | tail _ hstep ih => exact hstep.started.trans ih

/-- **A dry run that has begun** puts no script in place. -/
theorem steps_dryRun (hdry : common.dryRun = true)
    (h : GoesOn (prepare w common "run") { tree } config s) :
    Steps w none s ((run w common options).run.run { tree }).2 := by
  refine follows_run (admits_step w none) h fun bench _ s t hstage => ?_
  have hnone (p : Path) : ¬ benchmarked common options p := by
    rintro ⟨hwet, -⟩
    simp [hdry] at hwet
  cases hstage with
  | step h => exact h
  | refused hp => exact absurd hp (hnone _)
  | lifetime hp => exact absurd hp (hnone _)

/-- A dry run starts nothing. -/
theorem started_dryRun (w : World) (options : RunOptions) (tree : Tree)
    (hdry : common.dryRun = true) :
    ((run w common options).run.run { tree }).2.started = [] := by
  by_cases hbegin : ∃ config s, GoesOn (prepare w common "run") { tree } config s
  · obtain ⟨config, s, hgoes⟩ := hbegin
    exact (steps_dryRun hdry hgoes).started.trans
      (hgoes.sameSound (silent_prepare w common "run")).started
  · rw [session_run_of_not_begun fun config s hgoes => hbegin ⟨config, s, hgoes⟩]
    exact (silent_prepare w common "run" { tree }).started

/-! ### Files -/

/-- The files when a dry run that has begun is over. -/
theorem tree_of_begun (hdry : common.dryRun = true)
    (h : GoesOn (prepare w common "run") { tree } config s) :
    ((run w common options).run.run { tree }).2.tree = s.tree := by
  obtain ⟨-, hs⟩ := settled_prepare (by decide +kernel) h
  exact (Steps.settled (steps_dryRun hdry h) hs.orderly).2

/-- A dry run has done nothing with the files but to open its log file, and perhaps to add the
record of its start. -/
theorem tree_dryRun (w : World) (options : RunOptions) (tree : Tree)
    (hdry : common.dryRun = true) :
    let final := ((run w common options).run.run { tree }).2.tree
    final = tree ∨ ∃ config, Reads w tree common.config config ∧
      (final = (opened (logFileOf config) tree).2 ∨ final = begunTree w common config tree) := by
  intro final
  by_cases hbegin : ∃ config s, GoesOn (prepare w common "run") { tree } config s
  · obtain ⟨config, s, hgoes⟩ := hbegin
    obtain ⟨hcan, hbegun⟩ := begun_of_goesOn (.run options) hgoes
    exact .inr ⟨config, hcan.reads, .inr ((tree_of_begun hdry hgoes).trans hbegun.tree)⟩
  · have hnever : ∀ config s, ¬ GoesOn (prepare w common "run") { tree } config s :=
      fun config s hgoes => hbegin ⟨config, s, hgoes⟩
    have hfinal : final = ((prepare w common "run").run.run.run { tree }).2.tree :=
      congrArg Session.tree (session_run_of_not_begun hnever)
    rw [hfinal]
    exact (tree_prepare (.run options) hnever).imp_right
      fun ⟨config, hreads, hopened⟩ => ⟨config, hreads, .inl hopened⟩

/-- What stood in the tree stands there after a dry run, and only the log file is longer. What is
new is on the way of the log file. -/
theorem files_dryRun (w : World) (options : RunOptions) (tree : Tree)
    (hdry : common.dryRun = true) :
    let final := ((run w common options).run.run { tree }).2.tree
    Grows (fun place => ∃ config, Reads w tree common.config config ∧ IsLogFile config final place)
        tree final ∧
      AlikeBut (fun place => ∃ config, Reads w tree common.config config ∧
        OnLogWay (logFileOf config) final place) tree final := by
  intro final
  rcases tree_dryRun w options tree hdry with hsame | ⟨config, hreads, hopened | hbegun⟩
  · rw [show final = tree from hsame]
    exact ⟨.refl, .refl⟩
  · rw [show final = _ from hopened]
    exact ⟨grows_opened _ _,
      (alikeBut_opened (logFileOf config) tree).mono fun place hway => ⟨config, hreads, hway⟩⟩
  · rw [show final = _ from hbegun]
    exact ⟨(grows_begunTree w common config tree).mono fun place hplace => ⟨config, hreads, hplace⟩,
      (alikeBut_begunTree w common config tree).mono fun place hway => ⟨config, hreads, hway⟩⟩

/-! ### Exit codes -/

/-- The number that a document stands for when it is looked at: whether it can be read, and whether
it parses. -/
def lookCode (tree : Tree) (p : Path) : Nat :=
  match tree.textAt p with
  | .error _ => 1
  | .ok text =>
    match Token.ofText text with
    | .error _ => 4
    | .ok _ => 0

/-- Only bytes that are no text are an obstacle. -/
theorem readingObstacle_eq_none_iff {p : Path} :
    readingObstacle tree p = none ↔ ∀ m, tree.textAt p ≠ .error (.encoding m) := by
  unfold readingObstacle readingOf
  cases tree.textAt p with
  | error e => cases e <;> simp
  | ok text => cases hparse : Token.ofText text <;> simp [hparse]

theorem number_readingCode {p : Path} (h : readingObstacle tree p = none) :
    (readingCode tree p).number = lookCode tree p := by
  have htext := readingObstacle_eq_none_iff.1 h
  unfold readingCode readingOf lookCode
  cases hread : tree.textAt p with
  | error e =>
    cases e with
    | encoding m => exact absurd hread (htext m)
    | notFound q | notFile q | system f => rfl
  | ok text => cases hparse : Token.ofText text <;> simp [hparse, ExitCode.number]

/-! ### Settled runs -/

theorem Reads.unique {path : Option Text} {config' : Option Config.Configuration}
    (h : Reads w tree path config) (h' : Reads w tree path config') : config = config' := by
  cases path with
  | none => exact Eq.trans h (Eq.symm h')
  | some t =>
    obtain ⟨c, hc, rfl⟩ := h
    obtain ⟨c', hc', rfl⟩ := h'
    cases hc.symm.trans hc'
    rfl

variable {bench : Config.BenchOptions} {runtimes : List Text}

/-- When a dry run is settled, the files are those with which it ends. -/
theorem tree_of_settled (hdry : common.dryRun = true)
    (h : GoesOn (settle w common options) { tree } (bench, runtimes) s) :
    s.tree = ((run w common options).run.run { tree }).2.tree := by
  obtain ⟨config, hagreed⟩ := exists_agreed h
  unfold settle at h
  obtain ⟨config', s', hprepare, -⟩ := goesOn_bind.1 h
  obtain ⟨hcan, hbegun⟩ := begun_of_goesOn (.run options) hprepare
  obtain rfl := hagreed.can.reads.unique hcan.reads
  rw [tree_of_begun hdry hprepare, hagreed.tree, hbegun.tree]

/-- The exit code of a dry run in which every document is text, if it can be read at all. -/
theorem code_of_settled (hdry : common.dryRun = true)
    (hhome : s.tree.find? s.tree.home = some .directory)
    (h : GoesOn (settle w common options) { tree } (bench, runtimes) s)
    (hreads : ∀ path ∈ options.paths, readingObstacle s.tree (Path.ofText path) = none) :
    ((run w common options).run.run { tree }).1.map ExitCode.number =
      .ok ((options.paths.map fun path => lookCode s.tree (Path.ofText path)).foldr max 0) := by
  obtain ⟨config, hagreed⟩ := exists_agreed h
  have hnone : (options.paths.findSome? fun path =>
      readingObstacle s.tree (Path.ofText path)) = none := List.findSome?_eq_none_iff.2 hreads
  have hcodes : (options.paths.map fun path => (readingCode s.tree (Path.ofText path)).number) =
      options.paths.map fun path => lookCode s.tree (Path.ofText path) :=
    List.map_congr_left fun path hpath => number_readingCode (hreads path hpath)
  rw [(dryRun_settled hdry hagreed.usable hhome h).1, hnone, ← hcodes]
  simp [Except.map, number_worstOf, Function.comp_def]

/-- A document with a snippet, and a configuration with a log file. -/
def lookedAt : Tree :=
  snippetTree.put ["work", "cfg.yaml"] (.file (Text.Utf8.encode
    "global:\n  config_version: '1'\n  log_level: DEBUG\n  log_file: logs/run.log\n"))

end SnippetBench.Cli
