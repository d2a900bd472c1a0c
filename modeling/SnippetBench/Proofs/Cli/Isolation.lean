import SnippetBench.Proofs.Cli.DocumentWork
import SnippetBench.Proofs.Cli.Selection
import SnippetBench.Proofs.Except

/-!
# Documents on one command line

A benchmark run, and a listing of code, work on each document of the command line as they do when it
stands there alone, as long as no script is put where a document further behind stands. The first
document that meets an obstacle is the last that is worked on (`isSequence_documents`): bytes that
are no text and, in a benchmark run, a script that cannot be built or put in place. All other
mistakes in documents end in an exit code, and the documents behind follow.
-/

namespace SnippetBench.Cli

open Files (Action Location Path Tree)
open Files.Tree (SameBut)

variable {w : World} {common : CommonOptions} {s s' : Session} {tree : Tree}

/-! ### Running a part that goes on -/

theorem run_bind_congr {α β : Type} {work work' : Work α} (f : α → Work β)
    (h : work.run.run s = work'.run.run s') :
    (work >>= f).run.run s = (work' >>= f).run.run s' := by
  rw [ExceptT.run_bind, ExceptT.run_bind, StateT.run_bind, StateT.run_bind, h]

theorem GoesOn.run_finish {α : Type} {part : Part α} {f : α → Part ExitCode} {a : α}
    (h : GoesOn part s a s') : (part >>= f).finish.run.run s = (f a).finish.run.run s' :=
  run_bind_congr _ h.run_bind

theorem run_finish_liftM (work : Work ExitCode) (s : Session) :
    (liftM work : Part ExitCode).finish.run.run s = work.run.run s := by
  have hrun : (liftM work : Part ExitCode).finish = work >>= fun code => return code := by
    unfold Part.finish
    exact bind_map_left Except.ok work _
  rw [hrun, bind_pure]

/-- Work whose trouble is told runs as work that starts elsewhere and runs the same. -/
theorem run_guarded_congr {work work' : Work ExitCode}
    (h : work.run.run s = work'.run.run s') :
    (guarded w work).run.run s = (guarded w work').run.run s' := by
  unfold guarded
  rw [ExceptT.run_tryCatch, ExceptT.run_tryCatch, StateT.run_bind, StateT.run_bind, h]

/-- Trouble that is told ends in an exit code. -/
theorem yields_guarded {I : Session → Prop} {names : List Text} {versions : Interpreter.Versions}
    {J : Tree → Prop} {work : Work ExitCode} {obstacle : Option Trouble} {code : ExitCode}
    {lines : List Text} (hrun : runLogger ∈ names)
    (h : Yields I (Settled names versions J) work (ending obstacle code) lines) :
    Yields I (Settled names versions J) (guarded w work)
      (obstacle.elim (.ok code) fun _ => .ok .runtimeError) lines := by
  intro s hs
  obtain ⟨hresult, hlines, hleft⟩ := h s hs
  unfold guarded
  rw [ExceptT.run_tryCatch, StateT.run_bind]
  rcases hwork : work.run.run s with ⟨result, s'⟩
  rw [hwork] at hresult hlines hleft
  cases hresult
  cases obstacle with
  | none => exact ⟨rfl, hlines, hleft⟩
  | some t =>
    have hquiet : runLogger ∈ quietLoggers := by decide +kernel
    have htell : Yields (Settled names versions J) (Settled names versions J)
        (do
          Work.tell w
            { level := .error, logger := runLogger, message := "Benchmark run failed"
              details := [("error", .text t.message)], exception := some t.message }
          return ExitCode.runtimeError) (.ok .runtimeError) [] :=
      (yields_tell w hrun hquiet).bind_pure rfl
    obtain ⟨hresult', hlines', hleft'⟩ := htell s' hleft
    exact ⟨hresult', hlines'.trans (by rw [hlines, List.append_nil]), hleft'⟩

/-! ### Benchmark runs -/

/-- What a benchmark run does when it is settled. -/
def benchmarkSettled (w : World) (common : CommonOptions) (options : RunOptions)
    (bench : Config.BenchOptions) (runtimes : List Text) (paths : List Text) : Work ExitCode :=
  Part.finish do
    Work.note w runLogger .debug "Starting benchmark run"
      [("documents", .int paths.length), ("runtimes", .list (runtimes.map Data.text)),
        ("samples", .int bench.samples), ("iterations", .int bench.iterations),
        ("dry_run", .bool common.dryRun)]
    forPaths (benchmarkDocument w common options bench runtimes) paths

theorem yields_benchmarkSettled {names : List Text} {versions : Interpreter.Versions}
    {I J : Tree → Prop} (hrun : runLogger ∈ names) {options : RunOptions}
    {bench : Config.BenchOptions} {runtimes paths : List Text} {obstacle : Option Trouble}
    {code : ExitCode} {lines : List Text}
    (h : Yields (Settled names versions I) (Settled names versions J)
      (forPaths (benchmarkDocument w common options bench runtimes) paths)
      (ending obstacle code) lines) :
    Yields (Settled names versions I) (Settled names versions J)
      (guarded w (benchmarkSettled w common options bench runtimes paths))
      (obstacle.elim (.ok code) fun _ => .ok .runtimeError) lines := by
  have hquiet : runLogger ∈ quietLoggers := by decide +kernel
  refine yields_guarded hrun (Yields.finish_ending ?_)
  exact (yields_note w hrun hquiet _ _ _).lift.part_next h.lift_ending

theorem run_settled {options : RunOptions} {bench : Config.BenchOptions} {runtimes : List Text}
    (h : GoesOn (settle w common options) { tree } (bench, runtimes) s) (paths : List Text) :
    (run w common { options with paths }).run.run { tree } =
      (guarded w (benchmarkSettled w common options bench runtimes paths)).run.run s := by
  unfold settle at h
  obtain ⟨config, s₁, hprepare, h₁⟩ := goesOn_bind.1 h
  obtain ⟨bench', s₂, hbench, h₂⟩ := goesOn_bind.1 h₁
  obtain ⟨runtimes', s₃, hselect, h₃⟩ := goesOn_bind.1 h₂
  obtain ⟨hpair, rfl⟩ := goesOn_pure.1 h₃
  cases hpair
  unfold run
  rw [hprepare.run_finish]
  have hbench' : GoesOn (benchOptions w { options with paths } config) s₁ bench s₂ := hbench
  rw [hbench'.run_finish, run_finish_liftM]
  refine run_guarded_congr ?_
  unfold benchmarkAll
  exact hselect.run_finish

/-- The places of the scripts that are put beside documents. -/
def scriptPlaces (common : CommonOptions) (tree : Tree) (paths : List Text) (place : Location) :
    Prop :=
  ∃ path ∈ paths, ∃ script, writtenScript? common tree (Path.ofText path) = some script ∧
    tree.locate script = .ok place

/-- The script of a document is not put where another document stands. -/
def Spares (common : CommonOptions) (tree : Tree) (path other : Text) : Prop :=
  ∀ script ∈ writtenScript? common tree (Path.ofText path),
    ∀ place ∈ (tree.locate script).toOption, (tree.locate (Path.ofText other)).toOption ≠ some place

instance (common : CommonOptions) (tree : Tree) (path other : Text) :
    Decidable (Spares common tree path other) :=
  inferInstanceAs (Decidable (∀ script ∈ writtenScript? common tree (Path.ofText path),
    ∀ place ∈ (tree.locate script).toOption,
      (tree.locate (Path.ofText other)).toOption ≠ some place))

/-- A document at whose place no script of the documents before it is put. -/
theorem isApart_scriptPlaces {before : List Text} {path : Text}
    (h : ∀ other ∈ before, Spares common tree other path) :
    IsApart common (scriptPlaces common tree (before ++ [path])) tree (Path.ofText path) := by
  refine ⟨?_, fun script place hscript hplace => ⟨path, by simp, script, hscript, hplace⟩, ?_⟩
  · rintro place hlocate ⟨other, hother, script, hscript, hplace⟩
    rcases List.mem_append.1 hother with hother | hself
    · exact h other hother script hscript place (toOption_eq_some_iff.2 hplace)
        (toOption_eq_some_iff.2 hlocate)
    · obtain rfl := List.mem_singleton.1 hself
      exact (Path.exists_place_of_script? (script?_of_writtenScript? hscript) hplace).2 hlocate
  · rintro dir n ⟨other, -, script, hscript, hplace⟩
    obtain ⟨⟨dir', name, heq⟩, -⟩ :=
      Path.exists_place_of_script? (script?_of_writtenScript? hscript) hplace
    obtain ⟨-, hname⟩ := List.append_inj' heq rfl
    exact Path.scriptName_ne_temporaryName name n (List.singleton_inj.1 hname).symm

theorem scriptPlaces_append {before : List Text} {place : Location} (after : List Text)
    (h : scriptPlaces common tree before place) :
    scriptPlaces common tree (before ++ after) place :=
  have ⟨path, hpath, hscript⟩ := h
  ⟨path, List.mem_append_left after hpath, hscript⟩

/-- A benchmark run that is settled works on its documents as on each of them alone. -/
theorem isSequence_run {options : RunOptions} {bench : Config.BenchOptions}
    {runtimes : List Text} (h : GoesOn (settle w common options) { tree } (bench, runtimes) s)
    (hspared : options.paths.Pairwise (Spares common s.tree)) :
    IsSequence (fun paths => (run w common { options with paths }).run.run { tree })
      (fun path => obstacleOf common bench s.tree (Path.ofText path))
      (fun _ => .ok .runtimeError) options.paths := by
  obtain ⟨hprinted, hsettled, hknown⟩ := settled_settle h
  -- behind some documents, the tree may differ where their scripts were put
  let P := scriptPlaces common s.tree
  let I (before : List Text) :=
    Settled [hostLogger, runLogger] s.versions (SameBut (P before) s.tree)
  have hstep : ∀ before path after, before ++ path :: after = options.paths → ∃ code lines,
      Yields (I before) (I (before ++ [path]))
        (benchmarkDocument w common options bench runtimes path)
        (ending (obstacleOf common bench s.tree (Path.ofText path)) code) lines := by
    intro before path after hsplit
    rw [← hsplit] at hspared
    have hbefore : ∀ other ∈ before, Spares common s.tree other path := fun other hother =>
      (List.pairwise_append.1 hspared).2.2 other hother path (.head after)
    obtain ⟨code, lines, hyields⟩ := exists_yields_benchmarkDocument w common options bench
      (.tail hostLogger (.head [])) (.head _) hknown (isApart_scriptPlaces hbefore)
    exact ⟨code, lines, hyields.mono (fun _ hs => hs.mono (fun _ hname => hname) fun _ htree =>
      htree.mono fun _ hplace => scriptPlaces_append [path] hplace) fun _ hs => hs⟩
  have hs : I [] s := ⟨hsettled.tidy, hsettled.there, rfl, SameBut.refl⟩
  refine isSequence_of_yields (K := Settled [hostLogger, runLogger] s.versions fun _ => True)
    (fun before _ hs => hs.mono (fun _ hname => hname) fun _ htree =>
      htree.mono fun _ hplace => scriptPlaces_append before hplace)
    (fun _ _ hs => hs.mono (fun _ hname => hname) fun _ _ => trivial) hs hprinted hstep ?_
    (run_settled h)
  exact fun _ _ _ _ hpaths => yields_benchmarkSettled (.tail _ (.head _)) hpaths

/-! ### Listings of code -/

theorem run_printCode {config : Option Config.Configuration}
    (h : GoesOn (prepare w common "code") { tree } config s) (paths : List Text) (markdown : Bool) :
    (printCode w common paths markdown).run.run { tree } =
      (forPaths (printDocument w (markdown || (config.map (·.bench.markdown)).getD false))
        paths).run.run s := by
  unfold printCode
  rw [h.run_finish]
  exact run_finish_liftM _ s

/-- A listing of code goes through its documents as through each of them alone. -/
theorem isSequence_printCode {config : Option Config.Configuration}
    (h : GoesOn (prepare w common "code") { tree } config s) (paths : List Text)
    (markdown : Bool) :
    IsSequence (fun paths => (printCode w common paths markdown).run.run { tree })
      (fun path => readingObstacle s.tree (Path.ofText path)) .error paths := by
  obtain ⟨hprinted, hsettled⟩ := settled_prepare (by decide +kernel) h
  let I := Settled [commandLogger "code"] [] (SameBut (fun _ => False) s.tree)
  have hs : I s := ⟨hsettled.tidy, hsettled.there, hsettled.versions, SameBut.refl⟩
  have hstep (before : List Text) (path : Text) (after : List Text)
      (_ : before ++ path :: after = paths) : ∃ code lines, Yields I I
      (printDocument w (markdown || (config.map (·.bench.markdown)).getD false) path)
      (ending (readingObstacle s.tree (Path.ofText path)) code) lines :=
    ⟨_, _, yields_printDocument w _ path (.head _) fun _ => id⟩
  refine isSequence_of_yields (I := fun _ => I) (fun _ _ hs => hs) (fun _ _ hs => hs) hs hprinted
    hstep (fun paths o code lines hpaths => ?_) fun paths => run_printCode h paths markdown
  cases o <;> exact hpaths

/-! ### Both commands -/

/-- **Documents on one command line** are worked on as each of them alone, up to the first one that
meets an obstacle. -/
theorem isSequence_documents (w : World) (common : CommonOptions) (tree : Tree) :
    (∀ options bench runtimes s, GoesOn (settle w common options) { tree } (bench, runtimes) s →
      options.paths.Pairwise (Spares common s.tree) →
        IsSequence (fun paths => (run w common { options with paths }).run.run { tree })
          (fun path => obstacleOf common bench s.tree (Path.ofText path))
          (fun _ => .ok .runtimeError) options.paths) ∧
    ∀ paths markdown config s, GoesOn (prepare w common "code") { tree } config s →
      IsSequence (fun paths => (printCode w common paths markdown).run.run { tree })
        (fun path => readingObstacle s.tree (Path.ofText path)) .error paths :=
  ⟨fun _ _ _ _ hsettled hspared => isSequence_run hsettled hspared,
    fun paths markdown _ _ hprepared => isSequence_printCode hprepared paths markdown⟩

/-- A world in which every runtime tells a version, and prints a line when it executes a script. -/
def talkingWorld : World :=
  { host := fun _ => .ok ⟨⟨[0x31, 0x2e, 0x32, 0x2e, 0x33], [], some 0⟩,
      fun _ => ⟨[0x6f, 0x6b, 0x0a], some 0⟩⟩
    surroundings := ⟨[3, 12], "3.12.0", "CPython", "Linux", "/usr/bin/python3"⟩
    time := "2026-01-01T00:00:00.000000+00:00" }

/-- Documents between which a file stands whose bytes are no text. -/
def mixedTree : Tree :=
  [(["work", "a.py"], []), (["work", "bad.py"], [0xff]), (["work", "b.py"], [0x78])].foldl
    (fun tree (place, bytes) => tree.put place (.file bytes)) Tree.empty

/-- Three documents, the second of which is an obstacle. -/
theorem isSequence_documents_mixed :
    (∃ bench runtimes s,
      GoesOn (settle talkingWorld {} { paths := ["a.py", "bad.py", "b.py"] }) { tree := mixedTree }
        (bench, runtimes) s ∧
      List.Pairwise (Spares {} s.tree) ["a.py", "bad.py", "b.py"] ∧
      IsSequence (fun paths => (run talkingWorld {} { paths }).run.run { tree := mixedTree })
        (fun path => obstacleOf {} bench s.tree (Path.ofText path)) (fun _ => .ok .runtimeError)
        ["a.py", "bad.py", "b.py"]) ∧
    ∃ config s,
      GoesOn (prepare talkingWorld {} "code") { tree := mixedTree } config s ∧
      IsSequence (fun paths => (printCode talkingWorld {} paths true).run.run { tree := mixedTree })
        (fun path => readingObstacle s.tree (Path.ofText path)) .error
        ["a.py", "bad.py", "b.py"] := by
  obtain ⟨hrun, hcode⟩ := isSequence_documents talkingWorld {} mixedTree
  constructor
  · obtain ⟨⟨bench, runtimes⟩, s, hsettled, hspared⟩ : ∃ settled s,
        GoesOn (settle talkingWorld {} { paths := ["a.py", "bad.py", "b.py"] })
          { tree := mixedTree } settled s ∧
        List.Pairwise (Spares {} s.tree) ["a.py", "bad.py", "b.py"] :=
      exists_goesOn (by decide +kernel) (by decide +kernel)
    have hsequence := hrun _ _ _ _ hsettled hspared
    exact ⟨bench, runtimes, s, hsettled, hspared, hsequence⟩
  · obtain ⟨config, s, hprepared, -⟩ : ∃ config s,
        GoesOn (prepare talkingWorld {} "code") { tree := mixedTree } config s ∧ True :=
      exists_goesOn (by decide +kernel) trivial
    exact ⟨config, s, hprepared, hcode _ true _ _ hprepared⟩

/-- A directory with two documents, one of which stands where the script of the other belongs. -/
def crossedTree : Tree :=
  (Tree.empty.put ["work", "a.py"] (.file [])).put ["work", "a.pybm.py"] (.file [])

/-- Documents keep those behind them from being printed: bytes that are no text end the run, and a
script takes the place of another document. -/
theorem printed_not_isolated :
    let printed (tree : Tree) (paths : List Text) :=
      (perform talkingWorld tree ("run" :: paths)).session.printed
    printed mixedTree ["bad.py", "a.py"] ≠
        printed mixedTree ["bad.py"] ++ printed mixedTree ["a.py"] ∧
      printed crossedTree ["a.py", "a.pybm.py"] ≠
        printed crossedTree ["a.py"] ++ printed crossedTree ["a.pybm.py"] := by
  decide +kernel

end SnippetBench.Cli
