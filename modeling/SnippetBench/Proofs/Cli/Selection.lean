import SnippetBench.Proofs.Cli.Beginning
import SnippetBench.Proofs.Cli.Execution

/-!
# The runtimes of a benchmark run

When a benchmark run has found its runtimes, each of them has told its version and can be started,
and nothing was printed so far (`settled_settle`).
-/

namespace SnippetBench.Cli

open Files (Tree)

variable {w : World} {common : CommonOptions} {s s' : Session} {names : List Text}
  {versions : Interpreter.Versions}

/-! ### Runtimes -/

/-- A session that differs from a settled one in the versions that were found. -/
theorem Settled.withVersions {I : Tree → Prop} (h : Settled names versions I s)
    (versions' : Interpreter.Versions) :
    Settled names versions' I { s with versions := versions' } :=
  ⟨h.tidy, h.there, rfl, h.tree⟩

/-- Runtimes that have told their versions are known. -/
theorem areKnown_of_haveAnswered {runtimes : List Text}
    (h : Interpreter.HaveAnswered w.host versions)
    (hfound : ∀ runtime ∈ runtimes, ∃ v, versions.lookup runtime = some v) :
    AreKnown w versions runtimes := by
  intro runtime hruntime
  obtain ⟨v, hv⟩ := hfound runtime hruntime
  obtain ⟨program, hprogram⟩ := h runtime v hv
  exact ⟨v, program, hv, hprogram⟩

/-- A session whose versions are those of runtimes that can be started. -/
structure Ready (w : World) (names : List Text) (s : Session) : Prop where
  settled : Settled names s.versions (fun _ => True) s
  answered : Interpreter.HaveAnswered w.host s.versions

/-- A part that leaves settled sessions settled leaves the versions that were found. -/
theorem Ready.of_yields {names' : List Text} {α : Type} {part : Part α} {a : α}
    {result : Except Trouble (Except ExitCode α)} {lines : List Text} (hs : Ready w names s)
    (h : GoesOn part s a s')
    (hpart : Yields (Settled names s.versions fun _ => True)
      (Settled names' s.versions fun _ => True) part.run result lines) :
    s'.printed = s.printed ++ lines ∧ Ready w names' s' ∧ s'.versions = s.versions := by
  obtain ⟨hprinted, hs'⟩ := h.of_yields hpart hs.settled
  have hversions := hs'.versions
  exact ⟨hprinted, ⟨hversions ▸ hs', hversions ▸ hs.answered⟩, hversions⟩

theorem ready_version {runtime : Text} {result : Except Interpreter.ProbeError Text}
    (hs : Ready w names s)
    (h : (Work.version w runtime).run.run s = (.ok result, s')) :
    s'.printed = s.printed ∧ Ready w names s' ∧ Interpreter.Extends s.versions s'.versions ∧
      ∀ v, result = .ok v → s'.versions.lookup runtime = some v := by
  rw [run_version] at h
  rcases hrun : (Interpreter.version (w.host.among s.tree) runtime).run.run s.versions with
    ⟨result', after⟩
  rw [hrun] at h
  cases h
  obtain ⟨hanswered, hextends, hfound⟩ := Interpreter.haveAnswered_version hs.answered hrun
  exact ⟨rfl, ⟨hs.settled.withVersions after, hanswered⟩, hextends, hfound⟩

/-- Named runtimes that are all available have told their versions. -/
theorem ready_checkRuntimes {runtimes : List Text} (hs : Ready w names s)
    (h : GoesOn (checkRuntimes w runtimes) s () s') :
    s'.printed = s.printed ∧ Ready w names s' ∧ Interpreter.Extends s.versions s'.versions ∧
      ∀ runtime ∈ runtimes, ∃ v, s'.versions.lookup runtime = some v := by
  induction runtimes generalizing s with
  | nil =>
    obtain ⟨-, rfl⟩ := goesOn_pure.1 h
    exact ⟨rfl, hs, fun _ _ hv => hv, fun _ hruntime => absurd hruntime List.not_mem_nil⟩
  | cons runtime runtimes ih =>
    unfold checkRuntimes at h
    obtain ⟨result, t, hversion, hrest⟩ := goesOn_bind.1 h
    obtain ⟨hprinted, ht, hextends, hfound⟩ := ready_version hs (goesOn_lift.1 hversion)
    cases result with
    | ok v =>
      obtain ⟨hprinted', hs', hextends', hfound'⟩ := ih ht hrest
      refine ⟨hprinted'.trans hprinted, hs', hextends.trans hextends', fun r hr => ?_⟩
      rcases List.mem_cons.1 hr with rfl | hr
      · exact ⟨v, hextends' _ _ (hfound v rfl)⟩
      · exact hfound' r hr
    | error e =>
      dsimp only at hrest
      split at hrest
      · obtain ⟨_, _, _, hrest⟩ := goesOn_bind.1 hrest
        exact absurd hrest (not_goesOn_throw _)
      · exact absurd hrest (not_goesOn_trouble _)

theorem yields_skipped (hhost : hostLogger ∈ names) {I : Tree → Prop} (skipped : List Text) :
    Yields (Settled names versions I) (Settled names versions I)
      (forIn skipped PUnit.unit fun name _ => do
        Work.note w hostLogger .debug "Runtime not available" [("runtime", .text name)]
        return ForInStep.yield PUnit.unit : Part PUnit).run (.ok (.ok PUnit.unit)) [] := by
  induction skipped with
  | nil => exact Yields.pure _
  | cons name skipped ih =>
    have hquiet : hostLogger ∈ quietLoggers := by decide +kernel
    rw [List.forIn_cons, bind_assoc]
    exact (yields_note w hhost hquiet _ _ _).lift.part_next ih

/-- A runtime that is chosen from the configured ones has told its version. -/
theorem ready_firstRuntime (hhost : hostLogger ∈ names) {runtimes : List Text} {runtime : Text}
    (hs : Ready w names s) (h : GoesOn (firstRuntime w runtimes) s runtime s') :
    s'.printed = s.printed ∧ Ready w names s' ∧ ∃ v, s'.versions.lookup runtime = some v := by
  unfold firstRuntime at h
  rw [goesOn_get_bind] at h
  rcases hrun : (Interpreter.firstAvailable (w.host.among s.tree) runtimes).run s.versions with
    ⟨result, after⟩
  rw [hrun] at h
  obtain ⟨hanswered, hfound⟩ := Interpreter.haveAnswered_firstAvailable hs.answered hrun
  obtain ⟨_, t, hset, hrest⟩ := goesOn_bind.1 h
  cases hset
  have ht : Ready w names { s with versions := after } := ⟨hs.settled.withVersions after, hanswered⟩
  cases result with
  | error e => exact absurd hrest (not_goesOn_trouble _)
  | ok selection =>
    dsimp only at hrest
    obtain ⟨_, t', hskipped, hrest'⟩ := goesOn_bind.1 hrest
    obtain ⟨hprinted, ht', hversions⟩ := ht.of_yields hskipped (yields_skipped hhost _)
    cases hchosen : selection.chosen with
    | none =>
      rw [hchosen] at hrest'
      obtain ⟨_, _, _, hthrow⟩ := goesOn_bind.1 hrest'
      exact absurd hthrow (not_goesOn_throw _)
    | some chosen =>
      rw [hchosen] at hrest'
      obtain ⟨rfl, rfl⟩ := goesOn_pure.1 hrest'
      obtain ⟨v, hv⟩ := hfound selection chosen rfl hchosen
      exact ⟨by simpa using hprinted, ht', v, by rw [hversions]; exact hv⟩

/-- The runtimes that are selected are known, and nothing is printed for that. -/
theorem ready_selectRuntimes {named configured runtimes : List Text} (hs : Ready w names s)
    (h : GoesOn (selectRuntimes w named configured) s runtimes s') :
    s'.printed = s.printed ∧ Ready w (hostLogger :: names) s' ∧
      AreKnown w s'.versions runtimes := by
  unfold selectRuntimes at h
  obtain ⟨_, t, hlogger, hrest⟩ := goesOn_bind.1 h
  obtain ⟨hprinted, ht, -⟩ := hs.of_yields hlogger
    (yields_needLoggers (by decide +kernel : ∀ name ∈ [hostLogger], name ∈ quietLoggers)).lift
  rw [List.append_nil] at hprinted
  split at hrest
  · obtain ⟨runtime, t', hfirst, hrest'⟩ := goesOn_bind.1 hrest
    obtain ⟨hprinted', hs', hfound⟩ := ready_firstRuntime (.head _) ht hfirst
    obtain ⟨rfl, rfl⟩ := goesOn_pure.1 hrest'
    refine ⟨hprinted'.trans hprinted, hs', areKnown_of_haveAnswered hs'.answered fun r hr => ?_⟩
    cases List.mem_singleton.1 hr
    exact hfound
  · obtain ⟨_, t', hcheck, hrest'⟩ := goesOn_bind.1 hrest
    obtain ⟨hprinted', hs', -, hfound⟩ := ready_checkRuntimes ht hcheck
    obtain ⟨rfl, rfl⟩ := goesOn_pure.1 hrest'
    exact ⟨hprinted'.trans hprinted, hs', areKnown_of_haveAnswered hs'.answered hfound⟩

/-! ### Settling a benchmark run -/

/-- What a benchmark run settles before its documents: its options and its runtimes. -/
def settle (w : World) (common : CommonOptions) (options : RunOptions) :
    Part (Config.BenchOptions × List Text) := do
  let config ← prepare w common "run"
  let bench ← benchOptions w options config
  let runtimes ← selectRuntimes w options.runtimes bench.runtimes
  return (bench, runtimes)

/-- **A benchmark run that is settled** has printed nothing, its session is settled, and its
runtimes are known. -/
theorem settled_settle {options : RunOptions} {tree : Tree} {bench : Config.BenchOptions}
    {runtimes : List Text} (h : GoesOn (settle w common options) { tree } (bench, runtimes) s) :
    s.printed = [] ∧ Settled [hostLogger, runLogger] s.versions (fun _ => True) s ∧
      AreKnown w s.versions runtimes := by
  unfold settle at h
  obtain ⟨config, s₁, hprepare, hrest⟩ := goesOn_bind.1 h
  obtain ⟨hprinted, hs⟩ := settled_prepare (by decide +kernel) hprepare
  obtain ⟨bench', s₂, hbench, hrest'⟩ := goesOn_bind.1 hrest
  rw [session_of_benchOptions hbench] at hrest'
  obtain ⟨runtimes', s₃, hselect, hlast⟩ := goesOn_bind.1 hrest'
  have hready : Ready w [runLogger] s₁ :=
    ⟨hs.versions.symm ▸ hs, fun name v hv => by rw [hs.versions] at hv; cases hv⟩
  obtain ⟨hprinted', hs', hknown⟩ := ready_selectRuntimes hready hselect
  cases goesOn_pure.1 hlast with
  | intro hpair hsession =>
    cases hpair
    cases hsession
    exact ⟨hprinted'.trans hprinted, hs'.settled, hknown⟩

end SnippetBench.Cli
