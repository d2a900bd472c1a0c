import SnippetBench.Cli.Program
import SnippetBench.Proofs.Cli.Yields
import SnippetBench.Proofs.Interpreter.Probe
import SnippetBench.Proofs.Log.Tidy

/-!
# Settled sessions

Once a command has begun, its loggers are set up, the runtimes have told their versions, and the log
file, if there is one, is written no more: the records of the loggers that work on documents go to
the error stream alone. A session of that kind is settled (`Settled`). Telling records, setting more
of these loggers up and asking for a known version leave it settled and do not touch the files.
-/

namespace SnippetBench.Cli

open Files (Path Tree)
open Log (Level Record Registry)
open Log.Registry (IsLeaf Tidy)

/-! ### The loggers of the program -/

/-- The names that only stand above loggers. -/
def innerNames : List Text := ["pybm", "pybm.cli", "pybm.execution", "pybm.document"]

/-- The loggers that write no file. -/
def quietLoggers : List Text :=
  [commandLogger "run", commandLogger "code", commandLogger "info", hostLogger, scriptLogger] ++
    documentLoggers

theorem isClosed_innerNames : Log.Registry.IsClosed innerNames := by
  unfold Log.Registry.IsClosed
  decide

theorem isLeaf_loggerName : IsLeaf innerNames Startup.loggerName :=
  Log.Registry.isLeaf_iff.2 (by decide)

theorem isLeaf_of_mem_quietLoggers {name : Text} (h : name ∈ quietLoggers) :
    IsLeaf innerNames name ∧ name ≠ Startup.loggerName := by
  have hall : ∀ name ∈ quietLoggers, IsLeaf innerNames name ∧ name ≠ Startup.loggerName := by
    simp only [Log.Registry.isLeaf_iff]
    decide
  exact hall name h

/-- A session whose registry is tidy, with loggers that are there, with known versions and with a
tree of some kind. -/
structure Settled (names : List Text) (versions : Interpreter.Versions) (I : Tree → Prop)
    (s : Session) : Prop where
  tidy : Tidy innerNames Startup.loggerName s.registry
  there : ∀ name ∈ names, (s.registry.find? name).isSome
  versions : s.versions = versions
  tree : I s.tree

variable {names : List Text} {versions : Interpreter.Versions} {I J : Tree → Prop}

theorem Settled.mono {names' : List Text} {s : Session} (h : Settled names versions I s)
    (hnames : ∀ name ∈ names', name ∈ names) (hI : ∀ tree, I tree → J tree) :
    Settled names' versions J s :=
  ⟨h.tidy, fun name hname => h.there name (hnames name hname), h.versions, hI _ h.tree⟩

/-- A session in which nothing was done yet. -/
theorem settled_first (tree : Tree) : Settled [] [] (fun _ => True) { tree } :=
  ⟨Log.Registry.all_empty, fun _ hname => absurd hname List.not_mem_nil, rfl, trivial⟩

/-! ### Steps -/

theorem yields_print (line : Text) :
    Yields (Settled names versions I) (Settled names versions I) (Work.print line) (.ok ())
      [line] :=
  fun _ hs => ⟨rfl, rfl, hs.tidy, hs.there, hs.versions, hs.tree⟩

theorem run_onLoggers {α : Type} (act : StateM (Registry × Tree) α) (s : Session) :
    (Work.onLoggers act).run.run s =
      (.ok (act.run (s.registry, s.tree)).1,
        { s with
          registry := (act.run (s.registry, s.tree)).2.1
          tree := (act.run (s.registry, s.tree)).2.2 }) := rfl

theorem run_onTree {α : Type} (act : StateM Tree α) (s : Session) :
    (Work.onTree act).run.run s =
      (.ok (act.run s.tree).1, { s with tree := (act.run s.tree).2 }) := rfl

theorem yields_start (runtime : Text) (script : Path) :
    Yields (Settled names versions I) (Settled names versions I)
      (modify fun s => { s with started := s.started ++ [(runtime, script)] }) (.ok ()) [] :=
  fun _ hs => ⟨rfl, (List.append_nil _).symm, hs.tidy, hs.there, hs.versions, hs.tree⟩

/-- Telling a record changes the registry and the tree as the record does, and notes it. -/
theorem run_tell (w : World) (r : Record) (s : Session) :
    ∃ told, (Work.tell w r).run.run s = (.ok (),
      { s with
        registry := ((Log.tell w.time r).run.run (s.registry, s.tree)).2.1
        tree := ((Log.tell w.time r).run.run (s.registry, s.tree)).2.2
        told }) := by
  unfold Work.tell
  rw [ExceptT.run_bind, StateT.run_bind, run_onLoggers]
  rcases (Log.tell w.time r).run.run (s.registry, s.tree) with ⟨result, reg, tree⟩
  cases result with
  | ok targets => exact ⟨_, rfl⟩
  | error name => exact ⟨_, rfl⟩

/-- Telling a record of a logger that writes no file. -/
theorem yields_tell (w : World) {r : Record} (hname : r.logger ∈ names)
    (hquiet : r.logger ∈ quietLoggers) :
    Yields (Settled names versions I) (Settled names versions I) (Work.tell w r) (.ok ()) [] := by
  intro s hs
  obtain ⟨hleaf, hown⟩ := isLeaf_of_mem_quietLoggers hquiet
  obtain ⟨told, hrun⟩ := run_tell w r s
  have htell : ((Log.tell w.time r).run.run (s.registry, s.tree)).2 = (s.registry, s.tree) :=
    Log.Registry.tell_of_tidy w.time hs.tidy hleaf hown (hs.there _ hname) s.tree
  rw [htell] at hrun
  rw [hrun]
  exact ⟨rfl, (List.append_nil _).symm, hs.tidy, hs.there, hs.versions, hs.tree⟩

theorem yields_note (w : World) {name : Text} (hname : name ∈ names)
    (hquiet : name ∈ quietLoggers) (level : Level) (message : Text)
    (details : List (Text × Data)) :
    Yields (Settled names versions I) (Settled names versions I)
      (Work.note w name level message details) (.ok ()) [] :=
  yields_tell w hname hquiet

theorem read?_name (level : Level) : Level.read? level.name = some level := by
  cases level <;> decide +kernel

/-- Setting a leaf up changes nothing but the registry. -/
theorem run_setUpLogger {name : Text} (hleaf : IsLeaf innerNames name) (level : Level) {s : Session}
    (htidy : Tidy innerNames Startup.loggerName s.registry) :
    (Work.setUpLogger name level.name).run.run s =
      (.ok (), { s with
        registry := ((Registry.setUp name level.name none).run.run (s.registry, s.tree)).2.1 }) := by
  obtain ⟨-, -, -, hplain⟩ :=
    Log.Registry.tidy_setUp hleaf htidy (.inl rfl) s.tree level (read?_name level)
  obtain ⟨hresult, htree⟩ := hplain rfl
  have hrun := run_onLoggers (Registry.setUp name level.name none).run s
  generalize (Registry.setUp name level.name none).run.run (s.registry, s.tree) = out
    at hresult htree hrun ⊢
  obtain ⟨result, reg, tree⟩ := out
  obtain ⟨rfl, rfl⟩ : result = .ok () ∧ tree = s.tree := ⟨hresult, htree⟩
  unfold Work.setUpLogger
  rw [ExceptT.run_bind, StateT.run_bind, hrun]
  rfl

/-- Setting up loggers that write no file. -/
theorem yields_setUpLogger {name : Text} (hquiet : name ∈ quietLoggers) (level : Level) :
    Yields (Settled names versions I) (Settled (name :: names) versions I)
      (Work.setUpLogger name level.name) (.ok ()) [] := by
  intro s hs
  obtain ⟨hleaf, -⟩ := isLeaf_of_mem_quietLoggers hquiet
  obtain ⟨htidy, hkeeps, hthere, -⟩ :=
    Log.Registry.tidy_setUp hleaf hs.tidy (.inl rfl) s.tree level (read?_name level)
  rw [run_setUpLogger hleaf level hs.tidy]
  refine ⟨rfl, (List.append_nil _).symm, htidy, fun n hn => ?_, hs.versions, hs.tree⟩
  rcases List.mem_cons.1 hn with rfl | hn
  · exact hthere
  · exact hkeeps n (hs.there n hn)

theorem yields_needLoggers {needed : List Text} (hquiet : ∀ name ∈ needed, name ∈ quietLoggers) :
    Yields (Settled names versions I) (Settled (needed.reverse ++ names) versions I)
      (Work.needLoggers needed) (.ok ()) [] := by
  induction needed generalizing names with
  | nil => exact Yields.pure ()
  | cons name needed ih =>
    have hrest : Yields (Settled (name :: names) versions I)
        (Settled (needed.reverse ++ name :: names) versions I) (Work.needLoggers needed)
        (.ok ()) [] := ih fun n hn => hquiet n (.tail _ hn)
    unfold Work.needLoggers at hrest ⊢
    rw [List.forIn_cons, bind_assoc, List.reverse_cons, List.append_assoc, List.singleton_append]
    have hfirst : Yields (Settled names versions I) (Settled (name :: names) versions I)
        (do
          if ((← get).registry.find? name).isNone then Work.setUpLogger name Level.info.name
          return ForInStep.yield PUnit.unit) (.ok (.yield PUnit.unit)) [] := by
      refine Yields.get_bind fun s hs => ?_
      by_cases hnone : (s.registry.find? name).isNone = true
      · rw [if_pos hnone]
        exact Yields.at_session
          (Yields.bind_pure (yields_setUpLogger (hquiet name (.head _)) .info) rfl) hs
      · rw [if_neg hnone]
        have hthere : ∀ n ∈ name :: names, (s.registry.find? n).isSome := by
          intro n hn
          rcases List.mem_cons.1 hn with rfl | hn
          · simpa [Option.isSome_iff_ne_none, Option.isNone_iff_eq_none] using hnone
          · exact hs.there n hn
        exact (Yields.pure _).at_session ⟨hs.tidy, hthere, hs.versions, hs.tree⟩
    exact hfirst.bind hrest

/-- Asking for a version changes the versions that were found, and nothing else. -/
theorem run_version (w : World) (runtime : Text) (s : Session) :
    (Work.version w runtime).run.run s =
      (.ok ((Interpreter.version (w.host.among s.tree) runtime).run.run s.versions).1,
        { s with versions :=
            ((Interpreter.version (w.host.among s.tree) runtime).run.run s.versions).2 }) := rfl

/-- Asking for a version that is known. -/
theorem yields_version (w : World) {runtime version : Text}
    (hversion : versions.lookup runtime = some version) :
    Yields (Settled names versions I) (Settled names versions I) (Work.version w runtime)
      (.ok (.ok version)) [] := by
  intro s hs
  have hlookup : s.versions.lookup runtime = some version := by rw [hs.versions, hversion]
  have hrun : (Work.version w runtime).run.run s = (.ok (.ok version), s) := by
    rw [run_version, Interpreter.run_version, hlookup]
  rw [hrun]
  exact ⟨rfl, (List.append_nil _).symm, hs⟩

/-- Work on the files. -/
theorem yields_onTree {α : Type} {act : StateM Tree α} {a : α}
    (hact : ∀ tree, I tree → (act.run tree).1 = a ∧ J (act.run tree).2) :
    Yields (Settled names versions I) (Settled names versions J) (Work.onTree act) (.ok a) [] := by
  intro s hs
  obtain ⟨ha, hJ⟩ := hact s.tree hs.tree
  rw [run_onTree, ha]
  exact ⟨rfl, (List.append_nil _).symm, hs.tidy, hs.there, hs.versions, hJ⟩

section Files

variable {α : Type} {act : Files.Action α}

theorem yields_files {a : α}
    (hact : ∀ tree, I tree → (act.run.run tree).1 = .ok a ∧ J (act.run.run tree).2) :
    Yields (Settled names versions I) (Settled names versions J) (Work.files act) (.ok a) [] :=
  (yields_onTree hact).bind_pure rfl

theorem yields_files_error {f : Files.Failure}
    (hact : ∀ tree, I tree → (act.run.run tree).1 = .error f ∧ J (act.run.run tree).2) :
    Yields (Settled names versions I) (Settled names versions J) (Work.files act)
      (.error (.system f)) [] :=
  (yields_onTree hact).next (Yields.throw _)

end Files

theorem yields_prints (lines : List Text) :
    Yields (Settled names versions I) (Settled names versions I)
      (forIn lines PUnit.unit fun line _ => do
        Work.print line
        return ForInStep.yield PUnit.unit) (.ok PUnit.unit) lines := by
  have hline : ∀ line ∈ lines, Yields (Settled names versions I) (Settled names versions I)
      (Work.print line) (.ok ()) [line] := fun line _ => yields_print line
  simpa using Yields.forIn_list hline

end SnippetBench.Cli
