import SnippetBench.Proofs.Cli.Settled
import SnippetBench.Proofs.Interpreter.Streaming

/-!
# Executing a script in a settled session

Where the script is in place and the runtimes are known, executing it prints a banner and the lines
of the execution for each runtime, and gives the greatest exit code (`exists_yields_executeAll`).
The lines and the code depend on the bytes of the script only.
-/

namespace SnippetBench.Cli

open Files (Path Tree)
open Interpreter (linesOf)

variable {names : List Text} {versions : Interpreter.Versions} {I : Tree → Prop}

/-- Every line that is handed to the printer is printed. -/
theorem takes_print (lines : List Text) (s : Session) :
    Interpreter.Takes Work.print lines s { s with printed := s.printed ++ lines } := by
  induction lines generalizing s with
  | nil =>
    rw [List.append_nil]
    exact .nil s
  | cons line lines ih =>
    have hlines := ih { s with printed := s.printed ++ [line] }
    rw [List.append_assoc] at hlines
    exact .cons rfl hlines

/-- The lines of an execution are printed, and the execution ends by itself. -/
theorem yields_stream (e : Interpreter.Execution) (limit : Option Number.Binary64) :
    Yields (Settled names versions I) (Settled names versions I)
      (ExceptT.lift (e.stream limit Work.print) :
        Work (Except (Interpreter.Refusal Trouble) Interpreter.RunResult))
      (.ok (.ok (e.result limit (linesOf e.output).length))) (linesOf e.output) := by
  intro s hs
  have hrun : (ExceptT.lift (e.stream limit Work.print) :
      Work (Except (Interpreter.Refusal Trouble) Interpreter.RunResult)).run.run s =
      (.ok (.ok (e.result limit (linesOf e.output).length)),
        { s with printed := s.printed ++ linesOf e.output }) := by
    rw [ExceptT.run_lift, StateT.run_map, (takes_print (linesOf e.output) s).run_stream]
    rfl
  rw [hrun]
  exact ⟨rfl, rfl, hs.tidy, hs.there, hs.versions, hs.tree⟩

/-- The exit code of an execution. -/
def codeOf (r : Interpreter.RunResult) : ExitCode := if r.success then .success else .runtimeError

section Execution

variable (w : World) (bench : Config.BenchOptions) (p script : Path)
  (hrun : runLogger ∈ names) (hhost : hostLogger ∈ names)

include hrun hhost

theorem yields_tellEnd (runtime : Text) (r : Interpreter.RunResult) :
    Yields (Settled names versions I) (Settled names versions I)
      (tellEnd w bench p script runtime r) (.ok (codeOf r)) [] := by
  have hrunQuiet : runLogger ∈ quietLoggers := by decide +kernel
  have hhostQuiet : hostLogger ∈ quietLoggers := by decide +kernel
  unfold tellEnd
  dsimp only
  split
  all_goals
    refine (yields_note w hhost hhostQuiet _ _ _).next ?_
    unfold codeOf
    split
    · exact Yields.pure _
    · exact (yields_note w hrun hrunQuiet _ _ _).bind_pure rfl

/-- Executing a script that is in place, by a runtime that has told its version. -/
theorem yields_execute {runtime version : Text} {program : Interpreter.Runtime}
    (hversion : versions.lookup runtime = some version)
    (hprogram : ∀ tree, w.host.among tree runtime = .ok program) {bytes : List UInt8}
    (hscript : ∀ tree, I tree → (Files.Action.readBytes script).run.run tree = (.ok bytes, tree)) :
    Yields (Settled names versions I) (Settled names versions I)
      (execute w bench p script runtime)
      (.ok (codeOf ((program.execute bytes).result bench.timeout
        (linesOf (program.execute bytes).output).length)))
      (banner p.toText runtime version bench ++ linesOf (program.execute bytes).output) := by
  unfold execute
  refine (yields_version w hversion).next ?_
  refine (yields_prints _).bind (Yields.get_bind fun s hs => Yields.at_session ?_ hs)
  dsimp only
  rw [hprogram]
  refine (yields_start runtime script).next ?_
  have hread : Yields (Settled names versions I) (Settled names versions I)
      (Work.files (Files.Action.readBytes script)) (.ok bytes) [] :=
    yields_files fun tree htree => by
      rw [hscript tree htree]
      exact ⟨rfl, htree⟩
  exact hread.next ((yields_stream _ _).last (yields_tellEnd w bench p script hrun hhost _ _))

/-- Runtimes that have told their versions and can execute scripts. -/
def AreKnown (w : World) (versions : Interpreter.Versions) (runtimes : List Text) : Prop :=
  ∀ runtime ∈ runtimes, ∃ version program, versions.lookup runtime = some version ∧
    ∀ tree, w.host.among tree runtime = .ok program

/-- **Executing a script that is in place** ends in an exit code, and what is printed does not
depend on the session. -/
theorem exists_yields_executeAll {runtimes : List Text} (hknown : AreKnown w versions runtimes)
    {bytes : List UInt8} (hscript : ∀ tree, I tree →
      (Files.Action.readBytes script).run.run tree = (.ok bytes, tree)) :
    ∃ code lines, Yields (Settled names versions I) (Settled names versions I)
      (executeAll w bench p script runtimes) (.ok code) lines := by
  induction runtimes with
  | nil => exact ⟨_, _, Yields.pure _⟩
  | cons runtime runtimes ih =>
    obtain ⟨version, program, hversion, hprogram⟩ := hknown runtime (.head _)
    obtain ⟨code, lines, hrest⟩ := ih fun r hr => hknown r (.tail _ hr)
    have hfirst := yields_execute w bench p script hrun hhost hversion hprogram hscript
    exact ⟨_, _, hfirst.bind (hrest.bind_pure rfl)⟩

end Execution

end SnippetBench.Cli
