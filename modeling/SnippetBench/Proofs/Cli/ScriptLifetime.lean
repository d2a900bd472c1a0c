import SnippetBench.Proofs.Cli.Execution
import SnippetBench.Proofs.Script.Lifetime

/-!
# The lifetime of a script in a settled session

A script is put beside its document and taken away again. During its lifetime it is the only file
that is not as before, and afterwards nothing but what stands at its location may have changed
(`yields_duringScript`). If it cannot be put there, that is trouble, and the same in all trees that
differ at the locations of scripts only.
-/

namespace SnippetBench.Cli

open Files (Action InDirectory Location Path Tree)
open Files.Action (refusalOf run_replace)
open Files.Tree (SameBut)

variable {names : List Text} {versions : Interpreter.Versions} {base tree : Tree}
  {P : Location → Prop} {goal dir : Location} {bytes : List UInt8} {script : Path}

/-- A tree with a file in place that is the same as another one but for some locations. -/
def HasScript (P : Location → Prop) (base : Tree) (goal : Location) (bytes : List UInt8)
    (tree : Tree) : Prop :=
  tree.find? goal = some (.file bytes) ∧ SameBut P base tree

theorem HasScript.readBytes (hgoal : base.locate script = .ok goal)
    (h : HasScript P base goal bytes tree) :
    (Action.readBytes script).run.run tree = (.ok bytes, tree) :=
  Action.run_readBytes (h.2.locate_eq_ok hgoal) h.1

/-- Taking a script away, or leaving it there. -/
theorem run_leave (hgoal : base.locate script = .ok goal) (hP : P goal)
    (h : HasScript P base goal bytes tree) (keep : Bool) :
    ((Script.leave script keep).run tree).1 = (if keep then .kept else .deleted) ∧
      SameBut P base ((Script.leave script keep).run tree).2 := by
  cases keep with
  | true => exact ⟨rfl, h.2⟩
  | false =>
    rw [Script.run_leave_deleted (h.2.locate_eq_ok hgoal) h.1]
    have herased : SameBut (· = goal) tree (tree.erase goal) :=
      Files.Tree.sameBut_erase (by simp [h.1])
    exact ⟨rfl, h.2.trans (herased.mono fun place (heq : place = goal) => heq ▸ hP)⟩

section Lifetime

variable (w : World) (hscript : scriptLogger ∈ names)

include hscript

theorem yields_leaveScript (hgoal : base.locate script = .ok goal) (hP : P goal) (keep : Bool) :
    Yields (Settled names versions (HasScript P base goal bytes))
      (Settled names versions (SameBut P base)) (leaveScript w script keep) (.ok ()) [] := by
  have hquiet : scriptLogger ∈ quietLoggers := by decide +kernel
  unfold leaveScript
  refine (yields_onTree fun tree htree => run_leave hgoal hP htree keep).next ?_
  cases keep <;> exact yields_note w hscript hquiet _ _ _

/-- Work during the lifetime of a script that can be put in place. -/
theorem yields_duringScript (hdir : InDirectory base script dir) (hnames : script.names ≠ [])
    (htemporary : ∀ n, ¬ P (dir ++ [Action.temporaryName n]))
    (hgoal : base.locate script = .ok goal) (hP : P goal) {text : Text}
    (hfree : refusalOf base script dir = .ok ()) (keep : Bool) {body : Work ExitCode}
    {result : Except Trouble ExitCode} {lines : List Text}
    (hbody : Yields (Settled names versions (HasScript P base goal (Text.Utf8.encode text)))
      (Settled names versions (HasScript P base goal (Text.Utf8.encode text))) body result lines) :
    Yields (Settled names versions (SameBut P base)) (Settled names versions (SameBut P base))
      (duringScript w script text keep body) result lines := by
  have hquiet : scriptLogger ∈ quietLoggers := by decide +kernel
  have henter : Yields (Settled names versions (SameBut P base))
      (Settled names versions (HasScript P base goal (Text.Utf8.encode text)))
      (Work.files (Script.enter script text)) (.ok ()) [] := by
    refine yields_files fun tree htree => ?_
    obtain ⟨hresult, hreplaced⟩ := run_replace (hdir.of_sameBut htree) hnames text
    rw [Action.refusalOf_congr hdir hnames htree htemporary, hfree] at hresult hreplaced
    obtain ⟨place, hlocate, -, hfile, hsame⟩ := hreplaced.put rfl
    obtain rfl : place = goal := by
      rw [htree.locate_eq_ok hgoal] at hlocate
      exact (Except.ok.inj hlocate).symm
    exact ⟨hresult, hfile, htree.trans (hsame.mono fun other (heq : other = place) => heq ▸ hP)⟩
  unfold duringScript
  refine henter.next ((yields_note w hscript hquiet _ _ _).next ?_)
  exact hbody.finally_do (yields_leaveScript w hscript hgoal hP keep)

omit hscript in
/-- A script that cannot be put in place is trouble. -/
theorem yields_duringScript_refused (hdir : InDirectory base script dir)
    (hnames : script.names ≠ []) (htemporary : ∀ n, ¬ P (dir ++ [Action.temporaryName n]))
    {f : Files.Failure} (hrefused : refusalOf base script dir = .error f) (text : Text)
    (keep : Bool) (body : Work ExitCode) :
    Yields (Settled names versions (SameBut P base)) (Settled names versions (SameBut P base))
      (duringScript w script text keep body) (.error (.system f)) [] := by
  unfold duringScript
  refine Yields.bind_error (yields_files_error fun tree htree => ?_)
  obtain ⟨hresult, hreplaced⟩ := run_replace (hdir.of_sameBut htree) hnames text
  rw [Action.refusalOf_congr hdir hnames htree htemporary, hrefused] at hresult hreplaced
  exact ⟨hresult, htree.trans (hreplaced.refused f rfl P)⟩

end Lifetime

end SnippetBench.Cli
