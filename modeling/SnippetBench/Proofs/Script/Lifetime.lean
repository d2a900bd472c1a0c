import SnippetBench.Proofs.Files.ScriptName
import SnippetBench.Script.Lifetime

/-!
# What the lifetime of a script leaves

A script that is not kept is taken away at the end of its lifetime, and so is whatever stood at its
location before: that location is empty then, and all others hold what they held (`Loses`). A script
that cannot be put in place changes nothing. Its document stands elsewhere, and so it is always left
(`during_leaves`).
-/

namespace SnippetBench.Files.Tree

variable {tree tree' tree'' : Tree} {P Q : Location → Prop} {place : Location}

/-- A tree from which what stood at some locations may be gone. -/
structure Loses (P : Location → Prop) (tree tree' : Tree) : Prop where
  same : SameBut P tree tree'
  gone : ∀ place, tree'.find? place = tree.find? place ∨ tree'.find? place = none

theorem Loses.of_sameBut (h : ∀ P, SameBut P tree tree') : Loses Q tree tree' :=
  ⟨h Q, fun place => .inl ((h fun _ => False).find place id)⟩

theorem Loses.refl : Loses P tree tree := .of_sameBut fun _ => .refl

theorem Loses.trans (h : Loses P tree tree') (h' : Loses P tree' tree'') : Loses P tree tree'' := by
  refine ⟨h.same.trans h'.same, fun place => ?_⟩
  rcases h'.gone place with heq | hnone
  · rw [heq]
    exact h.gone place
  · exact .inr hnone

theorem Loses.mono (hsub : ∀ place, P place → Q place) (h : Loses P tree tree') : Loses Q tree tree' :=
  ⟨h.same.mono hsub, h.gone⟩

end SnippetBench.Files.Tree

namespace SnippetBench.Script

open Files (Action Failure InDirectory Location Path Tree)
open Files.Action (run_replace)
open Files.Tree (Loses SameBut)

variable {tree entered : Tree} {p script : Path} {dir goal place : Location} {text : Text}

/-! ### Entering and leaving -/

section Enter

variable (hdir : InDirectory tree script dir) (hnames : script.names ≠ [])

include hdir hnames

/-- A script that is refused changes nothing. -/
theorem sameBut_of_refused {f : Failure} (h : (enter script text).run.run tree = (.error f, entered))
    (P : Location → Prop) : SameBut P tree entered := by
  obtain ⟨hresult, hreplaced⟩ := run_replace hdir hnames text
  unfold enter at h
  rw [h] at hresult hreplaced
  exact hreplaced.refused f hresult.symm P

/-- A script that is put in place stands where its path leads, and nothing else has changed. -/
theorem exists_goal_of_enter (h : (enter script text).run.run tree = (.ok (), entered)) :
    ∃ goal, tree.locate script = .ok goal ∧ tree.find? goal ≠ some .directory ∧
      entered.find? goal = some (.file (Text.Utf8.encode text)) ∧ SameBut (· = goal) tree entered := by
  obtain ⟨hresult, hreplaced⟩ := run_replace hdir hnames text
  unfold enter at h
  rw [h] at hresult hreplaced
  exact hreplaced.put hresult.symm

end Enter

/-- Leaving a script that is there and not kept takes it away. -/
theorem run_leave_deleted {bytes : List UInt8} (hlocate : tree.locate script = .ok goal)
    (hfile : tree.find? goal = some (.file bytes)) :
    (leave script false).run tree = (.deleted, tree.erase goal) := by
  have hdelete := Action.run_delete hlocate hfile
  unfold leave
  rw [if_neg (by decide), StateT.run_bind, hdelete]
  rfl

/-- **A lifetime** leaves nothing at the location of the script, and all else as it was. -/
theorem exists_goal_of_lifetime (hdir : InDirectory tree script dir) (hnames : script.names ≠ [])
    (h : (enter script text).run.run tree = (.ok (), entered)) :
    ∃ goal, tree.locate script = .ok goal ∧
      Loses (· = goal) tree ((leave script false).run entered).2 ∧
      ((leave script false).run entered).2.find? goal = none := by
  obtain ⟨goal, hgoal, hdirectory, hfile, hsame⟩ := exists_goal_of_enter hdir hnames h
  have hne : goal ≠ [] := fun heq => hdirectory (heq ▸ Files.Tree.find?_nil)
  have hnone : (entered.erase goal).find? goal = none := by
    rw [Files.Tree.find?_erase hne, if_pos rfl]
  have herased : SameBut (· = goal) tree (entered.erase goal) :=
    hsame.trans (Files.Tree.sameBut_erase (by simp [hfile]))
  rw [run_leave_deleted (hsame.locate_eq_ok hgoal) hfile]
  refine ⟨goal, hgoal, ⟨herased, fun place => ?_⟩, hnone⟩
  by_cases heq : place = goal
  · exact .inr (heq ▸ hnone)
  · exact .inl (herased.find place heq)

/-- A file that a lifetime leaves was there before, or is the script, which is kept. -/
theorem file_left_of_lifetime (hdir : InDirectory tree script dir) (hnames : script.names ≠ [])
    (h : (enter script text).run.run tree = (.ok (), entered)) {keep : Bool} {bytes : List UInt8}
    (hfile : ((leave script keep).run entered).2.find? place = some (.file bytes)) :
    tree.find? place = some (.file bytes) ∨
      keep = true ∧ tree.locate script = .ok place ∧ bytes = Text.Utf8.encode text := by
  cases keep with
  | false =>
    obtain ⟨goal, -, hloses, -⟩ := exists_goal_of_lifetime hdir hnames h
    rcases hloses.gone place with hsame | hnone
    · exact .inl (hsame.symm.trans hfile)
    · rw [hnone] at hfile
      cases hfile
  | true =>
    obtain ⟨goal, hgoal, -, hscript, hsame⟩ := exists_goal_of_enter hdir hnames h
    have hleft : entered.find? place = some (.file bytes) := hfile
    by_cases heq : place = goal
    · subst heq
      rw [hscript] at hleft
      cases hleft
      exact .inr ⟨rfl, hgoal, rfl⟩
    · exact .inl ((hsame.find place heq).symm.trans hleft)

/-! ### Doing something in between -/

section During

variable {α : Type} {body : Action α} {keep : Bool}

theorem run_during_refused {f : Failure}
    (h : (enter script text).run.run tree = (.error f, entered)) :
    (during script text keep body).run.run tree = (.error f, entered) :=
  run_bind_error h

theorem run_during (h : (enter script text).run.run tree = (.ok (), entered)) :
    (during script text keep body).run.run tree =
      ((body.run.run entered).1, ((leave script keep).run (body.run.run entered).2).2) := by
  unfold during
  rw [run_bind_ok h]
  rfl

/-- **What is left of the files** when something that touches none of them is done during the
lifetime of a script that is not kept, however that ends: everything, if the script is refused;
otherwise everything but what stood at the location of the script, which is empty then. The document
of the script is always left. -/
theorem during_leaves {entry : Files.Entry} (hdocument : tree.entryAt p = .ok entry)
    (hscript : p.script? = some script) (text : Text)
    (hbody : ∀ tree, (body.run.run tree).2 = tree) :
    let entered := (enter script text).run.run tree
    let left := (during script text false body).run.run tree
    left.2.entryAt p = .ok entry ∧
      ((∃ f, entered.1 = .error f ∧ left.1 = .error f ∧
          ∀ place, left.2.find? place = tree.find? place) ∨
        ∃ goal, entered.1 = .ok () ∧ left.1 = (body.run.run entered.2).1 ∧
          tree.locate script = .ok goal ∧ left.2.find? goal = none ∧
          (∀ place, place ≠ goal → left.2.find? place = tree.find? place) ∧
          ((∀ place, left.2.find? place = tree.find? place) ↔ tree.find? goal = none)) := by
  obtain ⟨place, hlocate, -⟩ := Files.Tree.entryAt_eq_ok_iff.1 hdocument
  obtain ⟨⟨dir, hdir⟩, hnames⟩ := Path.exists_inDirectory_of_script? hscript hlocate
  intro entered left
  rcases henter : (enter script text).run.run tree with ⟨f | _, between⟩
  · have hsame := sameBut_of_refused hdir hnames henter
    have hleft : left = (.error f, between) := run_during_refused henter
    have hentered : entered.1 = .error f := congrArg Prod.fst henter
    rw [hleft]
    exact ⟨(hsame fun _ => False).entryAt_eq_ok (fun _ _ => id) hdocument,
      .inl ⟨f, hentered, rfl, fun place => (hsame fun _ => False).find place id⟩⟩
  · have hleft : left = ((body.run.run between).1, ((leave script false).run between).2) := by
      have hrun : (during script text false body).run.run tree = _ := run_during henter
      rwa [hbody] at hrun
    have hentered : entered = (.ok (), between) := henter
    obtain ⟨goal, hgoal, hloses, hnone⟩ := exists_goal_of_lifetime hdir hnames henter
    rw [hleft, hentered]
    -- the document stands elsewhere
    have helsewhere : ∀ place, tree.locate p = .ok place → place ≠ goal := fun place hplace heq =>
      (Path.exists_place_of_script? hscript hgoal).2 (heq ▸ hplace)
    refine ⟨hloses.same.entryAt_eq_ok helsewhere hdocument,
      .inr ⟨goal, rfl, rfl, hgoal, hnone, hloses.same.find, fun hall => ?_, fun hfree place => ?_⟩⟩
    · rw [← hall goal]
      exact hnone
    · by_cases heq : place = goal
      · rw [heq, hfree]
        exact hnone
      · exact hloses.same.find place heq

end During

end SnippetBench.Script
