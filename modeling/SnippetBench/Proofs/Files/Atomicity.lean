import SnippetBench.Proofs.Files.Replace

/-!
# Replacing a file in one stroke

The stages of replacing the content of a file can fail because the system refuses them, or because of
what stands in the tree (`Fails`). If none fails, the file holds the new text and nothing else has
changed. If one fails, so does the replacing, with the failure of such a stage, and the tree is the
one from before, whatever was in the temporary file by then (`replace_atomic`).
-/

namespace SnippetBench.Files.Action

open SnippetBench.Files.Tree

variable {refusals : Refusals} {tree tree' : Tree} {target : Path} {dir goal : Location} {f : Failure}

/-- A stage of replacing the content of a file cannot be done, and a failure says why. -/
inductive Fails (refusals : Refusals) (tree : Tree) (target : Path) (dir : Location) :
    Stage → Failure → Prop
  /-- The system refuses the stage. -/
  | refused {stage : Stage} {f : Failure} (h : refusals.why? stage = some f) :
      Fails refusals tree target dir stage f
  /-- All names for temporary files are taken. -/
  | taken (h : freeName? tree dir = none) : Fails refusals tree target dir .create .alreadyThere
  /-- The path of the temporary file cannot be followed. -/
  | unreachable {name : Text} {f : Failure} (hname : freeName? tree dir = some name)
      (h : tree.locate (target.withName name) = .error f) : Fails refusals tree target dir .create f
  /-- The path of the file cannot be followed. -/
  | lost {f : Failure} (h : tree.locate target = .error f) : Fails refusals tree target dir .move f
  /-- The path of the file does not end in the name of an entry. -/
  | unnamed (h : endsInName target = false) : Fails refusals tree target dir .move .busy
  /-- A directory stands where the path of the file leads. -/
  | directory (h : tree.entryAt target = .ok .directory) :
      Fails refusals tree target dir .move .isDirectory

/-! ### Where the file comes to stand -/

theorem check_eq_error_iff {stage : Stage} : refusals.check stage = .error f ↔
    refusals.why? stage = some f := by
  unfold Refusals.check
  cases refusals.why? stage <;> simp

theorem check_eq_ok_iff {stage : Stage} {u : Unit} : refusals.check stage = .ok u ↔
    refusals.why? stage = none := by
  unfold Refusals.check
  cases refusals.why? stage <;> simp

theorem targetOf_eq_error (h : targetOf tree target = .error f) :
    Fails refusals tree target dir .move f := by
  unfold targetOf at h
  cases hlocate : tree.locate target with
  | error f' =>
    rw [hlocate] at h
    cases h
    exact .lost hlocate
  | ok place =>
    rw [hlocate] at h
    dsimp only at h
    split at h
    case isTrue hname =>
      cases h
      exact .unnamed (by simpa using hname)
    split at h
    case isTrue hdirectory =>
      cases h
      exact .directory (entryAt_eq_ok_iff.2 ⟨place, hlocate, hdirectory⟩)
    · cases h

theorem temporaryOf_eq_error (h : temporaryOf tree target dir = .error f) :
    Fails refusals tree target dir .create f := by
  unfold temporaryOf at h
  cases hfree : freeName? tree dir with
  | none =>
    rw [hfree] at h
    cases h
    exact .taken hfree
  | some name =>
    rw [hfree] at h
    exact .unreachable hfree h

/-- The failure of a replacing is that of one of its stages. -/
theorem exists_fails_of_destination (h : destination refusals tree target dir = .error f) :
    ∃ stage, Fails refusals tree target dir stage f := by
  unfold destination moveTarget at h
  simp only [bind_eq_error_iff, check_eq_error_iff] at h
  rcases h with hcreate | ⟨-, -, htemporary | ⟨-, -, hwrite | ⟨-, -, hflush | ⟨-, -, hclose |
    ⟨-, -, hmove | ⟨-, -, htarget⟩⟩⟩⟩⟩⟩
  · exact ⟨_, .refused hcreate⟩
  · exact ⟨_, temporaryOf_eq_error htemporary⟩
  · exact ⟨_, .refused hwrite⟩
  · exact ⟨_, .refused hflush⟩
  · exact ⟨_, .refused hclose⟩
  · exact ⟨_, .refused hmove⟩
  · exact ⟨_, targetOf_eq_error htarget⟩

/-- When a file comes to stand somewhere, no stage fails. -/
theorem not_fails_of_destination (h : destination refusals tree target dir = .ok goal)
    (stage : Stage) (f : Failure) : ¬ Fails refusals tree target dir stage f := by
  obtain ⟨hlocate, hdirectory⟩ := targetOf_eq_ok (targetOf_of_destination h)
  have htarget := targetOf_of_destination h
  unfold destination moveTarget at h
  simp only [bind_eq_ok_iff, check_eq_ok_iff] at h
  obtain ⟨-, hcreate, place, htemporary, -, hwrite, -, hflush, -, hclose, -, hmove, -⟩ := h
  intro hfails
  cases hfails with
  | refused hrefused => cases stage <;> simp_all only [reduceCtorEq]
  | taken hfree =>
    unfold temporaryOf at htemporary
    rw [hfree] at htemporary
    cases htemporary
  | unreachable hfree hlost =>
    unfold temporaryOf at htemporary
    rw [hfree] at htemporary
    dsimp only at htemporary
    rw [hlost] at htemporary
    cases htemporary
  | lost hlost =>
    rw [hlocate] at hlost
    cases hlost
  | unnamed hname => simp [targetOf, hlocate, hname] at htarget
  | directory hentry =>
    obtain ⟨place, hplace, hfind⟩ := entryAt_eq_ok_iff.1 hentry
    rw [hlocate] at hplace
    cases hplace
    exact hdirectory hfind

/-! ### All or nothing -/

/-- Where a file would come to stand does not depend on what stands at other locations, also if its
path has no name. -/
theorem targetOf_of_sameBut {P : Location → Prop} (h : InDirectory tree target dir)
    (hsame : SameBut P tree tree') : targetOf tree' target = targetOf tree target := by
  by_cases hnames : target.names = []
  -- such a path leads to its directory itself, which no file can replace
  · have hbusy {tree : Tree} (h : InDirectory tree target dir) :
        targetOf tree target = .error .busy := by
      have hparent : target.parent = target := by
        obtain ⟨root, names⟩ := target
        obtain rfl : names = [] := hnames
        rfl
      have hlocate := h.locate_parent
      rw [hparent] at hlocate
      simp [targetOf, hlocate, endsInName, Path.name?, hnames]
    rw [hbusy h, hbusy (h.of_sameBut hsame)]
  · exact targetOf_congr h hnames hsame

/-- **Replacing the content of a file is all or nothing.** If some stage fails, the replacing fails as
such a stage does, and the tree is the one from before: the file is as it was, and there is no other
temporary file. If no stage fails, the file holds the bytes of the text, and nothing else has changed,
so that there is no other temporary file either. -/
theorem replace_atomic (h : InDirectory tree target dir) (text : Text) (refusals : Refusals) :
    let out := (replace target text refusals).run.run tree
    ((∃ stage f, Fails refusals tree target dir stage f) →
      ∃ stage f, Fails refusals tree target dir stage f ∧ out = (.error f, tree)) ∧
    ((∀ stage f, ¬ Fails refusals tree target dir stage f) →
      ∃ goal left, tree.locate target = .ok goal ∧ out = (.ok (), left) ∧ left.home = tree.home ∧
        left.entryAt target = .ok (.file (Text.Utf8.encode text)) ∧
        ∀ place, place ≠ goal → left.find? place = tree.find? place) := by
  intro out
  have hout : out = _ :=
    run_replace_of_target h (fun P tree' hsame => targetOf_of_sameBut h hsame) refusals text
  cases hgoal : destination refusals tree target dir with
  | error f =>
    rw [hgoal] at hout
    obtain ⟨stage, hfails⟩ := exists_fails_of_destination hgoal
    exact ⟨fun _ => ⟨stage, f, hfails, hout⟩, fun hnone => absurd hfails (hnone stage f)⟩
  | ok goal =>
    rw [hgoal] at hout
    obtain ⟨hlocate, hdirectory⟩ := targetOf_eq_ok (targetOf_of_destination hgoal)
    have hne : goal ≠ [] := fun heq => hdirectory (heq ▸ find?_nil)
    have hput := sameBut_put hdirectory (Text.Utf8.encode text)
    refine ⟨?_, fun _ => ⟨goal, _, hlocate, hout, rfl, entryAt_eq_ok_iff.2
      ⟨goal, hput.locate_eq_ok hlocate, by rw [find?_put hne, if_pos rfl]⟩, hput.find⟩⟩
    rintro ⟨stage, f, hfails⟩
    exact absurd hfails (not_fails_of_destination hgoal stage f)

/-- A script is kept when three bytes of the new one reach the temporary file and flushing fails, and
replaced when nothing is refused. -/
theorem replace_atomic_flush :
    let tree : Tree := ⟨[(["work"], .directory), (["work", "a.py"], .file [0x31])], ["work"]⟩
    let target := Path.ofText "a.py"
    let refusals : Refusals := ⟨fun stage => if stage = .flush then some .notPermitted else none, 3⟩
    (∃ stage f, Fails refusals tree target ["work"] stage f ∧
      (replace target "pass" refusals).run.run tree = (.error f, tree)) ∧
    ∃ left, (replace target "pass").run.run tree = (.ok (), left) ∧
      left.entryAt target = .ok (.file (Text.Utf8.encode "pass")) := by
  intro tree target refusals
  have hdir : InDirectory tree target ["work"] := ⟨rfl, rfl, rfl⟩
  refine ⟨(replace_atomic hdir "pass" refusals).1 ⟨.flush, .notPermitted, .refused rfl⟩, ?_⟩
  have hlocate : tree.locate target = .ok ["work", "a.py"] := by decide +kernel
  have hname : freeName? tree ["work"] = some (temporaryName 0) := by decide +kernel
  have htemporary : tree.locate (target.withName (temporaryName 0)) =
      .ok ["work", temporaryName 0] := by decide +kernel
  have hnone (stage : Stage) (f : Failure) : ¬ Fails .none tree target ["work"] stage f := by
    intro hfails
    cases hfails with
    | refused hrefused => cases hrefused
    | taken hfree => cases hname.symm.trans hfree
    | unreachable hfree hlost =>
      cases hname.symm.trans hfree
      cases htemporary.symm.trans hlost
    | lost hlost => cases hlocate.symm.trans hlost
    | unnamed hname => exact absurd hname (by decide +kernel)
    | directory hentry => exact absurd hentry (by decide +kernel)
  obtain ⟨-, left, -, hrun, -, hentry, -⟩ := (replace_atomic hdir "pass" .none).2 hnone
  exact ⟨left, hrun, hentry⟩

end SnippetBench.Files.Action
