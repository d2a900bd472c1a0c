import SnippetBench.Interpreter.Probe
import SnippetBench.Proofs.Except

/-!
# Runtimes that have answered

A runtime whose version was found can be started, whatever files there are (`HaveAnswered`). This
stays so when further runtimes are asked, and versions that were found are not forgotten
(`haveAnswered_version`, `haveAnswered_firstAvailable`).
-/

namespace SnippetBench.Interpreter

open Files (Tree)

variable {host : Host} {tree : Tree} {name : Text} {versions versions' : Versions}

/-- A path leads to a program exactly if the host has it. -/
theorem atPath_eq_ok_iff {program : Runtime} :
    host.atPath tree name = .ok program ↔ host name = .ok program := by
  unfold Host.atPath
  split
  case h_1 hmissing => simp [hmissing]
  case h_2 => exact Iff.rfl

/-- A program that can be started does not depend on the files. -/
theorem among_eq_ok {program : Runtime} (h : host.among tree name = .ok program) (tree' : Tree) :
    host.among tree' name = .ok program := by
  unfold Host.among at h ⊢
  split at h
  · cases h
  · split at h
    case isTrue hslash =>
      rw [if_pos hslash]
      exact atPath_eq_ok_iff.2 (atPath_eq_ok_iff.1 h)
    case isFalse hslash =>
      rw [if_neg hslash]
      exact h

theorem exists_program_of_probe {v : Text} (h : probe host name = .ok v) :
    ∃ program, host name = .ok program := by
  unfold probe at h
  cases hprogram : host name with
  | ok program => exact ⟨program, rfl⟩
  | error f =>
    rw [hprogram] at h
    cases f <;> cases h

/-- Every runtime with a version can be started, whatever the files are. -/
def HaveAnswered (host : Host) (versions : Versions) : Prop :=
  ∀ name v, versions.lookup name = some v → ∃ program, ∀ tree, host.among tree name = .ok program

/-- Versions that are found stay found. -/
def Extends (versions versions' : Versions) : Prop :=
  ∀ name v, versions.lookup name = some v → versions'.lookup name = some v

theorem Extends.trans {versions'' : Versions} (h : Extends versions versions')
    (h' : Extends versions' versions'') : Extends versions versions'' :=
  fun name v hv => h' name v (h name v hv)

theorem extends_cons {v : Text} (hnone : versions.lookup name = none) :
    Extends versions ((name, v) :: versions) := by
  intro n u hu
  have hne : n ≠ name := by
    rintro rfl
    cases hnone.symm.trans hu
  simpa [List.lookup_cons, beq_false_of_ne hne] using hu

theorem HaveAnswered.cons {v : Text} (h : HaveAnswered host versions)
    (hprobe : probe (host.among tree) name = .ok v) :
    HaveAnswered host ((name, v) :: versions) := by
  intro n u hu
  by_cases heq : n = name
  · subst heq
    obtain ⟨program, hprogram⟩ := exists_program_of_probe hprobe
    exact ⟨program, among_eq_ok hprogram⟩
  · exact h n u (by simpa [List.lookup_cons, beq_false_of_ne heq] using hu)

/-- What looking for the version of a runtime does, however the runtime is asked. -/
theorem run_versionBy {m : Type → Type} [Monad m] [LawfulMonad m]
    (ask : Text → m (Except ProbeError Text)) (name : Text) (versions : Versions) :
    (versionBy ask name).run.run versions =
      match versions.lookup name with
      | some v => pure (.ok v, versions)
      | none => ask name >>= fun
        | .ok v => pure (.ok v, (name, v) :: versions)
        | .error e => pure (.error e, versions) := by
  refine (run_lift_bind get _).trans ?_
  rw [StateT.run_get, pure_bind]
  cases versions.lookup name with
  | some v => rfl
  | none =>
    refine (run_lift_bind (StateT.lift (ask name)) _).trans ?_
    rw [StateT.run_lift, bind_assoc]
    congr 1
    funext answer
    rw [pure_bind]
    cases answer with
    | ok v =>
      refine (run_lift_bind (modify ((name, v) :: ·)) _).trans ?_
      rw [StateT.run_modify, pure_bind]
      rfl
    | error e => rfl

/-- What asking a runtime for its version does. -/
theorem run_version (host : Host) (name : Text) (versions : Versions) :
    (version host name).run.run versions =
      match versions.lookup name with
      | some v => (.ok v, versions)
      | none =>
        match probe host name with
        | .ok v => (.ok v, (name, v) :: versions)
        | .error e => (.error e, versions) := by
  refine (run_versionBy (m := Id) _ name versions).trans ?_
  cases versions.lookup name with
  | some v => rfl
  | none => cases probe host name <;> rfl

theorem haveAnswered_version (h : HaveAnswered host versions) {result : Except ProbeError Text}
    (hrun : (version (host.among tree) name).run.run versions = (result, versions')) :
    HaveAnswered host versions' ∧ Extends versions versions' ∧
      ∀ v, result = .ok v → versions'.lookup name = some v := by
  have hrefl : Extends versions versions := fun _ _ hv => hv
  rw [run_version] at hrun
  cases hlookup : versions.lookup name with
  | some v =>
    rw [hlookup] at hrun
    cases hrun
    exact ⟨h, hrefl, fun u hu => by rw [hlookup, Except.ok.inj hu]⟩
  | none =>
    rw [hlookup] at hrun
    cases hprobe : probe (host.among tree) name with
    | error e =>
      rw [hprobe] at hrun
      cases hrun
      exact ⟨h, hrefl, nofun⟩
    | ok v =>
      rw [hprobe] at hrun
      cases hrun
      exact ⟨h.cons hprobe, extends_cons hlookup, fun u hu => by simp [Except.ok.inj hu]⟩

/-- Looking for the first available runtime. -/
theorem haveAnswered_firstAvailable {names : List Text} (h : HaveAnswered host versions)
    {result : Except ProbeError Selection}
    (hrun : (firstAvailable (host.among tree) names).run.run versions = (result, versions')) :
    HaveAnswered host versions' ∧
      ∀ selection chosen, result = .ok selection → selection.chosen = some chosen →
        ∃ v, versions'.lookup chosen = some v := by
  induction names generalizing versions versions' result with
  | nil =>
    cases hrun
    exact ⟨h, fun selection chosen hresult hchosen => by cases hresult; cases hchosen⟩
  | cons name names ih =>
    rcases hfirst : (version (host.among tree) name).run.run versions with ⟨first, between⟩
    obtain ⟨hanswered, hextends, hlookup⟩ := haveAnswered_version h hfirst
    rw [firstAvailable, ExceptT.run_mk, StateT.run_bind, hfirst] at hrun
    cases first with
    | ok v =>
      cases hrun
      refine ⟨hanswered, fun selection chosen hresult hchosen => ?_⟩
      cases hresult
      cases hchosen
      exact ⟨v, hlookup v rfl⟩
    | error e =>
      replace hrun : (if e.isAbsence then do
            let found ← (firstAvailable (host.among tree) names).run
            return found.map fun s => { s with skipped := name :: s.skipped }
          else return .error e : StateM Versions (Except ProbeError Selection)).run between =
          (result, versions') := hrun
      split at hrun
      · rcases hrest : (firstAvailable (host.among tree) names).run.run between with
          ⟨rest, after⟩
        obtain ⟨hanswered', hchosen⟩ := ih hanswered hrest
        rw [StateT.run_bind, hrest] at hrun
        cases hrun
        refine ⟨hanswered', fun selection chosen hresult hselected => ?_⟩
        cases rest with
        | error e => cases hresult
        | ok inner =>
          cases hresult
          exact hchosen inner chosen rfl hselected
      · cases hrun
        exact ⟨hanswered, nofun⟩

end SnippetBench.Interpreter
