import SnippetBench.Cli.Documents
import SnippetBench.Proofs.Cli.Yields
import Mathlib.Data.List.Basic

/-!
# Documents one after another

Documents are worked on in the order of the list, up to the first that meets an obstacle: those are
the ones that are reached (`reached`). What is printed is what each of them prints, and without an
obstacle the greatest exit code counts (`yields_forPaths`). `IsSequence` compares the work on a list
with the work on each of its documents alone.
-/

namespace SnippetBench.Cli

/-! ### The greatest exit code -/

/-- The greatest of several exit codes; success, if there are none. -/
def worstOf (codes : List ExitCode) : ExitCode := codes.foldr ExitCode.worse .success

theorem number_worse (a b : ExitCode) : (a.worse b).number = max a.number b.number := by
  unfold ExitCode.worse
  split <;> omega

theorem number_worstOf (codes : List ExitCode) :
    (worstOf codes).number = (codes.map ExitCode.number).foldr max 0 := by
  induction codes with
  | nil => rfl
  | cons code codes ih =>
    rw [List.map_cons, List.foldr_cons, ← ih]
    exact number_worse code (worstOf codes)

/-! ### Working on a list -/

/-- What work that may meet an obstacle comes to. -/
def ending {α : Type} (obstacle : Option Trouble) (a : α) : Except Trouble α :=
  match obstacle with
  | some t => .error t
  | none => .ok a

/-- The documents of a list that are reached: those up to the first that meets an obstacle. -/
def reached (obstacle : Text → Option Trouble) : List Text → List Text
  | [] => []
  | path :: paths => path :: if (obstacle path).isSome then [] else reached obstacle paths

/-- Working on a list of paths, where the work on each of them comes to the same in all sessions
that the paths before it leave. -/
theorem yields_forPaths {I : List Text → Session → Prop} {K : Session → Prop}
    (hK : ∀ earlier s, I earlier s → K s) {work : Text → Work ExitCode}
    {obstacle : Text → Option Trouble} {code : Text → ExitCode} {lines : Text → List Text}
    {paths : List Text} (earlier : List Text)
    (h : ∀ before path after, before ++ path :: after = paths →
      Yields (I (earlier ++ before)) (I (earlier ++ before ++ [path])) (work path)
        (ending (obstacle path) (code path)) (lines path)) :
    Yields (I earlier) K (forPaths work paths)
      (ending (paths.findSome? obstacle) (worstOf (paths.map code)))
      ((reached obstacle paths).flatMap lines) := by
  induction paths generalizing earlier with
  | nil => exact (Yields.pure _).mono (fun _ hs => hs) (hK earlier)
  | cons path paths ih =>
    have hfirst : Yields (I earlier) (I (earlier ++ [path])) (work path)
        (ending (obstacle path) (code path)) (lines path) := by
      simpa using h [] path paths rfl
    have hrest := ih (earlier ++ [path]) fun before other after hsplit => by
      simpa using h (path :: before) other after (by rw [← hsplit]; rfl)
    rw [forPaths, reached, List.findSome?_cons]
    cases hobstacle : obstacle path with
    | some t =>
      rw [hobstacle] at hfirst
      simpa [ending] using hfirst.bind_error.mono (fun _ hs => hs) (hK (earlier ++ [path]))
    | none =>
      rw [hobstacle] at hfirst
      refine hfirst.bind ?_
      cases hlater : paths.findSome? obstacle with
      | some t =>
        rw [hlater] at hrest
        exact hrest.bind_error
      | none =>
        rw [hlater] at hrest
        exact hrest.bind_pure rfl

theorem yields_forPaths_singleton {I K : Session → Prop} {work : Text → Work ExitCode}
    {path : Text} {o : Option Trouble} {code : ExitCode} {lines : List Text}
    (h : Yields I K (work path) (ending o code) lines) :
    Yields I K (forPaths work [path]) (ending o (worstOf [code])) lines := by
  rw [forPaths]
  cases o with
  | some t => exact h.bind_error
  | none => exact h.last ((Yields.pure _).bind_pure rfl)

/-! ### Comparison with single documents -/

/-- How the work on a list of documents is made up of the work on each of them alone. A trouble at
the first obstacle ends everything with an outcome. -/
structure IsSequence (work : List Text → Except Trouble ExitCode × Session)
    (obstacle : Text → Option Trouble) (outcome : Trouble → Except Trouble ExitCode)
    (paths : List Text) : Prop where
  /-- The work on a document alone that meets no obstacle gives an exit code. -/
  ends : ∀ path ∈ paths, obstacle path = none → ∃ code, (work [path]).1 = .ok code
  /-- What is printed is what the documents that are reached print alone. -/
  printed : (work paths).2.printed =
    (reached obstacle paths).flatMap fun path => (work [path]).2.printed
  /-- Without an obstacle, all documents are reached, and the exit code is the greatest of those of
  the documents alone. -/
  finished : paths.findSome? obstacle = none → reached obstacle paths = paths ∧
    (work paths).1.map ExitCode.number =
      (paths.mapM fun path => (work [path]).1.map ExitCode.number).map (·.foldr max 0)
  stopped : ∀ t, paths.findSome? obstacle = some t → (work paths).1 = outcome t

variable {work : List Text → Except Trouble ExitCode × Session}
  {obstacle : Text → Option Trouble} {outcome : Trouble → Except Trouble ExitCode}
  {paths : List Text}

theorem reached_subset : reached obstacle paths ⊆ paths := by
  induction paths with
  | nil => exact List.Subset.refl _
  | cons path paths ih =>
    rw [reached]
    split
    · exact List.cons_subset_cons _ (List.nil_subset _)
    · exact List.cons_subset_cons _ ih

theorem reached_eq_self (h : paths.findSome? obstacle = none) : reached obstacle paths = paths := by
  induction paths with
  | nil => rfl
  | cons path paths ih =>
    have hnone := List.findSome?_eq_none_iff.1 h
    rw [reached, hnone path (.head _)]
    exact congrArg (path :: ·) (ih (List.findSome?_eq_none_iff.2 fun p hp => hnone p (.tail _ hp)))

theorem mapM_eq_ok {α β ε : Type} {f : α → Except ε β} {g : α → β} {xs : List α}
    (h : ∀ x ∈ xs, f x = .ok (g x)) : xs.mapM f = .ok (xs.map g) := by
  induction xs with
  | nil => rfl
  | cons x xs ih =>
    rw [List.mapM_cons, h x (.head _), ih fun y hy => h y (.tail _ hy)]
    rfl

section Sequence

variable {I : List Text → Session → Prop} {K : Session → Prop} {s : Session}
  {step : Text → Work ExitCode}

/-- The work on a document comes to the same wherever the document stands in a list, since it comes
to that in the first session. -/
theorem exists_yields_everywhere (hI : ∀ earlier s, I [] s → I earlier s) (hs : I [] s)
    (hstep : ∀ before path after, before ++ path :: after = paths → ∃ code lines,
      Yields (I before) (I (before ++ [path])) (step path) (ending (obstacle path) code) lines) :
    ∃ (code : Text → ExitCode) (lines : Text → List Text),
      ∀ before path after, before ++ path :: after = paths →
        Yields (I before) (I (before ++ [path])) (step path) (ending (obstacle path) (code path))
          (lines path) := by
  have hone (path : Text) : ∃ code lines, ∀ before after, before ++ path :: after = paths →
      Yields (I before) (I (before ++ [path])) (step path) (ending (obstacle path) code) lines := by
    by_cases hpath : path ∈ paths
    · obtain ⟨before, after, hsplit⟩ := List.append_of_mem hpath
      obtain ⟨code, lines, hyields⟩ := hstep before path after hsplit.symm
      refine ⟨code, lines, fun before' after' hsplit' => ?_⟩
      obtain ⟨code', lines', hyields'⟩ := hstep before' path after' hsplit'
      obtain ⟨hresult, hlines⟩ := hyields'.unique hyields (hI _ s hs) (hI _ s hs)
      rwa [hresult, hlines] at hyields'
    · exact ⟨.success, [], fun before after hsplit =>
        absurd (hsplit ▸ List.mem_append_right before (.head after)) hpath⟩
  choose code lines hyields using hone
  exact ⟨code, lines, fun before path after => hyields path before after⟩

/-- Work that begins in one session and then works on the documents one after another. The work on
each of them comes to the same in all sessions that those before it leave, and in the first one. -/
theorem isSequence_of_yields {later : List Text → Work ExitCode}
    (hI : ∀ earlier s, I [] s → I earlier s) (hK : ∀ earlier s, I earlier s → K s) (hs : I [] s)
    (hnothing : s.printed = [])
    (hstep : ∀ before path after, before ++ path :: after = paths → ∃ code lines,
      Yields (I before) (I (before ++ [path])) (step path) (ending (obstacle path) code) lines)
    (hlater : ∀ paths o code lines, Yields (I []) K (forPaths step paths) (ending o code) lines →
      Yields (I []) K (later paths) (o.elim (.ok code) outcome) lines)
    (hwork : ∀ paths, work paths = (later paths).run.run s) :
    IsSequence work obstacle outcome paths := by
  obtain ⟨code, lines, hyields⟩ := exists_yields_everywhere hI hs hstep
  have hcomes {ps : List Text} {o : Option Trouble} {code : ExitCode} {lines : List Text}
      (hps : Yields (I []) K (forPaths step ps) (ending o code) lines) :
      (work ps).1 = o.elim (.ok code) outcome ∧ (work ps).2.printed = lines := by
    obtain ⟨hending, hprinted, -⟩ := hlater ps o code lines hps s hs
    rw [hwork]
    exact ⟨hending, by rw [hprinted, hnothing, List.nil_append]⟩
  have halone : ∀ path ∈ paths,
      (work [path]).1 = (obstacle path).elim (.ok (worstOf [code path])) outcome ∧
        (work [path]).2.printed = lines path := by
    intro path hpath
    obtain ⟨before, after, hsplit⟩ := List.append_of_mem hpath
    exact hcomes (yields_forPaths_singleton
      ((hyields before path after hsplit.symm).mono (hI before) (hK _)))
  have hcode {path : Text} (hpath : path ∈ paths) (hnone : obstacle path = none) :
      (work [path]).1 = .ok (worstOf [code path]) := by
    rw [(halone path hpath).1, hnone]
    rfl
  obtain ⟨hending, hprinted⟩ := hcomes (yields_forPaths hK [] hyields)
  refine ⟨fun path hpath hnone => ⟨_, hcode hpath hnone⟩, ?_, fun hnone => ?_, fun t ht => ?_⟩
  · rw [hprinted]
    exact List.flatMap_congr fun path hpath => (halone path (reached_subset hpath)).2.symm
  · have heach : ∀ path ∈ paths,
        (work [path]).1.map ExitCode.number = .ok (code path).number := by
      intro path hpath
      rw [hcode hpath (List.findSome?_eq_none_iff.1 hnone path hpath)]
      simp [Except.map, number_worstOf]
    refine ⟨reached_eq_self hnone, ?_⟩
    rw [hending, hnone, mapM_eq_ok heach]
    simp [Except.map, number_worstOf, Function.comp_def]
  · rw [hending, ht]
    rfl

end Sequence

end SnippetBench.Cli
