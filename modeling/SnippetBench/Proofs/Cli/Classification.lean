import SnippetBench.Cli.Argument
import SnippetBench.Proofs.Except

/-!
# Classified arguments

Up to a lone `--`, every argument is classified by itself, so that the words of a command line are
those of its parts (`classifyAll_append`). The words hold the arguments, a lone `--` is the only
argument that comes out as one, and an option that is known is one of the form.
-/

namespace SnippetBench.Cli

variable {form : Form} {arguments : List Text}

/-! ### The words of arguments -/

theorem classify_ne_dashes (t : Text) : classify form t ≠ .ok .dashes := by
  intro h
  unfold classify at h
  split at h
  · cases h
  split at h
  · cases h
  dsimp only at h
  split at h
  · cases h
  split at h
  · cases h
  · split at h <;> cases h
  · cases h

theorem classifyAll_cons_ok {t : Text} (ht : t ≠ ['-', '-']) {ts : List Text}
    {words : List (Text × Word)} :
    classifyAll form (t :: ts) = .ok words ↔
      ∃ w rest, classify form t = .ok w ∧ classifyAll form ts = .ok rest ∧
        words = (t, w) :: rest := by
  rw [classifyAll, if_neg ht, bind_eq_ok_iff]
  simp only [bind_eq_ok_iff]
  constructor
  · rintro ⟨w, hw, rest, hrest, h⟩
    cases h
    exact ⟨w, rest, hw, hrest, rfl⟩
  · rintro ⟨w, rest, hw, hrest, rfl⟩
    exact ⟨w, hw, rest, hrest, rfl⟩

/-- The words of arguments hold the arguments. -/
theorem map_fst_of_classifyAll {words : List (Text × Word)}
    (h : classifyAll form arguments = .ok words) : words.map Prod.fst = arguments := by
  induction arguments generalizing words with
  | nil => cases h; rfl
  | cons t ts ih =>
    by_cases ht : t = ['-', '-']
    · rw [classifyAll, if_pos ht] at h
      cases h
      simp [Function.comp_def]
    · obtain ⟨w, rest, -, hrest, rfl⟩ := (classifyAll_cons_ok ht).1 h
      simp [ih hrest]

/-- Among words there is a lone `--` exactly when there is one among the arguments. -/
theorem dashes_notMem_iff {words : List (Text × Word)}
    (h : classifyAll form arguments = .ok words) :
    (∀ w ∈ words, w.2 ≠ .dashes) ↔ ['-', '-'] ∉ arguments := by
  induction arguments generalizing words with
  | nil => cases h; simp
  | cons t ts ih =>
    by_cases ht : t = ['-', '-']
    · rw [classifyAll, if_pos ht] at h
      cases h
      simp [ht]
    · obtain ⟨w, rest, hw, hrest, rfl⟩ := (classifyAll_cons_ok ht).1 h
      have hne : w ≠ .dashes := fun h => classify_ne_dashes t (h ▸ hw)
      rw [List.forall_mem_cons, List.mem_cons, ih hrest]
      simp [hne, Ne.symm ht]

/-- Up to a lone `--`, each argument is classified by itself. -/
theorem classifyAll_append {front back : List Text} (hfront : ['-', '-'] ∉ front) :
    classifyAll form (front ++ back) = do
      return (← classifyAll form front) ++ (← classifyAll form back) := by
  induction front with
  | nil =>
    rw [List.nil_append]
    cases classifyAll form back <;> rfl
  | cons t ts ih =>
    obtain ⟨ht, hts⟩ := not_or.1 (mt List.mem_cons.2 hfront)
    rw [List.cons_append, classifyAll, classifyAll, if_neg (Ne.symm ht), if_neg (Ne.symm ht),
      ih hts]
    cases classify form t <;> cases classifyAll form ts <;> cases classifyAll form back <;> rfl

theorem classifyAll_append_ok {front back : List Text} (hfront : ['-', '-'] ∉ front)
    {words : List (Text × Word)} :
    classifyAll form (front ++ back) = .ok words ↔
      ∃ v w, classifyAll form front = .ok v ∧ classifyAll form back = .ok w ∧ words = v ++ w := by
  rw [classifyAll_append hfront]
  simp only [bind_eq_ok_iff]
  constructor
  · rintro ⟨v, hv, w, hw, h⟩
    cases h
    exact ⟨v, w, hv, hw, rfl⟩
  · rintro ⟨v, w, hv, hw, rfl⟩
    exact ⟨v, hv, w, hw, rfl⟩

/-! ### Known options -/

/-- An argument can only mean options of the form. -/
theorem mem_switches_of_candidates {t u name : Text} {s : Switch} {attached : Option Text}
    (h : (u, Mention.known s name attached) ∈ candidates form t) : s ∈ form.switches := by
  have hnames {u : Text} {s' : Switch} (h : (u, s') ∈ form.allNames) : s' ∈ form.switches := by
    obtain ⟨s'', hs, hu⟩ := List.mem_flatMap.1 h
    obtain ⟨_, -, heq⟩ := List.mem_map.1 hu
    cases heq
    exact hs
  unfold candidates at h
  split at h <;> dsimp only at h <;> obtain ⟨⟨n, s'⟩, hmem, heq⟩ := List.mem_filterMap.1 h
  · dsimp only at heq
    split at heq <;> cases heq
    exact hnames hmem
  · dsimp only at heq
    split at heq
    · cases heq
      exact hnames hmem
    · split at heq <;> cases heq
      exact hnames hmem

/-- An argument names an option of the form. -/
theorem mem_switches_of_classify {t name : Text} {s : Switch} {attached : Option Text}
    (h : classify form t = .ok (.option (.known s name attached))) : s ∈ form.switches := by
  have hnamed {u : Text} {s' : Switch} (h : form.named? u = some s') : s' ∈ form.switches :=
    List.mem_of_find?_eq_some h
  unfold classify at h
  split at h
  · cases h
  split at h
  case h_1 heq =>
    cases h
    exact hnamed heq
  dsimp only at h
  split at h
  case h_1 heq =>
    cases h
    exact hnamed heq
  split at h
  case h_1 heq =>
    cases h
    exact mem_switches_of_candidates (heq.symm ▸ List.mem_singleton_self _)
  · split at h <;> cases h
  · cases h

theorem mem_switches_of_classifyAll {t name : Text} {s : Switch} {attached : Option Text}
    {ts : List Text} {rest : List (Text × Word)}
    (h : classifyAll form (t :: ts) = .ok ((t, .option (.known s name attached)) :: rest)) :
    s ∈ form.switches := by
  by_cases ht : t = ['-', '-']
  · rw [classifyAll, if_pos ht] at h
    cases h
  · obtain ⟨w, _, hw, -, hcons⟩ := (classifyAll_cons_ok ht).1 h
    cases hcons
    exact mem_switches_of_classify hw

end SnippetBench.Cli
