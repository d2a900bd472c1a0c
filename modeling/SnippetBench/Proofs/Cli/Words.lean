import SnippetBench.Cli.Argument
import SnippetBench.Proofs.Except

/-!
# Options among the words of a command line

An option sets what it sets whatever stands behind it, and apart from that only ends a run of
operands that has begun (`Sets`). Each option of a command line that is read without anything left
over is of this kind, with its value if that is a word of its own (`exists_sets_of_option`). So such
an option can be left out anywhere: the command line is still read, and only the setting is missing
(`readWords_without`).
-/

namespace SnippetBench.Cli

variable {form : Form}

/-! ### What an option sets -/

/-- The phase behind an option. -/
def Phase.behindOption : Phase → Phase
  | .running => .over
  | phase => phase

/-- Words that set something whatever stands behind them. -/
def Sets (form : Form) (piece : List (Text × Word)) (settings : List Setting) : Prop :=
  ∀ phase rest, readWords form phase (piece ++ rest) =
    (readWords form phase.behindOption rest).map (·.after settings [])

theorem Phase.ite_running (phase : Phase) :
    (if phase = .running then Phase.over else phase) = phase.behindOption := by
  cases phase <;> rfl

section Cluster

variable {s last : Switch} {t name value : Text} {attached : Option Text} {flags : List Switch}
  {settings : List Setting} {x : Setting}

/-- The last option of an argument with its value in the same argument. -/
theorem sets_valued (hcluster : clusterOf form s name attached = .ok ⟨flags, .valued last value⟩)
    (hflags : flagSettings form flags = .ok settings) (hvalue : setting form last value = .ok x) :
    Sets form [(t, .option (.known s name attached))] (settings ++ [x]) := by
  intro phase rest
  rw [List.singleton_append, readWords.eq_def]
  dsimp only
  rw [hcluster, Phase.ite_running]
  simp only [mapError_ok, bind, Except.bind, hflags, hvalue]
  rfl

/-- The last option of an argument with its value in the next argument. -/
theorem sets_apart (hcluster : clusterOf form s name attached = .ok ⟨flags, .bare last⟩)
    (htakes : last.key.takesValue = true) (hflags : flagSettings form flags = .ok settings)
    (hvalue : setting form last value = .ok x) :
    Sets form [(t, .option (.known s name attached)), (value, .operand)] (settings ++ [x]) := by
  intro phase rest
  rw [List.cons_append, List.singleton_append, readWords.eq_def]
  dsimp only
  rw [hcluster, Phase.ite_running]
  simp only [mapError_ok, bind, Except.bind, htakes, if_true, hflags, hvalue]
  rfl

/-- Options without values. -/
theorem sets_flags (hcluster : clusterOf form s name attached = .ok ⟨flags, .bare last⟩)
    (htakes : last.key.takesValue = false)
    (hflags : flagSettings form (flags ++ [last]) = .ok settings) :
    Sets form [(t, .option (.known s name attached))] settings := by
  intro phase rest
  rw [List.singleton_append, readWords.eq_def]
  dsimp only
  rw [hcluster, Phase.ite_running]
  simp only [mapError_ok, bind, Except.bind, htakes, Bool.false_eq_true, if_false, hflags]
  rfl

end Cluster

/-- An option of a command line with nothing left over sets something, together with the operand
behind it if it takes that for its value. -/
theorem exists_sets_of_option {phase : Phase} {t : Text} {m : Mention}
    {words : List (Text × Word)} {found : Found}
    (h : readWords form phase ((t, .option m) :: words) = .ok found) (hleft : found.leftOver = []) :
    ∃ taken rest settings, words = taken ++ rest ∧
      (taken = [] ∨ ∃ value, taken = [(value, .operand)]) ∧
      Sets form ((t, .option m) :: taken) settings := by
  rw [readWords.eq_def] at h
  dsimp only at h
  cases m with
  | unknown =>
    obtain ⟨g, -, hg⟩ := bind_eq_ok_iff.1 h
    cases hg
    simp [Found.after] at hleft
  | known s name attached =>
    obtain ⟨⟨flags, last⟩, hcluster, h⟩ := bind_eq_ok_iff.1 h
    rw [mapError_eq_ok_iff] at hcluster
    cases last with
    | valued last value =>
      obtain ⟨settings, hflags, h⟩ := bind_eq_ok_iff.1 h
      obtain ⟨x, hvalue, -⟩ := bind_eq_ok_iff.1 h
      exact ⟨[], words, _, rfl, .inl rfl, sets_valued hcluster hflags hvalue⟩
    | bare last =>
      dsimp only at h
      split at h
      case isTrue htakes =>
        match words with
        | (value, .operand) :: rest =>
          obtain ⟨settings, hflags, h⟩ := bind_eq_ok_iff.1 h
          obtain ⟨x, hvalue, -⟩ := bind_eq_ok_iff.1 h
          exact ⟨[(value, .operand)], rest, _, rfl, .inr ⟨value, rfl⟩,
            sets_apart hcluster htakes hflags hvalue⟩
        | [] | (_, .dashes) :: _ | (_, .option _) :: _ => cases h
      case isFalse htakes =>
        obtain ⟨settings, hflags, -⟩ := bind_eq_ok_iff.1 h
        exact ⟨[], words, _, rfl, .inl rfl,
          sets_flags hcluster (Bool.eq_false_iff.2 htakes) hflags⟩

/-! ### Operands -/

/-- A path is added, and the run of operands goes on. -/
theorem readWords_path (hform : form.operands = .paths) {phase : Phase} (hphase : phase ≠ .over)
    (t : Text) (words : List (Text × Word)) :
    readWords form phase ((t, .operand) :: words) =
      (readWords form .running words).map (·.addPath t) := by
  rw [readWords.eq_def]
  dsimp only
  rw [hform]
  cases phase with
  | awaited | running => rfl
  | _ => exact absurd rfl hphase

/-- An operand of a command line with nothing left over is a path. -/
theorem isPath_of_readWords (hform : form.operands ≠ .command) {phase : Phase} {t : Text}
    {words : List (Text × Word)} {found : Found}
    (h : readWords form phase ((t, .operand) :: words) = .ok found) (hleft : found.leftOver = []) :
    form.operands = .paths ∧ phase ≠ .over := by
  rw [readWords.eq_def] at h
  dsimp only at h
  split at h
  case h_1 heq => exact absurd heq hform
  case h_2 heq | h_3 heq => exact ⟨heq, by decide⟩
  case h_4 =>
    obtain ⟨g, -, hg⟩ := bind_eq_ok_iff.1 h
    cases hg
    simp [Found.after] at hleft

/-- A lone `--` behind the run of operands is left over. -/
theorem leftOver_of_dashes {t : Text} {words : List (Text × Word)} {found : Found}
    (h : readWords form .over ((t, .dashes) :: words) = .ok found) : found.leftOver ≠ [] := by
  rw [readWords.eq_def] at h
  cases hoperands : form.operands <;> rw [hoperands] at h <;>
    obtain ⟨g, -, hg⟩ := bind_eq_ok_iff.1 h <;> cases hg <;> simp [Found.after]

/-! ### Leaving an option out -/

/-- A run of operands need not have ended for what can be read behind its end. -/
theorem readWords_of_behindOption (hform : form.operands ≠ .command) {phase : Phase}
    {words : List (Text × Word)} {found : Found}
    (h : readWords form phase.behindOption words = .ok found) (hleft : found.leftOver = []) :
    readWords form phase words = .ok found := by
  cases phase with
  | awaited => exact h
  | running =>
    match words with
    | [] =>
      rw [readWords.eq_def] at h ⊢
      exact h
    | (t, .operand) :: words => exact absurd rfl (isPath_of_readWords hform h hleft).2
    | (t, .dashes) :: words => exact absurd hleft (leftOver_of_dashes h)
    | (t, .option m) :: words =>
      obtain ⟨taken, rest, settings, rfl, -, hsets⟩ := exists_sets_of_option h hleft
      rw [← List.cons_append, hsets] at h ⊢
      exact h
  | _ => exact h

/-- Nothing but the setting is missing when an option is left out. -/
theorem readWords_without (hform : form.operands ≠ .command) {t : Text} {m : Mention}
    {value : List (Text × Word)} {x : Setting} (hsets : Sets form ((t, .option m) :: value) [x])
    {back : List (Text × Word)} (front : List (Text × Word)) (hfront : ∀ w ∈ front, w.2 ≠ .dashes)
    (phase : Phase) {found : Found}
    (h : readWords form phase (front ++ ((t, .option m) :: value ++ back)) = .ok found)
    (hleft : found.leftOver = []) :
    ∃ before after, found.settings = before ++ x :: after ∧
      readWords form phase (front ++ back) = .ok { found with settings := before ++ after } := by
  match front with
  | [] =>
    rw [List.nil_append, hsets, map_eq_ok_iff] at h
    obtain ⟨g, hg, rfl⟩ := h
    exact ⟨[], g.settings, rfl, readWords_of_behindOption hform hg hleft⟩
  | (u, .operand) :: front =>
    have hrest : ∀ w ∈ front, w.2 ≠ .dashes := fun w hw => hfront w (.tail _ hw)
    rw [List.cons_append] at h
    obtain ⟨hpaths, hphase⟩ := isPath_of_readWords hform h hleft
    rw [readWords_path hpaths hphase, map_eq_ok_iff] at h
    obtain ⟨g, hg, rfl⟩ := h
    obtain ⟨before, after, hsettings, hread⟩ :=
      readWords_without hform hsets front hrest .running hg hleft
    refine ⟨before, after, hsettings, ?_⟩
    rw [List.cons_append, readWords_path hpaths hphase, hread]
    rfl
  | (u, .dashes) :: front => exact absurd rfl (hfront _ (.head _))
  | (u, .option m') :: front =>
    rw [List.cons_append] at h
    obtain ⟨taken, rest, settings, hwords, htaken, hsets'⟩ := exists_sets_of_option h hleft
    -- the value of this option is not the option to leave out
    obtain ⟨front, rfl⟩ : ∃ front', front = taken ++ front' := by
      rcases htaken with rfl | ⟨v, rfl⟩
      · exact ⟨front, rfl⟩
      · rcases front with _ | ⟨w, front⟩
        · simp at hwords
        · simp only [List.cons_append, List.cons.injEq, List.nil_append] at hwords
          exact ⟨front, by rw [hwords.1]; rfl⟩
    have hrest : ∀ w ∈ front, w.2 ≠ .dashes :=
      fun w hw => hfront w (.tail _ (List.mem_append_right _ hw))
    rw [List.append_assoc, ← List.cons_append, hsets', map_eq_ok_iff] at h
    obtain ⟨g, hg, rfl⟩ := h
    obtain ⟨before, after, hsettings, hread⟩ :=
      readWords_without hform hsets front hrest phase.behindOption hg hleft
    refine ⟨settings ++ before, after, ?_, ?_⟩
    · simp only [Found.after, hsettings, List.append_assoc]
    · rw [← List.cons_append, List.append_assoc, hsets', hread]
      simp [Except.map, Found.after, List.append_assoc]
termination_by front.length

end SnippetBench.Cli
