import SnippetBench.Proofs.Interpreter.Availability
import SnippetBench.Proofs.Text.Trim

/-!
# The first version in a text

A group is three numbers with dots between them, in digits of any script. The search takes the
digits of each number as far as they go, so it finds a version at the start of a text exactly if a
group begins there (`versionHere?_eq_some_iff`, `versionHere?_eq_none_iff`). What it finds in a whole
text is the version at the first place where a group begins (`firstVersion?_eq_some_iff`), and it
finds nothing exactly if there is no group (`firstVersion?_eq_none_iff`).
-/

namespace SnippetBench.Interpreter

open Files (textOfBytes)
open Text (isDecimalDigit)

/-- A number: one digit or more. -/
def IsNumber (t : Text) : Prop := t ≠ [] ∧ ∀ c ∈ t, isDecimalDigit c = true

/-- A text does not begin with a digit. -/
def NoDigitAhead (t : Text) : Prop := ∀ c, t.head? = some c → isDecimalDigit c = false

/-- A text does not end with a digit. -/
def NoDigitBehind (t : Text) : Prop := ∀ c, t.getLast? = some c → isDecimalDigit c = false

/-- A number between two parts of a text that goes as far as there are digits, to both sides. -/
structure IsWhole (before number after : Text) : Prop where
  number : IsNumber number
  behind : NoDigitBehind before
  ahead : NoDigitAhead after

/-- Three texts with dots between them. -/
def dotted (major minor patch : Text) : Text := major ++ '.' :: (minor ++ '.' :: patch)

/-- A group of three numbers. -/
inductive IsGroup : Text → Prop
  | dotted {major minor patch : Text} (hmajor : IsNumber major) (hminor : IsNumber minor)
      (hpatch : IsNumber patch) : IsGroup (dotted major minor patch)

/-- A version stands in a text where the first group begins, and its three numbers go as far as
there are digits. -/
inductive IsFirstVersion (t : Text) : Text → Prop
  | dotted {before major minor patch after : Text}
      (htext : t = before ++ (dotted major minor patch ++ after))
      (hmajor : IsWhole before major ('.' :: (minor ++ '.' :: (patch ++ after))))
      (hminor : IsWhole (before ++ major ++ ['.']) minor ('.' :: (patch ++ after)))
      (hpatch : IsWhole (before ++ major ++ '.' :: minor ++ ['.']) patch after)
      (hfirst : ∀ front group back, IsGroup group → t = front ++ (group ++ back) →
        before.length ≤ front.length) :
      IsFirstVersion t (dotted major minor patch)

variable {t v digits rest before after : Text}

/-! ### Numbers -/

theorem isDecimalDigit_dot : isDecimalDigit '.' = false := by decide

theorem noDigitAhead_dot (t : Text) : NoDigitAhead ('.' :: t) := by
  intro c hc
  cases hc
  exact isDecimalDigit_dot

theorem noDigitBehind_dot (t : Text) : NoDigitBehind (t ++ ['.']) := by
  intro c hc
  rw [List.getLast?_concat] at hc
  cases hc
  exact isDecimalDigit_dot

/-- Digits are taken as far as they go. -/
theorem digitRun?_eq_some_iff :
    digitRun? t = some (digits, rest) ↔ t = digits ++ rest ∧ IsNumber digits ∧ NoDigitAhead rest := by
  constructor
  · intro h
    have hsplit := List.takeWhile_append_dropWhile (p := isDecimalDigit) (l := t)
    unfold digitRun? at h
    generalize htake : t.takeWhile isDecimalDigit = taken at h hsplit
    cases taken with
    | nil => cases h
    | cons c taken =>
      have hrest : t.drop (c :: taken).length = t.dropWhile isDecimalDigit := by
        conv_lhs => rw [← hsplit]
        exact List.drop_left
      cases h
      rw [hrest]
      refine ⟨hsplit.symm, ⟨List.cons_ne_nil _ _, fun d hd => ?_⟩, fun d hd => Text.head?_dropWhile hd⟩
      rw [← htake] at hd
      exact List.mem_takeWhile_imp hd
  · rintro ⟨rfl, ⟨hne, hdigits⟩, hrest⟩
    unfold digitRun?
    rw [Text.takeWhile_run hdigits hrest]
    cases digits with
    | nil => exact absurd rfl hne
    | cons c digits =>
      dsimp only
      rw [List.drop_left]

theorem after?_dot_eq_some_iff : Text.after? ['.'] t = some rest ↔ t = '.' :: rest := by
  cases t with
  | nil => simp [Text.after?]
  | cons c t =>
    by_cases hc : c = '.'
    · simp [Text.after?, hc]
    · simp [Text.after?, hc, Ne.symm hc]

/-! ### A version at the start of a text -/

theorem versionHere?_eq_some_iff :
    versionHere? t = some v ↔ ∃ major minor patch after, t = dotted major minor patch ++ after ∧
      v = dotted major minor patch ∧ IsNumber major ∧ IsNumber minor ∧ IsNumber patch ∧
      NoDigitAhead after := by
  constructor
  · intro h
    simp only [versionHere?, Option.bind_eq_bind, Option.bind_eq_some_iff, Prod.exists,
      digitRun?_eq_some_iff, after?_dot_eq_some_iff] at h
    obtain ⟨major, _, ⟨rfl, hmajor, -⟩, _, rfl, minor, _, ⟨rfl, hminor, -⟩, _, rfl, patch, after,
      ⟨rfl, hpatch, hafter⟩, hv⟩ := h
    refine ⟨major, minor, patch, after, by simp [dotted], ?_, hmajor, hminor, hpatch, hafter⟩
    cases hv
    simp [dotted]
  · rintro ⟨major, minor, patch, after, rfl, rfl, hmajor, hminor, hpatch, hafter⟩
    have htext : dotted major minor patch ++ after =
        major ++ '.' :: (minor ++ '.' :: (patch ++ after)) := by simp [dotted]
    have hfirst : digitRun? (major ++ '.' :: (minor ++ '.' :: (patch ++ after))) =
        some (major, '.' :: (minor ++ '.' :: (patch ++ after))) :=
      digitRun?_eq_some_iff.2 ⟨rfl, hmajor, noDigitAhead_dot _⟩
    have hsecond : digitRun? (minor ++ '.' :: (patch ++ after)) =
        some (minor, '.' :: (patch ++ after)) :=
      digitRun?_eq_some_iff.2 ⟨rfl, hminor, noDigitAhead_dot _⟩
    have hthird : digitRun? (patch ++ after) = some (patch, after) :=
      digitRun?_eq_some_iff.2 ⟨rfl, hpatch, hafter⟩
    have hdot (t : Text) : Text.after? ['.'] ('.' :: t) = some t := after?_dot_eq_some_iff.2 rfl
    rw [htext]
    simp only [versionHere?, Option.bind_eq_bind, hfirst, hsecond, hthird, hdot, Option.bind_some]
    simp [dotted]

/-- Where a group begins, a version is found: its last number is made as long as it can be. -/
theorem exists_versionHere? {group : Text} (h : IsGroup group) (back : Text) :
    ∃ v, versionHere? (group ++ back) = some v := by
  obtain ⟨hmajor, hminor, hpatch⟩ := h
  rename_i major minor patch
  have hpatch' : ∃ patch' after, patch ++ back = patch' ++ after ∧ IsNumber patch' ∧
      NoDigitAhead after := by
    refine ⟨(patch ++ back).takeWhile isDecimalDigit, (patch ++ back).dropWhile isDecimalDigit,
      List.takeWhile_append_dropWhile.symm, ⟨?_, fun c hc => List.mem_takeWhile_imp hc⟩,
      fun c hc => Text.head?_dropWhile hc⟩
    rw [List.takeWhile_append_of_pos hpatch.2]
    simp [hpatch.1]
  obtain ⟨patch', after, hsplit, hnumber, hafter⟩ := hpatch'
  refine ⟨dotted major minor patch', versionHere?_eq_some_iff.2
    ⟨major, minor, patch', after, ?_, rfl, hmajor, hminor, hnumber, hafter⟩⟩
  simp [dotted, hsplit]

theorem versionHere?_eq_none_iff : versionHere? t = none ↔ ∀ group, IsGroup group → ¬ group <+: t := by
  constructor
  · rintro h group hgroup ⟨back, rfl⟩
    obtain ⟨v, hv⟩ := exists_versionHere? hgroup back
    rw [h] at hv
    cases hv
  · intro h
    rw [Option.eq_none_iff_forall_ne_some]
    intro v hv
    obtain ⟨major, minor, patch, after, rfl, -, hmajor, hminor, hpatch, -⟩ :=
      versionHere?_eq_some_iff.1 hv
    exact h _ (.dotted hmajor hminor hpatch) (List.prefix_append _ _)

/-! ### The first version -/

theorem firstVersion?_eq_none_iff :
    firstVersion? t = none ↔ ∀ group, IsGroup group → ¬ group <:+: t := by
  induction t with
  | nil =>
    refine iff_of_true rfl fun group hgroup hinfix => ?_
    obtain ⟨-, -, -⟩ := hgroup
    simp [dotted] at hinfix
  | cons c t ih =>
    rw [firstVersion?, Option.or_eq_none_iff, ih, versionHere?_eq_none_iff]
    simp only [List.infix_cons_iff, not_or, ← forall_and]

/-- What is found stands behind a part of the text in which nothing is found. -/
theorem exists_before_of_firstVersion? (h : firstVersion? t = some v) :
    ∃ before rest, t = before ++ rest ∧ versionHere? rest = some v ∧
      ∀ front back, t = front ++ back → front.length < before.length → versionHere? back = none := by
  induction t with
  | nil => cases h
  | cons c t ih =>
    rw [firstVersion?] at h
    cases hhere : versionHere? (c :: t) with
    | some u =>
      rw [hhere] at h
      cases h
      exact ⟨[], c :: t, rfl, hhere, fun _ _ _ hlt => absurd hlt (Nat.not_lt_zero _)⟩
    | none =>
      rw [hhere, Option.none_or] at h
      obtain ⟨before, rest, rfl, hrest, hnone⟩ := ih h
      refine ⟨c :: before, rest, rfl, hrest, fun front back heq hlt => ?_⟩
      cases front with
      | nil =>
        rw [← show c :: (before ++ rest) = back from heq]
        exact hhere
      | cons d front =>
        exact hnone front back (List.cons.inj heq).2 (by simpa using hlt)

theorem IsFirstVersion.isGroup (h : IsFirstVersion t v) : IsGroup v := by
  cases h with
  | dotted _ hmajor hminor hpatch _ => exact .dotted hmajor.number hminor.number hpatch.number

theorem isFirstVersion_of_firstVersion? (h : firstVersion? t = some v) : IsFirstVersion t v := by
  obtain ⟨before, rest, rfl, hrest, hnone⟩ := exists_before_of_firstVersion? h
  have hfirst : ∀ front group back, IsGroup group → before ++ rest = front ++ (group ++ back) →
      before.length ≤ front.length := by
    intro front group back hgroup heq
    by_contra hlt
    obtain ⟨u, hu⟩ := exists_versionHere? hgroup back
    rw [hnone front (group ++ back) heq (by omega)] at hu
    cases hu
  obtain ⟨major, minor, patch, after, rfl, rfl, hmajor, hminor, hpatch, hafter⟩ :=
    versionHere?_eq_some_iff.1 hrest
  -- a digit before the first number would begin a group that starts earlier
  have hbefore : NoDigitBehind before := by
    intro c hc
    by_contra hdigit
    obtain ⟨front, rfl⟩ := List.getLast?_eq_some_iff.1 hc
    have hlonger : IsNumber (c :: major) :=
      ⟨List.cons_ne_nil _ _, List.forall_mem_cons.2 ⟨by simpa using hdigit, hmajor.2⟩⟩
    have hle := hfirst front (dotted (c :: major) minor patch) after
      (.dotted hlonger hminor hpatch) (by simp [dotted])
    rw [List.length_append, List.length_singleton] at hle
    omega
  exact .dotted rfl ⟨hmajor, hbefore, noDigitAhead_dot _⟩
    ⟨hminor, noDigitBehind_dot _, noDigitAhead_dot _⟩ ⟨hpatch, noDigitBehind_dot _, hafter⟩ hfirst

/-- A version that stands first is found where it begins, behind a shortest part of the text. -/
theorem IsFirstVersion.exists_before (h : IsFirstVersion t v) :
    ∃ before rest, t = before ++ rest ∧ versionHere? rest = some v ∧
      ∀ front group back, IsGroup group → t = front ++ (group ++ back) →
        before.length ≤ front.length := by
  obtain ⟨htext, hmajor, hminor, hpatch, hfirst⟩ := h
  exact ⟨_, _, htext, versionHere?_eq_some_iff.2
    ⟨_, _, _, _, rfl, rfl, hmajor.number, hminor.number, hpatch.number, hpatch.ahead⟩, hfirst⟩

theorem IsFirstVersion.eq {u : Text} (h : IsFirstVersion t v) (h' : IsFirstVersion t u) : v = u := by
  obtain ⟨front, rest, htext, hrest, hfirst⟩ := h.exists_before
  obtain ⟨front', rest', htext', hrest', hfirst'⟩ := h'.exists_before
  have hlength : front.length = front'.length := by
    obtain ⟨major, minor, patch, after, hsplit, -, hmajor, hminor, hpatch, -⟩ :=
      versionHere?_eq_some_iff.1 hrest
    obtain ⟨major', minor', patch', after', hsplit', -, hmajor', hminor', hpatch', -⟩ :=
      versionHere?_eq_some_iff.1 hrest'
    exact le_antisymm (hfirst _ _ _ (.dotted hmajor' hminor' hpatch') (hsplit' ▸ htext'))
      (hfirst' _ _ _ (.dotted hmajor hminor hpatch) (hsplit ▸ htext))
  obtain ⟨-, rfl⟩ := List.append_inj (htext.symm.trans htext') hlength
  exact Option.some.inj (hrest.symm.trans hrest')

/-- **What is found in a text** is the version that stands first in it. -/
theorem firstVersion?_eq_some_iff : firstVersion? t = some v ↔ IsFirstVersion t v := by
  refine ⟨isFirstVersion_of_firstVersion?, fun h => ?_⟩
  cases hfound : firstVersion? t with
  | some u => rw [(isFirstVersion_of_firstVersion? hfound).eq h]
  | none =>
    obtain ⟨before, rest, rfl, hrest, -⟩ := h.exists_before
    obtain ⟨major, minor, patch, after, rfl, -, hmajor, hminor, hpatch, -⟩ :=
      versionHere?_eq_some_iff.1 hrest
    exact absurd ⟨before, after, by simp⟩
      (firstVersion?_eq_none_iff.1 hfound _ (.dotted hmajor hminor hpatch))

/-- **The version of a runtime** that ends with exit code zero is found in what it prints on its
output and on its error stream, in this order and without the blanks at the ends. It is the version
that stands first there, which is three numbers with dots between them, if there is such a group at
all, and everything otherwise. -/
theorem version_leftmost {host : Host} {name : Text} {versions : Versions} {program : Runtime}
    {output errors : Text} (hprogram : host name = .ok program)
    (hexit : program.answer.exit? = some 0) (houtput : textOfBytes program.answer.output = .ok output)
    (herrors : textOfBytes program.answer.errors = .ok errors)
    (hunknown : versions.lookup name = none) :
    let printed := Text.strip (output ++ errors)
    ∃ v, (version host name).run.run versions = (.ok v, (name, v) :: versions) ∧
      ((∃ group, IsGroup group ∧ group <:+: printed) →
        IsGroup v ∧ ∀ u, IsFirstVersion printed u ↔ u = v) ∧
      ((∀ group, IsGroup group → ¬ group <:+: printed) → v = printed) := by
  intro printed
  have hprobe : probe host name = .ok (versionIn output errors) :=
    probe_eq_ok_iff.2 (.version hprogram hexit houtput herrors)
  have hversion : versionIn output errors = (firstVersion? printed).getD printed := rfl
  refine ⟨versionIn output errors, by rw [run_version, hunknown, hprobe], ?_, fun hnone => ?_⟩
  · rintro ⟨group, hgroup, hinfix⟩
    obtain ⟨v, hv⟩ : ∃ v, firstVersion? printed = some v :=
      Option.ne_none_iff_exists'.1 fun hnone => firstVersion?_eq_none_iff.1 hnone group hgroup hinfix
    have hstands : IsFirstVersion printed v := firstVersion?_eq_some_iff.1 hv
    rw [hversion, hv, Option.getD_some]
    exact ⟨hstands.isGroup, fun u => ⟨fun hu => hu.eq hstands, fun hu => hu ▸ hstands⟩⟩
  · rw [hversion, firstVersion?_eq_none_iff.2 hnone, Option.getD_none]

/-- A version that begins with an Arabic digit and ends on the error stream, and a runtime that prints
no version. -/
theorem version_leftmost_joined :
    let answering (output errors : Text) : Runtime :=
      { answer := ⟨Text.Utf8.encode output, Text.Utf8.encode errors, some 0⟩
        execute := fun _ => ⟨[], some 0⟩ }
    let joined := answering "1..2 12.34 \u0665.6" ".7.8\n"
    let unnumbered := answering "dev\n" []
    let host : Host := fun name => .ok (if name = ("py" : Text) then joined else unnumbered)
    let printed := Text.strip ("1..2 12.34 \u0665.6" ++ ".7.8\n")
    let found (name v : Text) : Except ProbeError Text × Versions := (.ok v, [(name, v)])
    (∃ group, IsGroup group ∧ group <:+: printed) ∧
      (∃ v, (version host "py").run.run [] = found "py" v ∧
        (∀ u, IsFirstVersion printed u ↔ u = v) ∧ v = "\u0665.6.7") ∧
      (∀ group, IsGroup group → ¬ group <:+: Text.strip ("dev\n" ++ ([] : Text))) ∧
      (version host "dev").run.run [] = found "dev" "dev" := by
  intro answering joined unnumbered host printed found
  have hstands : IsFirstVersion printed "\u0665.6.7" :=
    firstVersion?_eq_some_iff.1 (by decide +kernel)
  have hgroup : ∃ group, IsGroup group ∧ group <:+: printed :=
    ⟨_, hstands.isGroup, ("1..2 12.34 " : Text), (".8" : Text), by decide +kernel⟩
  have hnone : ∀ group, IsGroup group → ¬ group <:+: Text.strip ("dev\n" ++ ([] : Text)) :=
    firstVersion?_eq_none_iff.1 (by decide +kernel)
  obtain ⟨v, hrun, hfound, -⟩ := @version_leftmost host "py" [] joined "1..2 12.34 \u0665.6" ".7.8\n"
    rfl rfl (by decide +kernel) (by decide +kernel) rfl
  obtain ⟨w, hrun', -, hall⟩ := @version_leftmost host "dev" [] unnumbered "dev\n" []
    rfl rfl (by decide +kernel) (by decide +kernel) rfl
  have hv : ("\u0665.6.7" : Text) = v := ((hfound hgroup).2 _).1 hstands
  have hw : w = "dev" := (hall hnone).trans (by decide +kernel)
  exact ⟨hgroup, ⟨v, hrun, (hfound hgroup).2, hv.symm⟩, hnone, hw ▸ hrun'⟩

end SnippetBench.Interpreter
