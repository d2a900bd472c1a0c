import SnippetBench.Document.Token
import SnippetBench.Proofs.Text.Lines
import SnippetBench.Proofs.Text.Trim

/-!
# Declaration lines

A declaration line is a marker, a gap of blanks and tabs, the rest, and the line end
(`IsDeclaration.eq_append`). The rest is well formed (`WellFormed`) when it is a bare name or a name
in braces; else there is one first character that fits neither (`Mistake`). `mistake?` finds it, so
that both are decidable and exclude each other (`mistake?_eq_none_iff`, `mistake?_eq_some_iff`).
-/

namespace SnippetBench.Document

open Text (IsLine)

/-! ### The parts of the line -/

/-- A line is a declaration line if it starts with the marker and the next character does not
continue the word. -/
def IsDeclaration (line : Text) : Prop :=
  ∃ c rest, line = marker ++ c :: rest ∧ Text.isWord c = false

/-- The blanks and tabs behind the marker. -/
def gapOf (line : Text) : Text := (line.drop marker.length).takeWhile isGap

/-- What stands between the gap and the line end. -/
def restOf (line : Text) : Text :=
  ((line.drop marker.length).dropWhile isGap).takeWhile (· != '\n')

/-- The name that a declaration line declares. -/
def nameOf (line : Text) : Text := Text.trim isNameTrim (restOf line)

theorem newline_notMem_marker : '\n' ∉ marker := by decide

theorem isGap_newline : isGap '\n' = false := by decide

theorem afterMarker?_append (c : Char) (t : Text) :
    afterMarker? (marker ++ c :: t) = if Text.isWord c then none else some (c :: t) := by
  have h : Text.after? marker (marker ++ c :: t) = some (c :: t) := by simp [Text.after?]
  rw [afterMarker?, h]
  cases hc : Text.isWord c <;> simp [Option.filter, hc]

theorem afterMarker?_eq_some {t rest : Text} (h : afterMarker? t = some rest) : t = marker ++ rest := by
  obtain ⟨h, -⟩ := Option.filter_eq_some_iff.mp h
  unfold Text.after? at h
  split at h
  · next hp =>
    obtain ⟨s, rfl⟩ := List.isPrefixOf_iff_prefix.mp hp
    rw [List.drop_left, Option.some.injEq] at h
    rw [h]
  · cases h

theorem isMarked_and_ne_iff {line : Text} :
    isMarked line = true ∧ line ≠ marker ↔ IsDeclaration line := by
  constructor
  · rintro ⟨h, hne⟩
    obtain ⟨rest, hrest⟩ := Option.isSome_iff_exists.mp h
    have heq := afterMarker?_eq_some hrest
    cases rest with
    | nil => exact absurd (by simpa using heq) hne
    | cons c rest =>
      rw [heq, afterMarker?_append] at hrest
      split at hrest
      · cases hrest
      · next hc => exact ⟨c, rest, heq, by simpa using hc⟩
  · rintro ⟨c, rest, rfl, hc⟩
    simp [isMarked, afterMarker?_append, hc]

instance (line : Text) : Decidable (IsDeclaration line) := decidable_of_iff _ isMarked_and_ne_iff

/-- Whether a text starts with a marker is decided by its first line. -/
theorem isMarked_line_append {line : Text} (hl : IsLine line) (u : Text) :
    isMarked (line ++ u) = true ↔ IsDeclaration line := by
  constructor
  · intro h
    have hne : line ++ u ≠ marker := fun e =>
      newline_notMem_marker (e ▸ List.mem_append_left u hl.newline_mem)
    obtain ⟨c, rest, heq, hc⟩ := isMarked_and_ne_iff.mp ⟨h, hne⟩
    rcases List.append_eq_append_iff.mp heq with ⟨s, hs, -⟩ | ⟨s, rfl, hs⟩
    · -- the line would end before the marker does, but the marker holds no `\n`
      exact absurd (hs ▸ List.mem_append_left s hl.newline_mem) newline_notMem_marker
    · cases s with
      | nil => exact absurd (by simpa using hl.newline_mem) newline_notMem_marker
      | cons d s =>
        simp only [List.cons_append, List.cons.injEq] at hs
        exact ⟨d, s, rfl, hs.1 ▸ hc⟩
  · rintro ⟨c, rest, rfl, hc⟩
    simp [isMarked, afterMarker?_append, hc]

theorem isMarked_content_append {line : Text} (h : ¬ IsDeclaration line) (hl : IsLine line) (u : Text) :
    isMarked (line ++ u) = false := by
  rw [← Bool.not_eq_true, isMarked_line_append hl]
  exact h

theorem isWord_newline : Text.isWord '\n' = false := by decide +kernel

section

variable {s tail cr body : Text} {e : Char}

/-- Whether a marker opens a line is decided by the character behind it, which may be the first one
of the line end. -/
theorem isDeclaration_append_iff (he : e ∉ marker) (hword : Text.isWord e = false) :
    IsDeclaration (body ++ e :: tail) ↔
      ∃ s, body = marker ++ s ∧ ∀ c, s.head? = some c → Text.isWord c = false := by
  constructor
  · rintro ⟨c, rest, heq, hc⟩
    rcases List.append_eq_append_iff.mp heq with ⟨s, hs, htail⟩ | ⟨s, rfl, htail⟩
    · -- the marker would reach beyond `body`, but it does not hold the next character
      cases s with
      | nil => exact ⟨[], by simpa using hs.symm, by simp⟩
      | cons d s =>
        rw [List.cons_append, List.cons.injEq] at htail
        exact absurd (by rw [hs, htail.1]; simp) he
    · refine ⟨s, rfl, fun d hd => ?_⟩
      obtain ⟨s, rfl⟩ := List.head?_eq_some_iff.mp hd
      rw [List.cons_append, List.cons.injEq] at htail
      exact htail.1 ▸ hc
  · rintro ⟨s, rfl, hs⟩
    rw [List.append_assoc]
    cases s with
    | nil => exact ⟨e, tail, rfl, hword⟩
    | cons d s => exact ⟨d, s ++ e :: tail, rfl, hs d rfl⟩

theorem gapOf_append (he : isGap e = false) (s tail : Text) :
    gapOf (marker ++ (s ++ e :: tail)) = s.takeWhile isGap := by
  rw [gapOf, List.drop_left, List.takeWhile_append]
  split
  · next hall =>
    have : s.takeWhile isGap = s := (List.takeWhile_prefix _).eq_of_length hall
    simp [this, he]
  · rfl

/-- A carriage return at the end of a line belongs to its rest. -/
theorem restOf_append (hs : '\n' ∉ s) (hcr : cr = [] ∨ cr = ['\r']) :
    restOf (marker ++ (s ++ (cr ++ ['\n']))) = s.dropWhile isGap ++ cr := by
  have hstop : (cr ++ ['\n']).dropWhile isGap = cr ++ ['\n'] := by rcases hcr with rfl | rfl <;> rfl
  have hdrop : (s ++ (cr ++ ['\n'])).dropWhile isGap = s.dropWhile isGap ++ cr ++ ['\n'] := by
    rw [List.dropWhile_append]
    split
    · next hall => rw [List.isEmpty_iff.mp hall, hstop, List.nil_append]
    · rw [List.append_assoc]
  have hplain : ∀ c ∈ s.dropWhile isGap ++ cr, (c != '\n') = true := by
    intro c hc
    have hne : c ≠ '\n' := by
      rintro rfl
      rcases List.mem_append.mp hc with hc | hc
      · exact hs ((List.dropWhile_sublist _).mem hc)
      · exact absurd hc (by rcases hcr with rfl | rfl <;> decide)
    simpa using hne
  rw [restOf, List.drop_left, hdrop]
  exact Text.takeWhile_run hplain (by simp)

theorem restOf_line (hs : '\n' ∉ s) : restOf (marker ++ (s ++ ['\n'])) = s.dropWhile isGap := by
  have h := restOf_append hs (Or.inl rfl : ([] : Text) = [] ∨ _)
  rwa [List.nil_append, List.append_nil] at h

end

/-- A declaration line is its parts one after the other. -/
theorem IsDeclaration.eq_append {line : Text} (h : IsDeclaration line) (hl : IsLine line) :
    line = marker ++ (gapOf line ++ (restOf line ++ ['\n'])) ∧ '\n' ∉ restOf line ∧
      (∀ c, (restOf line).head? = some c → isGap c = false) := by
  obtain ⟨body, hbody, rfl⟩ := hl
  obtain ⟨s, rfl, -⟩ := (isDeclaration_append_iff newline_notMem_marker isWord_newline).mp h
  have hs : '\n' ∉ s := fun m => hbody (List.mem_append_right _ m)
  rw [List.append_assoc, gapOf_append isGap_newline, restOf_line hs]
  refine ⟨?_, ?_, ?_⟩
  · rw [← List.append_assoc (s.takeWhile isGap), List.takeWhile_append_dropWhile]
  · exact fun m => hs ((List.dropWhile_sublist _).mem m)
  · exact fun d hd => Text.head?_dropWhile hd

/-! ### Well-formed rests and their first mistake -/

/-- The rest of a declaration line is well formed if it holds no brace, or is a name in braces with
blanks and tabs behind it and at most one carriage return at its end. -/
inductive WellFormed : Text → Prop
  | bare {rest : Text} (plain : ∀ c ∈ rest, isBrace c = false) : WellFormed rest
  | braced {inside gap cr : Text} (plain : ∀ c ∈ inside, isBrace c = false)
      (blank : ∀ c ∈ gap, isGap c = true) (hcr : cr = [] ∨ cr = ['\r']) :
      WellFormed ('{' :: (inside ++ '}' :: (gap ++ cr)))

/-- The first character of the rest of a declaration line that does not fit, by the number of
characters before it. -/
inductive Mistake : Text → Nat → Prop
  /-- A closing brace at the start. -/
  | closing {t : Text} : Mistake ('}' :: t) 0
  /-- An opening brace at the start that is not closed before another brace or the line end. -/
  | unclosed {inside t : Text} (plain : ∀ c ∈ inside, isBrace c = false)
      (stop : ∀ c, t.head? = some c → c = '{') : Mistake ('{' :: (inside ++ t)) 0
  /-- A brace behind a bare name. -/
  | brace {name t : Text} {b : Char} (hname : name ≠ []) (plain : ∀ c ∈ name, isBrace c = false)
      (hb : isBrace b = true) : Mistake (name ++ b :: t) name.length
  /-- Something behind a name in braces and its blanks and tabs. -/
  | trailing {inside gap t : Text} (plain : ∀ c ∈ inside, isBrace c = false)
      (blank : ∀ c ∈ gap, isGap c = true) (stop : ∀ c, t.head? = some c → isGap c = false)
      (hne : t ≠ []) (hcr : t ≠ ['\r']) :
      Mistake ('{' :: (inside ++ '}' :: (gap ++ t))) (inside.length + 2 + gap.length)

/-- The number of characters before the first mistake in the rest of a declaration line, if it has
one. -/
def mistake? : Text → Option Nat
  | '{' :: inside =>
    match inside.dropWhile (!isBrace ·) with
    | '}' :: after =>
      if after.dropWhile isGap = [] ∨ after.dropWhile isGap = ['\r'] then none
      else some ((inside.takeWhile (!isBrace ·)).length + 2 + (after.takeWhile isGap).length)
    | _ => some 0
  | rest =>
    if rest.dropWhile (!isBrace ·) = [] then none
    else some (rest.takeWhile (!isBrace ·)).length

section

variable {inside gap t name : Text}

/-- Characters that are no braces are passed over in search of the first brace. -/
theorem dropWhile_plain (plain : ∀ c ∈ name, isBrace c = false)
    (stop : ∀ c, t.head? = some c → isBrace c = true) : (name ++ t).dropWhile (!isBrace ·) = t :=
  Text.dropWhile_run (fun c hc => by rw [plain c hc]; rfl) (fun c hc => by rw [stop c hc]; rfl)

theorem takeWhile_plain (plain : ∀ c ∈ name, isBrace c = false)
    (stop : ∀ c, t.head? = some c → isBrace c = true) : (name ++ t).takeWhile (!isBrace ·) = name :=
  Text.takeWhile_run (fun c hc => by rw [plain c hc]; rfl) (fun c hc => by rw [stop c hc]; rfl)

/-- A name in braces leaves what stands behind it and its blanks and tabs. -/
theorem mistake?_braced (plain : ∀ c ∈ inside, isBrace c = false) (blank : ∀ c ∈ gap, isGap c = true)
    (stop : ∀ c, t.head? = some c → isGap c = false) :
    mistake? ('{' :: (inside ++ '}' :: (gap ++ t))) =
      if t = [] ∨ t = ['\r'] then none else some (inside.length + 2 + gap.length) := by
  have hstop : ∀ c, ('}' :: (gap ++ t)).head? = some c → isBrace c = true := by simp [isBrace]
  rw [mistake?, dropWhile_plain plain hstop, takeWhile_plain plain hstop]
  simp only [Text.dropWhile_run blank stop, Text.takeWhile_run blank stop]

theorem mistake?_unclosed (plain : ∀ c ∈ inside, isBrace c = false)
    (stop : ∀ c, t.head? = some c → c = '{') : mistake? ('{' :: (inside ++ t)) = some 0 := by
  rw [mistake?, dropWhile_plain plain fun c hc => by rw [stop c hc]; rfl]
  split
  · next after => exact absurd (stop '}' rfl) (by decide)
  · rfl

/-- A bare name leaves what stands behind it. -/
theorem mistake?_bare (hopen : (name ++ t).head? ≠ some '{') (plain : ∀ c ∈ name, isBrace c = false)
    (stop : ∀ c, t.head? = some c → isBrace c = true) :
    mistake? (name ++ t) = if t = [] then none else some name.length := by
  rw [mistake?, dropWhile_plain plain stop, takeWhile_plain plain stop]
  intro inside heq
  exact hopen (by rw [heq]; rfl)

theorem head?_ne_open (plain : ∀ c ∈ name, isBrace c = false) (ht : name = [] → t.head? ≠ some '{') :
    (name ++ t).head? ≠ some '{' := by
  cases name with
  | nil => exact ht rfl
  | cons c name =>
    intro h
    have hc := plain c List.mem_cons_self
    rw [show c = '{' by simpa using h] at hc
    exact absurd hc (by decide)

end

theorem WellFormed.mistake?_eq {rest : Text} (h : WellFormed rest) : mistake? rest = none := by
  cases h with
  | bare plain =>
    simpa using mistake?_bare (t := []) (head?_ne_open plain (by simp)) plain (by simp)
  | braced plain blank hcr =>
    rw [mistake?_braced plain blank (by rcases hcr with rfl | rfl <;> simp [isGap]), if_pos hcr]

theorem Mistake.mistake?_eq {rest : Text} {k : Nat} (h : Mistake rest k) : mistake? rest = some k := by
  cases h with
  | @closing t =>
    show mistake? ([] ++ '}' :: t) = some ([] : Text).length
    rw [mistake?_bare (by simp) (by simp) (by simp [isBrace]), if_neg (by simp)]
  | unclosed plain stop => exact mistake?_unclosed plain stop
  | brace hname plain hb =>
    rw [mistake?_bare (head?_ne_open plain fun h => absurd h hname) plain (by simp [hb])]
    simp
  | trailing plain blank stop hne hcr =>
    rw [mistake?_braced plain blank stop, if_neg (by simp [hne, hcr])]

/-- A text is cut at its first brace. -/
theorem exists_first_brace (t : Text) : ∃ plain behind, t = plain ++ behind ∧
    (∀ c ∈ plain, isBrace c = false) ∧ ∀ c, behind.head? = some c → isBrace c = true := by
  refine ⟨t.takeWhile (!isBrace ·), t.dropWhile (!isBrace ·), List.takeWhile_append_dropWhile.symm,
    fun c hc => ?_, fun c hc => ?_⟩
  · simpa using List.mem_takeWhile_imp hc
  · simpa using Text.head?_dropWhile hc

/-- Every rest is well formed or has a first mistake. -/
theorem wellFormed_or_mistake (rest : Text) : WellFormed rest ∨ ∃ k, Mistake rest k := by
  by_cases hopen : rest.head? = some '{'
  · obtain ⟨rest, rfl⟩ := List.head?_eq_some_iff.mp hopen
    obtain ⟨inside, behind, rfl, plain, stop⟩ := exists_first_brace rest
    cases behind with
    | nil => exact Or.inr ⟨0, .unclosed plain (by simp)⟩
    | cons b behind =>
      by_cases hb : b = '}'
      · subst hb
        have hcut := List.takeWhile_append_dropWhile (p := isGap) (l := behind)
        have blank : ∀ c ∈ behind.takeWhile isGap, isGap c = true :=
          fun c hc => List.mem_takeWhile_imp hc
        rw [← hcut]
        by_cases hend : behind.dropWhile isGap = [] ∨ behind.dropWhile isGap = ['\r']
        · exact Or.inl (.braced plain blank hend)
        · rw [not_or] at hend
          exact Or.inr ⟨_, .trailing plain blank (fun c hc => Text.head?_dropWhile hc) hend.1 hend.2⟩
      · have hopen : b = '{' := by simpa [isBrace, hb] using stop b rfl
        exact Or.inr ⟨0, .unclosed plain (by simp [hopen])⟩
  · obtain ⟨name, behind, rfl, plain, stop⟩ := exists_first_brace rest
    cases behind with
    | nil => exact Or.inl (.bare (by simpa using plain))
    | cons b behind =>
      cases name with
      | nil =>
        have hb : b = '}' := by
          have := stop b rfl
          simpa [isBrace, show b ≠ '{' by simpa using hopen] using this
        exact Or.inr ⟨0, by rw [hb]; exact .closing⟩
      | cons c name => exact Or.inr ⟨_, .brace (by simp) plain (stop b rfl)⟩

theorem mistake?_eq_none_iff {rest : Text} : mistake? rest = none ↔ WellFormed rest := by
  constructor
  · intro h
    rcases wellFormed_or_mistake rest with hw | ⟨k, hk⟩
    · exact hw
    · exact absurd (hk.mistake?_eq.symm.trans h) (by simp)
  · exact WellFormed.mistake?_eq

theorem mistake?_eq_some_iff {rest : Text} {k : Nat} : mistake? rest = some k ↔ Mistake rest k := by
  constructor
  · intro h
    rcases wellFormed_or_mistake rest with hw | ⟨j, hj⟩
    · exact absurd (hw.mistake?_eq.symm.trans h) (by simp)
    · rwa [← Option.some.inj (hj.mistake?_eq.symm.trans h)]
  · exact Mistake.mistake?_eq

/-! ### Carriage returns -/

section

variable {rest : Text} {k : Nat}

theorem plain_concat_return (plain : ∀ c ∈ rest, isBrace c = false) :
    ∀ c ∈ rest ++ ['\r'], isBrace c = false := by
  intro c hc
  rcases List.mem_append.mp hc with hc | hc
  · exact plain c hc
  · rw [List.mem_singleton.mp hc]
    decide

/-- A rest that is well formed stays so when the line gets a carriage return. -/
theorem WellFormed.concat_return (h : WellFormed rest) (hr : '\r' ∉ rest) :
    WellFormed (rest ++ ['\r']) := by
  cases h with
  | bare plain => exact .bare (plain_concat_return plain)
  | @braced inside gap cr plain blank hcr =>
    obtain rfl : cr = [] := hcr.resolve_right fun e => hr (by simp [e])
    have happ : '{' :: (inside ++ '}' :: (gap ++ [])) ++ ['\r'] =
        '{' :: (inside ++ '}' :: (gap ++ ['\r'])) := by simp
    rw [happ]
    exact .braced plain blank (Or.inr rfl)

/-- A mistake stays where it is when the line gets a carriage return. -/
theorem Mistake.concat_return (h : Mistake rest k) : Mistake (rest ++ ['\r']) k := by
  cases h with
  | closing => exact .closing
  | @unclosed inside s plain stop =>
    rw [List.cons_append, List.append_assoc]
    cases s with
    | nil => simpa using Mistake.unclosed (t := []) (plain_concat_return plain) (by simp)
    | cons c s => exact .unclosed plain stop
  | brace hname plain hb =>
    rw [List.append_assoc]
    exact .brace hname plain hb
  | @trailing inside gap s plain blank stop hne hcr =>
    have happ : '{' :: (inside ++ '}' :: (gap ++ s)) ++ ['\r'] =
        '{' :: (inside ++ '}' :: (gap ++ (s ++ ['\r']))) := by simp
    obtain ⟨c, s, rfl⟩ := List.exists_cons_of_ne_nil hne
    rw [happ]
    exact .trailing plain blank (by simpa using stop) (by simp) (by simp)

theorem mistake?_concat_return (hr : '\r' ∉ rest) : mistake? (rest ++ ['\r']) = mistake? rest := by
  rcases wellFormed_or_mistake rest with h | ⟨k, h⟩
  · rw [h.mistake?_eq, (h.concat_return hr).mistake?_eq]
  · rw [h.mistake?_eq, h.concat_return.mistake?_eq]

end

end SnippetBench.Document
