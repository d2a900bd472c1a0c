import SnippetBench.Proofs.Script.Indent
import SnippetBench.Proofs.Script.Layout

/-!
# Indentation line by line

Indentation cuts a text at more characters than `\n`, but a cut at `\n` does not depend on the others:
indenting a text is indenting its lines one by one (`splitOn_indent`). A line is indented as a whole,
with the margin before it unless it is blank, exactly if behind every line break character in it there
are only blanks (`indent_eq_indentLine_iff`). Otherwise a margin is put behind that character, into the
middle of the line.
-/

namespace SnippetBench.Script

open Text (Broken IsUnbroken breakLines flatten_breakLines isAllBlank isLineBreak)

variable {margin line : Text} {lines : List Text}

/-! ### Indenting line by line -/

theorem indentLine_append_newline (margin line : Text) :
    indentLine margin (line ++ ['\n']) = indentLine margin line ++ ['\n'] := by
  have hblank : isAllBlank (line ++ ['\n']) = isAllBlank line := by
    simp [isAllBlank, isBlank_newline]
  rw [indentLine, indentLine, hblank]
  split
  · rfl
  · rw [List.append_assoc]

theorem breakLines_newline_cons (rest : Text) :
    breakLines ('\n' :: rest) = ['\n'] :: breakLines rest :=
  Text.breakLines_cons_of_isLineBreak (by decide) (by simp)

theorem indent_newline_cons (margin rest : Text) :
    indent margin ('\n' :: rest) = '\n' :: indent margin rest := by
  rw [indent, breakLines_newline_cons]
  rfl

theorem indent_of_breakLines {t rest : Text} (h : breakLines t = line :: breakLines rest) :
    indent margin t = indentLine margin line ++ indent margin rest := by
  rw [indent, h]
  rfl

/-- Broken lines without `\n` are indented in the same way if `\n` and more text follows. -/
theorem indent_flatten_append_newline (h : Broken lines) (hline : '\n' ∉ lines.flatten) (rest : Text) :
    indent margin (lines.flatten ++ '\n' :: rest) =
      lines.flatMap (indentLine margin) ++ '\n' :: indent margin rest := by
  induction h with
  | nil => exact indent_newline_cons margin rest
  | @last body hne hbody =>
    have hbreak : breakLines (body ++ '\n' :: rest) = (body ++ ['\n']) :: breakLines rest :=
      Text.breakLines_body_append hbody (breakLines_newline_cons rest)
    rw [List.flatten_singleton, indent_of_breakLines hbreak, indentLine_append_newline]
    simp
  | @cons body ending lines hbody hending hapart h ih =>
    have hlines : '\n' ∉ lines.flatten := fun hmem => hline (by simp [hmem])
    rw [List.flatten_cons, List.flatMap_cons, List.append_assoc, List.append_assoc, List.append_assoc]
    by_cases hreturn : ending = ['\r'] ∧ lines = []
    · -- The carriage return and the line feed behind it are one line end.
      obtain ⟨rfl, rfl⟩ := hreturn
      have hdouble : breakLines (['\r', '\n'] ++ rest) = ['\r', '\n'] :: breakLines rest :=
        Text.breakLines_lineEnd_append .double (by simp)
      have hbreak : breakLines (body ++ (['\r'] ++ '\n' :: rest)) =
          (body ++ ['\r'] ++ ['\n']) :: breakLines rest := by
        rw [List.append_assoc]
        exact Text.breakLines_body_append hbody hdouble
      rw [List.flatten_nil, List.nil_append, indent_of_breakLines hbreak, indentLine_append_newline,
        List.append_assoc]
      rfl
    · have hhead : ending = ['\r'] → (lines.flatten ++ '\n' :: rest).head? ≠ some '\n' := by
        intro hending'
        obtain ⟨first, lines, rfl⟩ := List.exists_cons_of_ne_nil fun e => hreturn ⟨hending', e⟩
        obtain ⟨c, first, rfl⟩ := List.exists_cons_of_ne_nil h.ne_nil
        exact hapart hending'
      have hbreak := Text.breakLines_body_append hbody (Text.breakLines_lineEnd_append hending hhead)
      rw [indent_of_breakLines hbreak, ih hlines]

/-- A line is indented in the same way if more lines follow. -/
theorem indent_append_newline (h : '\n' ∉ line) (margin rest : Text) :
    indent margin (line ++ '\n' :: rest) = indent margin line ++ '\n' :: indent margin rest := by
  have hindent : indent margin ((breakLines line).flatten ++ '\n' :: rest) =
      indent margin line ++ '\n' :: indent margin rest :=
    indent_flatten_append_newline (Text.broken_breakLines line) (by rwa [flatten_breakLines]) rest
  rwa [flatten_breakLines] at hindent

theorem newline_notMem_indent (hmargin : '\n' ∉ margin) (h : '\n' ∉ line) :
    '\n' ∉ indent margin line := by
  intro hmem
  obtain ⟨part, hpart, hmem⟩ := List.mem_flatMap.mp hmem
  have hmem' : '\n' ∈ part := by
    split at hmem
    · exact hmem
    · exact (List.mem_append.mp hmem).resolve_left hmargin
  exact h (flatten_breakLines line ▸ List.mem_flatten.mpr ⟨part, hpart, hmem'⟩)

/-- The lines of an indented text are the indented lines of the text. -/
theorem splitOn_indent (hmargin : '\n' ∉ margin) (t : Text) :
    List.splitOn '\n' (indent margin t) = (List.splitOn '\n' t).map (indent margin) := by
  induction hlength : t.length using Nat.strong_induction_on generalizing t with
  | _ n ih =>
    by_cases hmem : '\n' ∈ t
    · obtain ⟨line, rest, rfl, hline⟩ := List.eq_append_cons_of_mem hmem
      rw [indent_append_newline hline,
        List.splitOn_append_cons_self_of_not_mem (newline_notMem_indent hmargin hline),
        List.splitOn_append_cons_self_of_not_mem hline, List.map_cons, ih _ _ rest rfl]
      rw [← hlength, List.length_append, List.length_cons]
      omega
    · rw [List.splitOn_eq_singleton (newline_notMem_indent hmargin hmem),
        List.splitOn_eq_singleton hmem, List.map_singleton]

/-! ### Lines that are indented as a whole -/

/-- Behind every line break character in the line there are only blanks. -/
def BreaksAtEnd (line : Text) : Prop :=
  ∀ before c after, line = before ++ c :: after → isLineBreak c = true → isAllBlank after = true

theorem isBlank_of_isLineBreak {c : Char} (h : isLineBreak c = true) : Text.isBlank c = true := by
  have hcodes : ∀ n ∈ Text.lineBreakCodes, Text.isBlank (Char.ofNat n) = true := by decide
  obtain ⟨n, hn, rfl⟩ := Text.exists_code_of_isLineBreak h
  exact hcodes n hn

theorem notMem_of_isUnbroken {t : Text} (h : IsUnbroken t) {c : Char} (hc : isLineBreak c = true) :
    c ∉ t := fun hmem => by
  rw [h c hmem] at hc
  cases hc

theorem isAllBlank_of_isLineEnd {ending : Text} (h : Text.IsLineEnd ending) :
    isAllBlank ending = true := by
  cases h with
  | single hc => simp [isAllBlank, isBlank_of_isLineBreak hc]
  | double => decide

theorem exists_last_of_isLineEnd {ending : Text} (h : Text.IsLineEnd ending) :
    ∃ front c, ending = front ++ [c] ∧ isLineBreak c = true := by
  cases h with
  | single hc => exact ⟨[], _, rfl, hc⟩
  | double => exact ⟨['\r'], '\n', rfl, by decide⟩

theorem isAllBlank_flatten {parts : List Text} :
    isAllBlank parts.flatten = true ↔ ∀ part ∈ parts, isAllBlank part = true := by
  simp [isAllBlank]

/-- A line breaks at its end only exactly if there are only blanks in its broken lines but the first. -/
theorem breaksAtEnd_iff {first : Text} {others : List Text} (h : Broken (first :: others)) :
    BreaksAtEnd (first ++ others.flatten) ↔ ∀ part ∈ others, isAllBlank part = true := by
  rw [← isAllBlank_flatten]
  cases h with
  | last hne hbody =>
    refine ⟨fun _ => rfl, fun _ before c after hline hc => ?_⟩
    rw [List.flatten_nil, List.append_nil] at hline
    exact absurd (by simp [hline]) (notMem_of_isUnbroken hbody hc)
  | @cons body ending _ hbody hending hapart h =>
    constructor
    · intro hbreaks
      obtain ⟨front, c, rfl, hc⟩ := exists_last_of_isLineEnd hending
      exact hbreaks (body ++ front) c others.flatten (by simp) hc
    · intro hblank before c after hline hc
      have hrest : isAllBlank (ending ++ others.flatten) = true := by
        have hending' := isAllBlank_of_isLineEnd hending
        rw [isAllBlank] at hending' hblank ⊢
        rw [List.all_append, hending', hblank]
        rfl
      rw [List.append_assoc] at hline
      have hafter : ∀ {t : Text}, c :: after <:+ t → isAllBlank t = true → isAllBlank after = true :=
        fun hsuffix ht => List.all_eq_true.mpr fun d hd =>
          List.all_eq_true.mp ht d (hsuffix.subset (List.mem_cons_of_mem c hd))
      rcases List.append_eq_append_iff.mp hline with ⟨s, -, hs⟩ | ⟨s, rfl, hs⟩
      · exact hafter ⟨s, hs.symm⟩ hrest
      · cases s with
        | nil => exact hafter (by rw [hs]; exact List.suffix_rfl) hrest
        | cons d s =>
          -- The line break character would stand in the body of the line.
          obtain ⟨rfl, -⟩ := List.cons.inj hs
          exact absurd (by simp) (notMem_of_isUnbroken hbody hc)

/-! ### The margin inside a line -/

theorem length_flatten_le (margin : Text) (lines : List Text) :
    lines.flatten.length ≤ (lines.flatMap (indentLine margin)).length := by
  induction lines with
  | nil => exact Nat.le_refl 0
  | cons line lines ih =>
    have hline : line.length ≤ (indentLine margin line).length := by
      unfold indentLine
      split <;> simp
    rw [List.flatten_cons, List.flatMap_cons, List.length_append, List.length_append]
    omega

/-- Indenting lines adds a margin to them unless they are all blank. -/
theorem flatMap_indentLine_eq_flatten_iff (hmargin : margin ≠ []) :
    lines.flatMap (indentLine margin) = lines.flatten ↔ ∀ line ∈ lines, isAllBlank line = true := by
  induction lines with
  | nil => simp
  | cons line lines ih =>
    rw [List.flatMap_cons, List.flatten_cons, List.forall_mem_cons]
    by_cases hline : isAllBlank line = true
    · rw [indentLine, if_pos hline, List.append_cancel_left_eq, ih]
      exact ⟨fun h => ⟨hline, h⟩, fun h => h.2⟩
    · refine ⟨fun h => ?_, fun h => absurd h.1 hline⟩
      have hlength := congrArg List.length h
      have hmargin' := List.length_pos_iff.mpr hmargin
      have hle := length_flatten_le margin lines
      rw [indentLine, if_neg hline, List.length_append, List.length_append, List.length_append]
        at hlength
      omega

/-- A margin before a line end moves it. -/
theorem append_lineEnd_ne (hmargin : margin ≠ []) (hunbroken : IsUnbroken margin) {body ending : Text}
    (hbody : IsUnbroken body) (hending : Text.IsLineEnd ending) (a b : Text) :
    body ++ (ending ++ a) ≠ margin ++ body ++ (ending ++ b) := by
  have hstop : ∀ t c, (ending ++ t).head? = some c → (!isLineBreak c) = false := by
    intro t c hc
    cases hending with
    | single hbreak =>
      obtain rfl := Option.some.inj hc
      simp [hbreak]
    | double =>
      obtain rfl := Option.some.inj hc
      decide
  have hrun : ∀ c ∈ margin ++ body, (!isLineBreak c) = true := by
    intro c hc
    rcases List.mem_append.mp hc with hc | hc
    · simp [hunbroken c hc]
    · simp [hbody c hc]
  intro h
  have hcut := congrArg (List.takeWhile fun c => !isLineBreak c) h
  rw [Text.takeWhile_run (fun c hc => hrun c (List.mem_append_right margin hc)) (hstop a),
    Text.takeWhile_run hrun (hstop b)] at hcut
  exact hmargin (List.append_left_eq_self.mp hcut.symm)

/-- Broken lines are indented as one line exactly if all but the first are all blank. -/
theorem indentLine_flatten_iff (hmargin : margin ≠ []) (hunbroken : IsUnbroken margin) {first : Text}
    {others : List Text} (h : Broken (first :: others)) :
    indentLine margin first ++ others.flatMap (indentLine margin) =
        indentLine margin (first ++ others.flatten) ↔
      ∀ part ∈ others, isAllBlank part = true := by
  have hblank : isAllBlank (first ++ others.flatten) =
      (isAllBlank first && isAllBlank others.flatten) := List.all_append
  have hiff : others.flatMap (indentLine margin) = others.flatten ↔
      ∀ part ∈ others, isAllBlank part = true := flatMap_indentLine_eq_flatten_iff hmargin
  rw [indentLine, indentLine, hblank]
  cases hfirst : isAllBlank first with
  | false =>
    -- The margin stands before the line in both forms.
    rw [if_neg (by simp), Bool.false_and, if_neg (by simp), List.append_assoc,
      List.append_cancel_left_eq, List.append_cancel_left_eq, hiff]
  | true =>
    cases hothers : isAllBlank others.flatten with
    | true => rw [if_pos rfl, Bool.and_true, if_pos rfl, List.append_cancel_left_eq, hiff]
    | false =>
      -- The margin is not before the first part, so it cannot be before the line.
      rw [if_pos rfl, Bool.and_false, if_neg (by simp), ← isAllBlank_flatten, hothers]
      refine ⟨fun heq => absurd heq ?_, fun hall => by cases hall⟩
      cases h with
      | last => cases hothers
      | cons hbody hending =>
        rw [List.append_assoc, List.append_assoc, ← List.append_assoc margin]
        exact append_lineEnd_ne hmargin hunbroken hbody hending _ _

/-- A line is indented as a whole exactly if it breaks at its end only. -/
theorem indent_eq_indentLine_iff (hmargin : margin ≠ []) (hunbroken : IsUnbroken margin)
    (line : Text) : indent margin line = indentLine margin line ↔ BreaksAtEnd line := by
  have hflatten := flatten_breakLines line
  have hbroken := Text.broken_breakLines line
  cases hlines : breakLines line with
  | nil =>
    rw [hlines] at hflatten
    obtain rfl : [] = line := hflatten
    refine ⟨fun _ before c after hnil => ?_, fun _ => rfl⟩
    simp at hnil
  | cons first others =>
    rw [hlines] at hflatten hbroken
    rw [indent, hlines, List.flatMap_cons, ← hflatten, List.flatten_cons, breaksAtEnd_iff hbroken]
    exact indentLine_flatten_iff hmargin hunbroken hbroken

end SnippetBench.Script
