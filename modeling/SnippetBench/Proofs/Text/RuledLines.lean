import SnippetBench.Proofs.Text.Join
import SnippetBench.Proofs.Text.Trim
import SnippetBench.Proofs.Text.UniversalLines

/-!
# Lines with the line ends that they have

A reader of texts ends a line at `\n`, `\r` and `\r\n` alike. Such lines are kept here with the line
ends that they have, so that they make up the text one after the other (`Ruled`). Every text is ruled
in exactly one way (`ruled_iff`), and what stands behind a `\n` is ruled by itself (`ofText_append`).
Read with `\n` for every line end, the text has the same lines (`Ruled.universalLines_eq`); joined,
they are the text without its final line end (`Ruled.join_bodies`).
-/

namespace SnippetBench.Text

/-- A line: its characters, and the line end that it has. -/
structure Line where
  body : Text
  ending : Text
  deriving DecidableEq, Repr

/-- A text without line ends. -/
def IsOneLine (t : Text) : Prop := '\n' ∉ t ∧ '\r' ∉ t

instance (t : Text) : Decidable (IsOneLine t) := inferInstanceAs (Decidable (_ ∧ _))

/-- What ends a line for a reader of texts. -/
inductive IsNewline : Text → Prop
  | feed : IsNewline ['\n']
  | carriage : IsNewline ['\r']
  | both : IsNewline ['\r', '\n']

/-- In `Ruled t lines` the text `t` is the lines one after the other. Every line has one line end; the
last one may have none. -/
inductive Ruled : Text → List Line → Prop
  /-- There may be no lines. -/
  | nil : Ruled [] []
  /-- The last line may have no line end, but is not empty then. -/
  | last {body : Text} (hne : body ≠ []) (hbody : IsOneLine body) : Ruled body [⟨body, []⟩]
  /-- A line with its line end stands before others. A carriage return and a line feed at the start
  of the next line would be one line end. -/
  | cons {body ending rest : Text} {lines : List Line} (hbody : IsOneLine body)
      (hending : IsNewline ending) (hapart : ending = ['\r'] → rest.head? ≠ some '\n')
      (h : Ruled rest lines) : Ruled (body ++ (ending ++ rest)) (⟨body, ending⟩ :: lines)

namespace Line

/-- The text of a line. -/
def text (l : Line) : Text := l.body ++ l.ending

/-- The text of a line with `\n` for its line end, if it has one. -/
def normalized (l : Line) : Text := l.body ++ if l.ending = [] then [] else ['\n']

/-- The text that lines make up. -/
def textOf (lines : List Line) : Text := lines.flatMap text

/-- The lines of a text. -/
def ofText : Text → List Line
  | [] => []
  | '\r' :: '\n' :: rest => ⟨[], ['\r', '\n']⟩ :: ofText rest
  | c :: rest =>
    if c = '\n' ∨ c = '\r' then ⟨[], [c]⟩ :: ofText rest
    else match ofText rest with
      | [] => [⟨[c], []⟩]
      | line :: lines => ⟨c :: line.body, line.ending⟩ :: lines

end Line

variable {body ending rest s t : Text} {line : Line} {lines ls : List Line}

@[simp] theorem isOneLine_nil : IsOneLine [] := by simp [IsOneLine]

theorem isOneLine_cons {c : Char} :
    IsOneLine (c :: t) ↔ (c ≠ '\n' ∧ c ≠ '\r') ∧ IsOneLine t := by
  simp [IsOneLine, eq_comm]
  tauto

theorem isOneLine_append : IsOneLine (s ++ t) ↔ IsOneLine s ∧ IsOneLine t := by
  simp [IsOneLine]
  tauto

theorem IsNewline.ne_nil (h : IsNewline ending) : ending ≠ [] := by
  cases h <;> simp

/-! ### Cutting a text into its lines -/

theorem ofText_newline_append (hending : IsNewline ending)
    (hapart : ending = ['\r'] → rest.head? ≠ some '\n') :
    Line.ofText (ending ++ rest) = ⟨[], ending⟩ :: Line.ofText rest := by
  cases hending with
  | feed => simp [Line.ofText]
  | carriage =>
    rw [List.singleton_append, Line.ofText, if_pos (.inr rfl)]
    rintro rest' - rfl
    exact hapart rfl rfl
  | both => rfl

theorem ofText_cons_of_ne {c : Char} (hc : c ≠ '\n' ∧ c ≠ '\r') (h : Line.ofText rest = line :: lines) :
    Line.ofText (c :: rest) = ⟨c :: line.body, line.ending⟩ :: lines := by
  rw [Line.ofText, if_neg (by simp [hc]), h]
  rintro rest' rfl -
  exact hc.2 rfl

theorem ofText_body_append (hbody : IsOneLine body) (h : Line.ofText rest = line :: lines) :
    Line.ofText (body ++ rest) = ⟨body ++ line.body, line.ending⟩ :: lines := by
  induction body with
  | nil => exact h
  | cons c body ih =>
    obtain ⟨hc, hbody⟩ := isOneLine_cons.mp hbody
    exact ofText_cons_of_ne hc (ih hbody)

theorem ofText_oneLine (hne : body ≠ []) (hbody : IsOneLine body) :
    Line.ofText body = [⟨body, []⟩] := by
  obtain ⟨init, c, rfl⟩ := (List.eq_nil_or_concat' body).resolve_left hne
  obtain ⟨hinit, hc⟩ := isOneLine_append.mp hbody
  have hc := (isOneLine_cons.mp hc).1
  have hlast : Line.ofText [c] = [⟨[c], []⟩] := by
    rw [Line.ofText, if_neg (by simp [hc])]
    · rfl
    · rintro rest' rfl ⟨⟩
  exact ofText_body_append hinit hlast

/-- A ruled text is cut into the lines of which it consists. -/
theorem Ruled.ofText_eq (h : Ruled t lines) : Line.ofText t = lines := by
  induction h with
  | nil => rfl
  | last hne hbody => exact ofText_oneLine hne hbody
  | cons hbody hending hapart _ ih =>
    have hcut := ofText_newline_append hending hapart
    rw [ih] at hcut
    simpa using ofText_body_append hbody hcut

/-- A character that ends no line before a ruled text begins its first line. -/
theorem Ruled.cons_head {c : Char} (hc : c ≠ '\n' ∧ c ≠ '\r') (h : Ruled t (line :: lines)) :
    Ruled (c :: t) (⟨c :: line.body, line.ending⟩ :: lines) := by
  cases h with
  | last hne hbody => exact .last (by simp) (isOneLine_cons.mpr ⟨hc, hbody⟩)
  | cons hbody hending hapart h =>
    exact .cons (isOneLine_cons.mpr ⟨hc, hbody⟩) hending hapart h

theorem ruled_ofText (t : Text) : Ruled t (Line.ofText t) := by
  fun_induction Line.ofText t with
  | case1 => exact .nil
  | case2 rest ih => exact .cons isOneLine_nil .both (by simp) ih
  | case3 c rest hne hc ih =>
    have hending : IsNewline [c] := by
      rcases hc with rfl | rfl
      · exact .feed
      · exact .carriage
    refine .cons isOneLine_nil hending ?_ ih
    intro hreturn hhead
    obtain ⟨rest', rfl⟩ : ∃ rest', rest = '\n' :: rest' := by
      cases rest with
      | nil => simp at hhead
      | cons d rest' => exact ⟨rest', by simpa using hhead⟩
    exact hne rest' (by simpa using hreturn) rfl
  | case4 c rest _ hc hnil ih =>
    rw [hnil] at ih
    cases ih
    exact .last (by simp) (isOneLine_cons.mpr ⟨by simpa using hc, isOneLine_nil⟩)
  | case5 c rest _ hc line lines hlines ih =>
    rw [hlines] at ih
    exact ih.cons_head (by simpa using hc)

/-- **Every text is ruled in exactly one way.** -/
theorem ruled_iff : Ruled t lines ↔ Line.ofText t = lines :=
  ⟨Ruled.ofText_eq, fun h => h ▸ ruled_ofText t⟩

theorem Ruled.textOf_eq (h : Ruled t lines) : Line.textOf lines = t := by
  induction h with
  | nil => rfl
  | last => simp [Line.textOf, Line.text]
  | cons _ _ _ _ ih =>
    rw [Line.textOf] at ih
    simp [Line.textOf, Line.text, ih]

theorem textOf_ofText (t : Text) : Line.textOf (Line.ofText t) = t := (ruled_ofText t).textOf_eq

theorem Ruled.isOneLine (h : Ruled t lines) (hline : line ∈ lines) : IsOneLine line.body := by
  induction h with
  | nil => cases hline
  | last _ hbody =>
    rw [List.mem_singleton.mp hline]
    exact hbody
  | cons hbody _ _ _ ih =>
    rcases List.mem_cons.mp hline with rfl | hline
    · exact hbody
    · exact ih hline

theorem Ruled.text_ne_nil (h : Ruled t lines) (hline : line ∈ lines) : line.text ≠ [] := by
  induction h with
  | nil => cases hline
  | last hne _ =>
    rw [List.mem_singleton.mp hline]
    simpa [Line.text] using hne
  | cons _ hending _ _ ih =>
    rcases List.mem_cons.mp hline with rfl | hline
    · simp [Line.text, hending.ne_nil]
    · exact ih hline

/-! ### Texts one behind the other -/

theorem textOf_append (lines ls : List Line) :
    Line.textOf (lines ++ ls) = Line.textOf lines ++ Line.textOf ls :=
  List.flatMap_append

theorem eq_nil_of_textOf_eq_nil (hne : ∀ l ∈ lines, l.text ≠ []) (h : Line.textOf lines = []) :
    lines = [] :=
  List.eq_nil_iff_forall_not_mem.mpr fun l hl => hne l hl (List.flatMap_eq_nil_iff.mp h l hl)

theorem Ruled.append (h : Ruled s lines) (hend : s.getLast? = some '\n') (ht : Ruled t ls) :
    Ruled (s ++ t) (lines ++ ls) := by
  induction h with
  | nil => cases hend
  | last _ hbody => exact absurd (List.mem_of_getLast? hend) hbody.1
  | @cons body ending rest lines hbody hending hapart h ih =>
    rw [List.append_assoc, List.append_assoc]
    by_cases hrest : rest = []
    · -- the line end is the one at the end of the text, so it is no single carriage return
      subst hrest
      obtain rfl : lines = [] := h.ofText_eq.symm
      refine .cons hbody hending ?_ ht
      rintro rfl
      simp at hend
    · have hlast : rest.getLast? = some '\n' := by
        rwa [← List.append_assoc, List.getLast?_append_of_ne_nil _ hrest] at hend
      refine .cons hbody hending ?_ (ih hlast)
      rwa [List.head?_append_of_ne_nil _ hrest]

/-- **What stands behind a line end** is cut by itself. -/
theorem ofText_append (hend : s.getLast? = some '\n') (t : Text) :
    Line.ofText (s ++ t) = Line.ofText s ++ Line.ofText t :=
  ((ruled_ofText s).append hend (ruled_ofText t)).ofText_eq

/-! ### Line ends replaced -/

theorem normalizeNewlines_newline_append (hending : IsNewline ending)
    (hapart : ending = ['\r'] → rest.head? ≠ some '\n') :
    normalizeNewlines (ending ++ rest) = '\n' :: normalizeNewlines rest := by
  cases hending with
  | feed => exact normalizeNewlines_cons (by decide) rest
  | carriage => exact normalizeNewlines_return (hapart rfl)
  | both => rfl

theorem normalizeNewlines_eq_self (h : '\r' ∉ t) : normalizeNewlines t = t := by
  have happend := normalizeNewlines_append_of_notMem h []
  rwa [List.append_nil, normalizeNewlines, List.append_nil] at happend

/-- **The lines with `\n` for every line end** are the same lines. -/
theorem Ruled.universalLines_eq (h : Ruled t lines) :
    universalLines t = lines.map Line.normalized := by
  induction h with
  | nil => rfl
  | @last body hne hbody =>
    rw [universalLines, normalizeNewlines_eq_self hbody.2, newlineLines_of_notMem hne hbody.1]
    simp [Line.normalized]
  | cons hbody hending hapart _ ih =>
    rw [universalLines] at ih ⊢
    rw [normalizeNewlines_append_of_notMem hbody.2, normalizeNewlines_newline_append hending hapart,
      newlineLines_append_newline hbody.1, ih]
    simp [Line.normalized, hending.ne_nil]

/-- Nothing is taken off the end of a text without line ends. -/
theorem IsOneLine.trimEnd_eq (h : IsOneLine t) : trimEnd isFeedOrReturn t = t := by
  refine trimEnd_eq_self fun c hc => ?_
  have hmem := List.mem_of_getLast? hc
  have hne : c ≠ '\n' ∧ c ≠ '\r' := ⟨fun e => h.1 (e ▸ hmem), fun e => h.2 (e ▸ hmem)⟩
  simp [isFeedOrReturn, hne]

theorem trimEnd_normalized (h : IsOneLine line.body) :
    trimEnd isFeedOrReturn line.normalized = line.body := by
  rw [Line.normalized, trimEnd_append_of_all ?_, h.trimEnd_eq]
  split <;> simp [isFeedOrReturn]

/-- Without their line ends the lines are the bodies. -/
theorem Ruled.map_trimEnd (h : Ruled t lines) :
    (universalLines t).map (trimEnd isFeedOrReturn) = lines.map Line.body := by
  rw [h.universalLines_eq, List.map_map]
  exact List.map_congr_left fun line hline => trimEnd_normalized (h.isOneLine hline)

/-! ### Lines joined -/

/-- The text without the `\n` at its end, if it has one. -/
def withoutFinalNewline (t : Text) : Text := if t.getLast? = some '\n' then t.dropLast else t

theorem withoutFinalNewline_of_notMem (h : '\n' ∉ t) : withoutFinalNewline t = t :=
  if_neg fun hend => h (List.mem_of_getLast? hend)

theorem withoutFinalNewline_concat (t : Text) : withoutFinalNewline (t ++ ['\n']) = t := by
  simp [withoutFinalNewline]

/-- The final line end is that of the part at the end. -/
theorem withoutFinalNewline_append (s : Text) (hne : t ≠ []) :
    withoutFinalNewline (s ++ t) = s ++ withoutFinalNewline t := by
  rw [withoutFinalNewline, withoutFinalNewline, List.getLast?_append_of_ne_nil _ hne]
  split
  · exact List.dropLast_append_of_ne_nil hne
  · rfl

theorem normalizeNewlines_ne_nil (hne : t ≠ []) : normalizeNewlines t ≠ [] := by
  fun_cases normalizeNewlines t with
  | case1 => exact absurd rfl hne
  | case2 | case3 | case4 => simp

/-- **Joined, the lines are the text** with `\n` for every line end, but without the one at its end. -/
theorem Ruled.join_bodies (h : Ruled t lines) :
    join ['\n'] (lines.map Line.body) = withoutFinalNewline (normalizeNewlines t) := by
  induction h with
  | nil => rfl
  | @last body hne hbody =>
    rw [normalizeNewlines_eq_self hbody.2, withoutFinalNewline_of_notMem hbody.1]
    simp [join_cons]
  | @cons body ending rest lines hbody hending hapart h ih =>
    rw [normalizeNewlines_append_of_notMem hbody.2, normalizeNewlines_newline_append hending hapart]
    by_cases hrest : rest = []
    · subst hrest
      obtain rfl : lines = [] := h.ofText_eq.symm
      rw [normalizeNewlines, withoutFinalNewline_concat]
      simp [join_cons]
    · have hne : lines.map Line.body ≠ [] := by
        intro hnil
        rw [List.map_eq_nil_iff.mp hnil] at h
        exact hrest h.textOf_eq.symm
      rw [join, List.map_cons, List.intercalate_cons_of_ne_nil hne, ← join, ih,
        withoutFinalNewline_append _ (by simp)]
      have hrest' := withoutFinalNewline_append ['\n'] (normalizeNewlines_ne_nil hrest)
      simpa using hrest'.symm

end SnippetBench.Text
