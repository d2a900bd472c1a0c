import SnippetBench.Text.Lines
import Mathlib.Data.List.Basic

/-!
# Texts and their lines

A line is a run of characters other than `\n` that ends in one `\n`. A text that ends in `\n` is its
lines one after the other, and any list of lines is the list of lines of the text that they make up
(`newlineLines_flatten`, `flatten_newlineLines`). So a statement about such a text may be proved by
induction on its lines. A text that does not end in `\n` has one piece more (`Cut`), and its pieces
are determined in the same way (`Cut.newlineLines_flatten`, `cut_newlineLines`).
-/

namespace SnippetBench.Text

/-- A line with its line end. -/
def IsLine (l : Text) : Prop := ∃ body, '\n' ∉ body ∧ l = body ++ ['\n']

theorem IsLine.ne_nil {l : Text} (h : IsLine l) : l ≠ [] := by
  obtain ⟨body, -, rfl⟩ := h
  simp

theorem IsLine.getLast? {l : Text} (h : IsLine l) : l.getLast? = some '\n' := by
  obtain ⟨body, -, rfl⟩ := h
  simp

theorem IsLine.newline_mem {l : Text} (h : IsLine l) : '\n' ∈ l := by
  obtain ⟨body, -, rfl⟩ := h
  simp

theorem IsLine.cons {l : Text} {c : Char} (hc : c ≠ '\n') (h : IsLine l) : IsLine (c :: l) := by
  obtain ⟨body, hbody, rfl⟩ := h
  exact ⟨c :: body, by simp [hbody, Ne.symm hc], rfl⟩

/-- What stands behind a text without `\n` at the start of a line is the end of that line. -/
theorem IsLine.of_append {a b : Text} (h : IsLine (a ++ b)) (ha : '\n' ∉ a) : IsLine b := by
  obtain ⟨body, hbody, heq⟩ := h
  rcases List.append_eq_append_iff.mp heq with ⟨s, rfl, rfl⟩ | ⟨s, rfl, hs⟩
  · exact ⟨s, fun m => hbody (List.mem_append_right a m), rfl⟩
  · cases s with
    | nil => exact ⟨[], by simp, by simpa using hs.symm⟩
    | cons c s =>
      simp only [List.cons_append, List.cons.injEq] at hs
      exact absurd (hs.1 ▸ List.mem_append_right body List.mem_cons_self) ha

/-- Nothing stands behind the `\n` of a line. -/
theorem IsLine.eq_nil_of_newline {a b : Text} (h : IsLine (a ++ '\n' :: b)) : b = [] := by
  obtain ⟨body, hbody, heq⟩ := h
  rcases List.eq_nil_or_concat' b with rfl | ⟨b, c, rfl⟩
  · rfl
  · have hbodies : a ++ '\n' :: b = body :=
      (List.append_inj' (by simpa using heq : a ++ '\n' :: b ++ [c] = body ++ ['\n']) rfl).1
    rw [← hbodies] at hbody
    simp at hbody

/-- A line holds exactly one `\n`. -/
theorem IsLine.count_newline {l : Text} (h : IsLine l) : l.count '\n' = 1 := by
  obtain ⟨body, hbody, rfl⟩ := h
  simp [List.count_eq_zero.mpr hbody]

/-- Lines one after the other hold as many `\n` as there are lines. -/
theorem count_newline_flatten {ls : List Text} (h : ∀ l ∈ ls, IsLine l) :
    ls.flatten.count '\n' = ls.length := by
  induction ls with
  | nil => rfl
  | cons l ls ih =>
    rw [List.flatten_cons, List.count_append, (h l List.mem_cons_self).count_newline,
      ih fun l' hl' => h l' (List.mem_cons_of_mem _ hl'), List.length_cons, Nat.add_comm]

/-- Lines one after the other end the last of them. -/
theorem getLast?_flatten {ls : List Text} (hne : ls ≠ []) (h : ∀ l ∈ ls, IsLine l) :
    ls.flatten.getLast? = some '\n' := by
  obtain ⟨init, l, rfl⟩ := (List.eq_nil_or_concat' ls).resolve_left hne
  rw [List.flatten_append, List.flatten_singleton, List.getLast?_append,
    (h l (by simp)).getLast?]
  rfl

/-- Every text is lines one after the other and the beginning of a next one, which may be empty. -/
theorem exists_flatten_append (t : Text) :
    ∃ (ls : List Text) (body : Text), t = ls.flatten ++ body ∧ (∀ l ∈ ls, IsLine l) ∧ '\n' ∉ body := by
  induction t with
  | nil => exact ⟨[], [], rfl, by simp, by simp⟩
  | cons c t ih =>
    obtain ⟨ls, body, rfl, hls, hbody⟩ := ih
    by_cases hc : c = '\n'
    · refine ⟨['\n'] :: ls, body, by rw [hc]; rfl, fun l hl => ?_, hbody⟩
      rcases List.mem_cons.mp hl with rfl | hl
      · exact ⟨[], by simp, rfl⟩
      · exact hls l hl
    · cases ls with
      | nil => exact ⟨[], c :: body, rfl, by simp, by simp [hbody, Ne.symm hc]⟩
      | cons l ls =>
        refine ⟨(c :: l) :: ls, body, rfl, fun l' hl' => ?_, hbody⟩
        rcases List.mem_cons.mp hl' with rfl | hl'
        · exact (hls l List.mem_cons_self).cons hc
        · exact hls l' (List.mem_cons_of_mem _ hl')

/-! ### Cutting at line ends -/

theorem newlineLines_newline_cons (rest : Text) :
    newlineLines ('\n' :: rest) = ['\n'] :: newlineLines rest := by
  simp [newlineLines]

theorem newlineLines_append_newline {body : Text} (h : '\n' ∉ body) (rest : Text) :
    newlineLines (body ++ '\n' :: rest) = (body ++ ['\n']) :: newlineLines rest := by
  induction body with
  | nil => exact newlineLines_newline_cons rest
  | cons c body ih =>
    have hc : c ≠ '\n' := fun e => h (e ▸ List.mem_cons_self)
    rw [List.cons_append, newlineLines, if_neg hc, ih fun m => h (List.mem_cons_of_mem _ m)]
    rfl

theorem newlineLines_line_append {l : Text} (h : IsLine l) (rest : Text) :
    newlineLines (l ++ rest) = l :: newlineLines rest := by
  obtain ⟨body, hbody, rfl⟩ := h
  rw [List.append_assoc]
  exact newlineLines_append_newline hbody rest

/-- Lines before a text are cut off it one by one. -/
theorem newlineLines_flatten_append {ls : List Text} (h : ∀ l ∈ ls, IsLine l) (rest : Text) :
    newlineLines (ls.flatten ++ rest) = ls ++ newlineLines rest := by
  induction ls with
  | nil => rfl
  | cons l ls ih =>
    rw [List.flatten_cons, List.append_assoc, newlineLines_line_append (h l List.mem_cons_self),
      ih fun l' hl' => h l' (List.mem_cons_of_mem _ hl')]
    rfl

/-- Lines one after the other are cut into the same lines. -/
theorem newlineLines_flatten {ls : List Text} (h : ∀ l ∈ ls, IsLine l) :
    newlineLines ls.flatten = ls := by
  have hcut := newlineLines_flatten_append h []
  rwa [List.append_nil, newlineLines, List.append_nil] at hcut

theorem newlineLines_ne_nil {t : Text} (h : t ≠ []) : newlineLines t ≠ [] := by
  cases t with
  | nil => exact absurd rfl h
  | cons c rest =>
    rw [newlineLines]
    split
    · simp
    · split <;> simp

/-- Cutting a text at its line ends loses nothing. -/
theorem flatten_newlineLines (t : Text) : (newlineLines t).flatten = t := by
  induction t with
  | nil => rfl
  | cons c rest ih =>
    rw [newlineLines]
    split
    · rw [List.flatten_cons, ih]
      rfl
    · split
      · next hlines =>
        rw [hlines] at ih
        rw [← ih]
        rfl
      · next line lines hlines =>
        rw [hlines] at ih
        rw [← ih]
        rfl

/-- Every line of a text that ends in `\n` is ended. -/
theorem isLine_of_mem_newlineLines {t : Text} (ht : ∀ c, t.getLast? = some c → c = '\n') {l : Text}
    (hl : l ∈ newlineLines t) : IsLine l := by
  induction t generalizing l with
  | nil => cases hl
  | cons c rest ih =>
    have hrest : ∀ d, rest.getLast? = some d → d = '\n' := fun d hd =>
      ht d (by rw [List.getLast?_cons, hd]; rfl)
    rw [newlineLines] at hl
    split at hl
    · next hc =>
      rcases List.mem_cons.mp hl with rfl | hl
      · exact ⟨[], by simp, by rw [hc]; rfl⟩
      · exact ih hrest hl
    · next hc =>
      have hne : rest ≠ [] := by
        rintro rfl
        exact hc (ht c rfl)
      split at hl
      · next hlines => exact absurd hlines (newlineLines_ne_nil hne)
      · next line lines hlines =>
        rcases List.mem_cons.mp hl with rfl | hl
        · exact (ih hrest (hlines ▸ List.mem_cons_self)).cons hc
        · exact ih hrest (hlines ▸ List.mem_cons_of_mem _ hl)

/-! ### Pieces -/

/-- In `Cut pieces` the pieces are those of a text that is cut after every `\n`: lines, and behind
them a beginning of the next line, if there is one. -/
inductive Cut : List Text → Prop
  /-- An empty text has no pieces. -/
  | nil : Cut []
  /-- The last piece may lack the line end, but is not empty then. -/
  | last {body : Text} (hne : body ≠ []) (h : '\n' ∉ body) : Cut [body]
  /-- A line stands before others. -/
  | cons {l : Text} {ls : List Text} (hl : IsLine l) (h : Cut ls) : Cut (l :: ls)

theorem newlineLines_of_notMem {body : Text} (hne : body ≠ []) (h : '\n' ∉ body) :
    newlineLines body = [body] := by
  induction body with
  | nil => exact absurd rfl hne
  | cons c body ih =>
    rw [List.mem_cons, not_or] at h
    rw [newlineLines, if_neg (Ne.symm h.1)]
    by_cases hbody : body = []
    · rw [hbody]
      rfl
    · rw [ih hbody h.2]

variable {ls : List Text}

theorem Cut.newlineLines_flatten (h : Cut ls) : newlineLines ls.flatten = ls := by
  induction h with
  | nil => rfl
  | last hne h => rw [List.flatten_singleton, newlineLines_of_notMem hne h]
  | cons hl _ ih => rw [List.flatten_cons, newlineLines_line_append hl, ih]

theorem Cut.append {front : List Text} (hfront : ∀ l ∈ front, IsLine l) (h : Cut ls) :
    Cut (front ++ ls) := by
  induction front with
  | nil => exact h
  | cons l front ih =>
    exact .cons (hfront l List.mem_cons_self) (ih fun l' hl' => hfront l' (List.mem_cons_of_mem _ hl'))

/-- The lines of a text are the pieces into which it is cut. -/
theorem cut_newlineLines (t : Text) : Cut (newlineLines t) := by
  obtain ⟨ls, body, rfl, hls, hbody⟩ := exists_flatten_append t
  rw [newlineLines_flatten_append hls]
  refine Cut.append hls ?_
  by_cases hne : body = []
  · rw [hne]
    exact .nil
  · rw [newlineLines_of_notMem hne hbody]
    exact .last hne hbody

/-- Pieces that are left out do not bring others together. -/
theorem Cut.filter (h : Cut ls) (p : Text → Bool) : Cut (ls.filter p) := by
  induction h with
  | nil => exact .nil
  | @last body hne h =>
    rw [List.filter_singleton]
    cases p body
    · exact .nil
    · exact .last hne h
  | @cons l ls hl h ih =>
    cases hp : p l with
    | true => rw [List.filter_cons_of_pos hp]; exact .cons hl ih
    | false => rw [List.filter_cons_of_neg (by simp [hp])]; exact ih

/-! ### The final line end -/

theorem getLast?_endLine (t : Text) : ∀ c, (endLine t).getLast? = some c → c = '\n' := by
  intro c hc
  unfold endLine at hc
  split at hc
  · next h =>
    rcases Bool.or_eq_true_iff.mp h with h | h
    · rw [List.isEmpty_iff.mp h] at hc
      cases hc
    · rw [beq_iff_eq.mp h] at hc
      exact (Option.some.inj hc).symm
  · rw [List.getLast?_concat] at hc
    exact (Option.some.inj hc).symm

/-- A text that ends its last line stays as it is. -/
theorem endLine_eq_self {t : Text} (h : ∀ c, t.getLast? = some c → c = '\n') : endLine t = t := by
  cases hlast : t.getLast? with
  | none => rw [List.getLast?_eq_none_iff.mp hlast]; rfl
  | some c =>
    obtain rfl := h c hlast
    simp [endLine, hlast]

/-- The final line end is that of the part at the end. -/
theorem endLine_append (front : Text) {rest : Text} (hne : rest ≠ []) :
    endLine (front ++ rest) = front ++ endLine rest := by
  have hlast : (front ++ rest).getLast? = rest.getLast? := List.getLast?_append_of_ne_nil front hne
  unfold endLine
  rw [hlast]
  by_cases hend : rest.getLast? = some '\n'
  · simp [hend]
  · simp [hend, hne]

/-- The lines of a text that is given a final line end are ended. -/
theorem isLine_of_mem_endLine {t l : Text} (h : l ∈ newlineLines (endLine t)) : IsLine l :=
  isLine_of_mem_newlineLines (getLast?_endLine t) h

end SnippetBench.Text
