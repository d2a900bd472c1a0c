import SnippetBench.Proofs.Text.Lines

/-!
# Universal lines

A reader of texts may end a line at `\n`, at `\r` and at `\r\n` alike. What ends in `\n` is read by
itself, whatever follows (`universalLines_append`). A text without `\n` that is printed as one line is
read as one line only if it has no carriage return (`universalLines_line`, `splitOn_eq_singleton_iff`).
-/

namespace SnippetBench.Text

/-- The lines of a text as a reader takes it that ends a line at `\n`, `\r` and `\r\n` alike. Every line
has `\n` as its line end, which the last one may lack. -/
def universalLines (t : Text) : List Text := newlineLines (normalizeNewlines t)

variable {c : Char} {s t body : Text}

/-! ### Line ends replaced -/

theorem normalizeNewlines_cons (hc : c ≠ '\r') (t : Text) :
    normalizeNewlines (c :: t) = c :: normalizeNewlines t := by
  rw [normalizeNewlines]
  · rintro rest rfl -
    exact hc rfl
  · rintro rfl
    exact hc rfl

theorem normalizeNewlines_return (h : t.head? ≠ some '\n') :
    normalizeNewlines ('\r' :: t) = '\n' :: normalizeNewlines t := by
  rw [normalizeNewlines]
  rintro rest rfl
  exact h rfl

theorem normalizeNewlines_append_of_notMem (h : '\r' ∉ body) (t : Text) :
    normalizeNewlines (body ++ t) = body ++ normalizeNewlines t := by
  induction body with
  | nil => rfl
  | cons c body ih =>
    rw [List.mem_cons, not_or] at h
    rw [List.cons_append, normalizeNewlines_cons (Ne.symm h.1), ih h.2, List.cons_append]

/-- A text that ends a line is read by itself, whatever stands behind it. -/
theorem exists_normalizeNewlines_append (s : Text) :
    ∃ front, ∀ t, normalizeNewlines (s ++ '\n' :: t) = front ++ '\n' :: normalizeNewlines t := by
  induction s using normalizeNewlines.induct with
  | case1 => exact ⟨[], fun t => normalizeNewlines_cons (by decide) t⟩
  | case2 rest ih =>
    obtain ⟨front, hfront⟩ := ih
    refine ⟨'\n' :: front, fun t => ?_⟩
    rw [List.cons_append, List.cons_append, normalizeNewlines, hfront, List.cons_append]
  | case3 rest h ih =>
    cases rest with
    | nil => exact ⟨[], fun t => by rw [List.singleton_append, normalizeNewlines, List.nil_append]⟩
    | cons d rest =>
      obtain ⟨front, hfront⟩ := ih
      refine ⟨'\n' :: front, fun t => ?_⟩
      have hd : (d :: rest ++ '\n' :: t).head? ≠ some '\n' := fun e => h rest (by
        rw [List.cons_append, List.head?_cons, Option.some.injEq] at e
        rw [e])
      rw [List.cons_append, normalizeNewlines_return hd, hfront, List.cons_append]
  | case4 c rest h h' ih =>
    obtain ⟨front, hfront⟩ := ih
    refine ⟨c :: front, fun t => ?_⟩
    rw [List.cons_append, normalizeNewlines_cons h', hfront, List.cons_append]

/-! ### Lines -/

/-- Behind a line end the lines of what follows begin. -/
theorem newlineLines_append_line (s t : Text) :
    newlineLines (s ++ '\n' :: t) = newlineLines (s ++ ['\n']) ++ newlineLines t := by
  obtain ⟨ls, body, rfl, hls, hbody⟩ := exists_flatten_append s
  rw [List.append_assoc, List.append_assoc, newlineLines_flatten_append hls,
    newlineLines_flatten_append hls, newlineLines_append_newline hbody,
    newlineLines_append_newline hbody, newlineLines, List.append_assoc, List.singleton_append]

theorem universalLines_append (s t : Text) :
    universalLines (s ++ '\n' :: t) = universalLines (s ++ ['\n']) ++ universalLines t := by
  obtain ⟨front, hfront⟩ := exists_normalizeNewlines_append s
  have hnil : normalizeNewlines [] = [] := rfl
  rw [universalLines, universalLines, universalLines, hfront, hfront, hnil, newlineLines_append_line]

/-- A text without line ends stands before the first line of what follows. -/
theorem universalLines_run (hnewline : '\n' ∉ body) (hreturn : '\r' ∉ body) {l : Text} {ls : List Text}
    (h : universalLines t = l :: ls) : universalLines (body ++ t) = (body ++ l) :: ls := by
  rw [universalLines, normalizeNewlines_append_of_notMem hreturn]
  rw [universalLines] at h
  clear hreturn
  induction body with
  | nil => exact h
  | cons c body ih =>
    rw [List.mem_cons, not_or] at hnewline
    rw [List.cons_append, newlineLines, if_neg (Ne.symm hnewline.1), ih hnewline.2]
    rfl

/-- A text without `\n` that is printed as a line is read as the lines between its carriage returns. -/
theorem universalLines_line {t : Text} (hnewline : '\n' ∉ t) (hend : t.getLast? ≠ some '\r') :
    universalLines (t ++ ['\n']) = (List.splitOn '\r' t).map (· ++ ['\n']) := by
  induction hlength : t.length using Nat.strongRecOn generalizing t with
  | _ n ih =>
    by_cases hreturn : '\r' ∈ t
    · obtain ⟨body, rest, rfl, hbody⟩ := List.eq_append_cons_of_mem hreturn
      have hrest : rest ≠ [] := by
        rintro rfl
        exact hend (by simp)
      have hnewline' : '\n' ∉ body ∧ '\n' ∉ rest := by simpa using hnewline
      have hend' : rest.getLast? ≠ some '\r' := by
        rwa [List.getLast?_append_of_ne_nil _ (by simp), List.getLast?_cons_of_ne_nil hrest] at hend
      have hhead : (rest ++ ['\n']).head? ≠ some '\n' := by
        rw [List.head?_append_of_ne_nil _ hrest]
        exact fun e => hnewline'.2 (List.mem_of_head? e)
      have hlt : rest.length < n := by
        rw [← hlength, List.length_append, List.length_cons]
        omega
      have hlines := ih _ hlt hnewline'.2 hend' rfl
      rw [universalLines] at hlines ⊢
      rw [List.append_assoc, List.cons_append, normalizeNewlines_append_of_notMem hbody,
        normalizeNewlines_return hhead, newlineLines_append_newline hnewline'.1, hlines,
        List.splitOn_append_cons_self_of_not_mem hbody, List.map_cons]
    · have hlines : universalLines ['\n'] = [['\n']] := rfl
      rw [universalLines_run hnewline hreturn hlines, List.splitOn_eq_singleton hreturn,
        List.map_singleton]

/-- The pieces between the carriage returns have only characters of the text. -/
theorem subset_of_mem_splitOn {piece t : Text} (h : piece ∈ List.splitOn '\r' t) : piece ⊆ t := by
  obtain ⟨i, hi⟩ := List.getElem?_of_mem h
  have hmem : piece ∈ (List.splitOn '\r' t).intersperse ['\r'] :=
    List.mem_of_getElem? (List.getElem?_intersperse_two_mul.trans hi)
  intro c hc
  rw [← @List.intercalate_splitOn _ t _ _ '\r']
  exact List.mem_flatten.mpr ⟨piece, hmem, hc⟩

theorem splitOn_eq_singleton_iff {t : Text} : List.splitOn '\r' t = [t] ↔ '\r' ∉ t := by
  refine ⟨fun h hmem => ?_, List.splitOn_eq_singleton⟩
  obtain ⟨body, rest, rfl, hbody⟩ := List.eq_append_cons_of_mem hmem
  rw [List.splitOn_append_cons_self_of_not_mem hbody] at h
  have hsame := (List.cons.inj h).1
  have hlength := congrArg List.length hsame
  simp at hlength

end SnippetBench.Text
