import SnippetBench.Proofs.Report.Row

/-!
# The bounds of cells

A table is read from left to right, and a backslash takes the meaning from a backslash or a pipe behind
it. Writing a text as a cell puts a backslash before every pipe, but before no backslash. So a pipe that
a backslash of the text stands before is no longer taken in the cell, and only such a pipe bounds a cell
there (`count_marked_cell`). The pipes that bound the cells of a row are the three that it is written
with and these (`bounds_row`).
-/

namespace SnippetBench.Report

/-! ### Reading a row -/

/-- The characters of a row in order, each with whether its meaning is taken. It is taken from a backslash
or a pipe behind a backslash that has its own meaning; `active` says whether such a backslash stands
before the row. -/
def markedFrom (active : Bool) : Text → List (Char × Bool)
  | [] => []
  | c :: rest =>
    let taken := active && (c = '\\' || c = '|')
    (c, taken) :: markedFrom (c = '\\' && !taken) rest

/-- The places of the pipes that bound cells: those whose meaning is not taken. -/
def bounds (row : Text) : List Nat := (markedFrom false row).idxsOf ('|', false)

/-- The number of pipes of a text whose meaning is taken by backslashes of the text. -/
def takenPipes (t : Text) : Nat := (markedFrom false t).count ('|', true)

variable {c : Char} {active : Bool} {t : Text} {outcome : Outcome}

theorem map_fst_markedFrom (active : Bool) (t : Text) :
    (markedFrom active t).map Prod.fst = t := by
  induction t generalizing active with
  | nil => rfl
  | cons c t ih => rw [markedFrom, List.map_cons, ih]

theorem length_markedFrom (active : Bool) (t : Text) : (markedFrom active t).length = t.length := by
  rw [← List.length_map Prod.fst, map_fst_markedFrom]

/-- Nothing is taken from a character that means nothing, and it takes nothing from the next one. -/
theorem markedFrom_cons (hc : c ≠ '\\' ∧ c ≠ '|') (active : Bool) (t : Text) :
    markedFrom active (c :: t) = (c, false) :: markedFrom false t := by
  simp [markedFrom, hc.1, hc.2]

/-- What stands before such a character does not matter behind it. -/
theorem markedFrom_append_cons (hc : c ≠ '\\' ∧ c ≠ '|') (active : Bool) (s t : Text) :
    markedFrom active (s ++ c :: t) = markedFrom active s ++ (c, false) :: markedFrom false t := by
  induction s generalizing active with
  | nil => exact markedFrom_cons hc active t
  | cons d s ih => rw [List.cons_append, markedFrom, ih, markedFrom, List.cons_append]

/-! ### Cells -/

/-- **The pipes that bound cells inside a cell** are those whose meaning was taken in the text that is
written there. -/
theorem count_marked_cell (active : Bool) (t : Text) :
    (markedFrom active (cell t)).count ('|', false) = (markedFrom active t).count ('|', true) := by
  induction t generalizing active with
  | nil => rfl
  | cons c t ih =>
    by_cases hpipe : c = '|'
    · have hcell : cell (c :: t) = '\\' :: '|' :: cell t := by rw [hpipe]; rfl
      rw [hcell, hpipe]
      cases active <;> simp [markedFrom, ih]
    · by_cases hbreak : c = '\n'
      · have hcell : cell (c :: t) = ' ' :: cell t := by rw [hbreak]; rfl
        rw [hcell, hbreak, markedFrom_cons (by decide), markedFrom_cons (by decide)]
        simp [ih]
      · have hcell : cell (c :: t) = c :: cell t := by simp [cell, hpipe, hbreak]
        rw [hcell, markedFrom, markedFrom]
        simp [ih, hpipe]

theorem takenPipes_of_plain (h : Plain t) : takenPipes t = 0 := by
  refine List.count_eq_zero.mpr fun hmem => ?_
  have hpipe : '|' ∈ t := by
    rw [← map_fst_markedFrom false t]
    exact List.mem_map_of_mem hmem
  exact absurd (h '|' hpipe) (by decide)

/-! ### Rows -/

/-- The pipes that bound cells in a row: three of its own, and those inside the cells. -/
theorem bounds_eq (s t : Text) :
    bounds ("| " ++ s ++ " | " ++ t ++ " |") =
      0 :: ((markedFrom false s).idxsOf ('|', false) 2 ++
        (s.length + 3) :: ((markedFrom false t).idxsOf ('|', false) (s.length + 5) ++
          [s.length + t.length + 6])) := by
  have hrow : ("| " ++ s ++ " | " ++ t ++ " |" : Text) =
      '|' :: ' ' :: (s ++ ' ' :: '|' :: ' ' :: (t ++ [' ', '|'])) := by simp
  have hpipe : ∀ rest, markedFrom false ('|' :: rest) = ('|', false) :: markedFrom false rest :=
    fun rest => rfl
  rw [bounds, hrow, hpipe, markedFrom_cons (by decide), markedFrom_append_cons (by decide), hpipe,
    markedFrom_cons (by decide), markedFrom_append_cons (by decide), hpipe]
  have hfirst : 2 + s.length + 1 + 1 + 1 = s.length + 5 := by omega
  have hlast : s.length + 5 + t.length + 1 = s.length + t.length + 6 := by omega
  simp only [List.idxsOf_cons, List.idxsOf_append, length_markedFrom, BEq.rfl, beq_iff_eq,
    Prod.mk.injEq, Char.reduceEq, and_true, if_true, if_false, zero_add, Nat.reduceAdd, hfirst, hlast]
  rw [Nat.add_comm 2 s.length]
  rfl

/-- **A row has exactly its three pipes** as the bounds of its cells, the first character, the one between
the cells and the last, and beside them those of the name and of the error whose meaning was taken. -/
theorem bounds_row (h : outcome.IsPrintable) (name : Text) :
    ∃ row, formatOutcome name true outcome = .ok row ∧
      (bounds row).length = 3 + takenPipes name + takenPipes outcome.errorText ∧
      (0 ∈ bounds row ∧ (cell name).length + 3 ∈ bounds row ∧ row.length - 1 ∈ bounds row) ∧
      (bounds row = [0, (cell name).length + 3, row.length - 1] ↔
        takenPipes name = 0 ∧ takenPipes outcome.errorText = 0) := by
  obtain ⟨t, ht, hrow⟩ := exists_row h name
  have htaken : takenPipes t = takenPipes outcome.errorText :=
    eq_of_shown takenPipes (fun t ht => (takenPipes_of_plain ht).trans rfl) ht
  have hlast : ("| " ++ cell name ++ " | " ++ cell t ++ " |" : Text).length - 1 =
      (cell name).length + (cell t).length + 6 := by
    simp
    omega
  refine ⟨_, hrow, ?_⟩
  rw [hlast, bounds_eq]
  -- the pipes inside the two cells
  generalize hinName : (markedFrom false (cell name)).idxsOf ('|', false) 2 = inName
  generalize hinBody :
    (markedFrom false (cell t)).idxsOf ('|', false) ((cell name).length + 5) = inBody
  have hname : inName.length = takenPipes name := by
    rw [← hinName, List.length_idxsOf, count_marked_cell, takenPipes]
  have hbody : inBody.length = takenPipes outcome.errorText := by
    rw [← hinBody, List.length_idxsOf, count_marked_cell, ← htaken, takenPipes]
  refine ⟨?_, ⟨by simp, by simp, by simp⟩, fun heq => ?_, fun ⟨hzero, hzero'⟩ => ?_⟩
  · simp only [List.length_cons, List.length_append, List.length_nil]
    omega
  · have hcount := congrArg List.length heq
    simp only [List.length_cons, List.length_append, List.length_nil] at hcount
    omega
  · rw [List.length_eq_zero_iff.mp (hname.trans hzero), List.length_eq_zero_iff.mp (hbody.trans hzero')]
    rfl

/-- A name with a pipe that is not taken and an error with one that is. -/
theorem bounds_row_failure :
    (Outcome.failure "E" "a\\|b").IsPrintable ∧
      ∃ row, formatOutcome "x|y" true (.failure "E" "a\\|b") = .ok row ∧
        (bounds row).length = 3 + takenPipes "x|y" + takenPipes "E: a\\|b" ∧
        (0 ∈ bounds row ∧ (cell "x|y").length + 3 ∈ bounds row ∧ row.length - 1 ∈ bounds row) ∧
        (bounds row = [0, (cell "x|y").length + 3, row.length - 1] ↔
          takenPipes "x|y" = 0 ∧ takenPipes "E: a\\|b" = 0) :=
  ⟨trivial, @bounds_row (.failure "E" "a\\|b") trivial "x|y"⟩

/-- A backslash before a pipe takes the meaning from the backslash with which the pipe is written. -/
theorem bounds_backslash_ne :
    ∃ row, formatOutcome "a\\|b" true (.stats ⟨1500, 20, 3⟩) = .ok row ∧
      bounds row ≠ [0, (cell "a\\|b").length + 3, row.length - 1] :=
  ⟨"| a\\\\|b | 1.50ms (std. 20μs o. 3%) |", by decide +kernel, by decide +kernel⟩

end SnippetBench.Report
