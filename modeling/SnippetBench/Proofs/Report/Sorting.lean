import SnippetBench.Proofs.Report.Trimming

/-!
# Sorted samples and maps

Sorting commutes with a map that preserves and reflects the order of the values (`ascending_map`), and
for rationals it gives the same for every order of the samples (`ascending_eq_of_perm`).
-/

namespace SnippetBench.Report

section Map

variable {α β : Type} [LE α] [DecidableLE α] [LT α] [DecidableLT α] [LE β] [DecidableLE β] [LT β]
  [DecidableLT β]

/-- **Sorting commutes with an order embedding** of values each of which compares with itself. -/
theorem ascending_map (f : α → β) {xs : List α} (hrefl : ∀ a ∈ xs, a ≤ a)
    (hle : ∀ a ∈ xs, ∀ b ∈ xs, f a ≤ f b ↔ a ≤ b) :
    ascending (xs.map f) = (ascending xs).map f := by
  have hall : (xs.all fun x => x ≤ x) = true := by simpa using hrefl
  have hall' : ((xs.map f).all fun x => x ≤ x) = true := by
    simpa using fun a ha => (hle a ha a ha).mpr (hrefl a ha)
  rw [ascending, ascending, if_pos hall, if_pos hall']
  exact (List.map_mergeSort fun a ha b hb => by rw [decide_eq_decide.mpr (hle a ha b hb)]).symm

theorem ascending_perm_of_refl {xs : List α} (hrefl : ∀ a ∈ xs, a ≤ a) :
    (ascending xs).Perm xs := by
  rw [ascending, if_pos (by simpa using hrefl)]
  exact List.mergeSort_perm xs _

end Map

theorem ascending_eq_of_perm {xs ys : List Rat} (h : xs.Perm ys) : ascending xs = ascending ys :=
  (((ascending_perm xs).trans h).trans (ascending_perm ys).symm).eq_of_pairwise
    (fun _ _ _ _ hab hba => le_antisymm hab hba) (pairwise_ascending xs) (pairwise_ascending ys)

end SnippetBench.Report
