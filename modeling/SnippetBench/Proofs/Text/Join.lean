import SnippetBench.Text.Basic
import Mathlib.Data.List.Basic

/-!
# Joined and split parts

Around any one of them, joined parts are the parts before it, each with the separator behind it, and
the parts after it, each with the separator before it (`join_append_cons`). So exchanging one part
changes nothing else. A part of a text that is split at a character lacks this character
(`notMem_of_mem_splitOn`).
-/

namespace SnippetBench.Text

variable {separator part t : Text} {before after parts : List Text} {c : Char}

/-! ### Joining -/

theorem join_cons (separator part : Text) (after : List Text) :
    join separator (part :: after) = part ++ after.flatMap (separator ++ ·) := by
  unfold join
  induction after generalizing part with
  | nil => rw [List.intercalate_singleton, List.flatMap_nil, List.append_nil]
  | cons next after ih =>
    rw [List.intercalate_cons_cons, ih, List.flatMap_cons, List.append_assoc, List.append_assoc]

theorem join_append_cons (separator part : Text) (before after : List Text) :
    join separator (before ++ part :: after) =
      before.flatMap (· ++ separator) ++ part ++ after.flatMap (separator ++ ·) := by
  induction before with
  | nil => exact join_cons separator part after
  | cons first before ih =>
    have hne : before ++ part :: after ≠ [] := by simp
    rw [List.cons_append, join, List.intercalate_cons_of_ne_nil hne, List.flatMap_cons]
    rw [join] at ih
    rw [ih]
    simp only [List.append_assoc]

theorem join_concat (hbefore : before ≠ []) (separator part : Text) :
    join separator (before ++ [part]) = join separator before ++ (separator ++ part) := by
  cases before with
  | nil => exact absurd rfl hbefore
  | cons first before =>
    rw [List.cons_append, join_cons, join_cons, List.flatMap_append, List.flatMap_singleton,
      List.append_assoc]

/-- Joined parts end as the last of them does, if it is not empty. -/
theorem getLast?_join (hpart : part ≠ []) (separator : Text) (before : List Text) :
    (join separator (before ++ [part])).getLast? = part.getLast? := by
  rw [join_append_cons, List.flatMap_nil, List.append_nil,
    List.getLast?_append_of_ne_nil _ hpart]

/-! ### Splitting -/

/-- Splitting at one character. -/
theorem splitOn_eq (c : Char) (t : Text) : Text.splitOn (· = c) t = List.splitOn c t := by
  induction t with
  | nil => rfl
  | cons d t ih =>
    have hcons : List.splitOn c (d :: t) = if d == c then [] :: List.splitOn c t
        else List.modifyHead (List.cons d) (List.splitOn c t) := by
      unfold List.splitOn
      rw [List.splitOnP_cons_eq_if_modifyHead]
    rw [hcons, Text.splitOn, ih]
    by_cases hd : d = c
    · simp [hd]
    · obtain ⟨first, parts, hsplit⟩ := List.exists_cons_of_ne_nil
        (List.splitOnP_ne_nil (· == c) t)
      have hsplit : List.splitOn c t = first :: parts := hsplit
      simp [hd, hsplit]

theorem notMem_of_mem_splitOn (h : part ∈ Text.splitOn (· = c) t) : c ∉ part := by
  induction t generalizing part with
  | nil =>
    obtain rfl := List.mem_singleton.1 h
    exact List.not_mem_nil
  | cons d t ih =>
    rw [Text.splitOn] at h
    by_cases hd : d = c
    · rw [if_pos (by simpa using hd)] at h
      rcases List.mem_cons.1 h with rfl | h
      · exact List.not_mem_nil
      · exact ih h
    · rw [if_neg (by simpa using hd)] at h
      have hcons {first : Text} (hfirst : c ∉ first) : c ∉ d :: first := by
        simpa [Ne.symm hd] using hfirst
      cases hsplit : Text.splitOn (· = c) t with
      | nil =>
        rw [hsplit] at h
        obtain rfl := List.mem_singleton.1 h
        exact hcons List.not_mem_nil
      | cons first parts =>
        rw [hsplit] at h
        rcases List.mem_cons.1 h with rfl | h
        · exact hcons (ih (hsplit ▸ .head _))
        · exact ih (hsplit ▸ .tail _ h)

end SnippetBench.Text
