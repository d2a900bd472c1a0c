import SnippetBench.Files.Path
import SnippetBench.Proofs.Text.Join
import Mathlib.Data.List.Basic

/-!
# Paths and their texts

A path that was read has names that can be read (`IsRead`), and its text is read as the same path
again (`ofText_toText`). It is not longer than the text that the path was read from, unless there
are no names in that (`length_toText_le`).
-/

namespace SnippetBench

namespace Text

variable {c : Char}

/-- What parts add up to when each of them has one character more. -/
def weight : List Text → Nat
  | [] => 0
  | part :: parts => part.length + 1 + weight parts

theorem length_join {parts : List Text} (h : parts ≠ []) :
    (join [c] parts).length + 1 = weight parts := by
  obtain ⟨first, parts, rfl⟩ := List.exists_cons_of_ne_nil h
  have hrest : (parts.flatMap ([c] ++ ·)).length = weight parts := by
    induction parts with
    | nil => rfl
    | cons part parts ih =>
      rw [List.flatMap_cons, List.length_append, ih (List.cons_ne_nil _ _), weight]
      simp only [List.length_append, List.length_singleton]
      omega
  rw [join_cons, List.length_append, hrest, weight]
  omega

theorem weight_filter_le (f : Text → Bool) (parts : List Text) :
    weight (parts.filter f) ≤ weight parts := by
  induction parts with
  | nil => exact Nat.le_refl _
  | cons part parts ih =>
    rw [List.filter_cons]
    split
    · rw [weight, weight]
      omega
    · rw [weight]
      omega

end Text

namespace Files.Path

/-! ### Names -/

/-- The names between the slashes of a text. -/
def namesIn (t : Text) : List Text :=
  (Text.splitOn (· = '/') t).filter fun name => !name.isEmpty && name != ['.']

/-- Every name of a path can be read: it is not empty, nor the dot, and there is no slash in it. -/
def IsRead (p : Path) : Prop := ∀ name ∈ p.names, name ≠ [] ∧ name ≠ ['.'] ∧ '/' ∉ name

theorem isRead_ofText (t : Text) : IsRead (ofText t) := by
  intro name hname
  obtain ⟨hmem, hkept⟩ := List.mem_filter.1 hname
  simp only [Bool.and_eq_true, Bool.not_eq_true', List.isEmpty_eq_false_iff, bne_iff_ne] at hkept
  exact ⟨hkept.1, hkept.2, Text.notMem_of_mem_splitOn hmem⟩

/-- The names of a path are read from them joined by slashes. -/
theorem namesIn_join {p : Path} (h : IsRead p) : namesIn (Text.join ['/'] p.names) = p.names := by
  unfold namesIn Text.join
  rw [Text.splitOn_eq]
  by_cases hnames : p.names = []
  · rw [hnames]
    rfl
  · rw [List.splitOn_intercalate '/' (fun name hname => (h name hname).2.2) hnames,
      List.filter_eq_self]
    intro name hname
    obtain ⟨hne, hdot, -⟩ := h name hname
    simp [hne, hdot]

/-! ### Roots -/

theorem rootOf_append (root : Root) {t : Text} (h : t.head? ≠ some '/') :
    rootOf (root.toText ++ t) = root := by
  have htake : t.takeWhile (· = '/') = [] := by
    cases t with
    | nil => rfl
    | cons c t => simpa [List.takeWhile_cons] using h
  unfold rootOf
  cases root <;> simp [Root.toText, htake]

/-- A text begins with its root, and the names stand behind it. -/
theorem exists_behind_root (t : Text) :
    ∃ rest, t = (rootOf t).toText ++ rest ∧ namesIn t = namesIn rest := by
  cases hroot : rootOf t with
  | relative => exact ⟨t, rfl, rfl⟩
  | slash =>
    cases t with
    | nil => cases hroot
    | cons c rest =>
      by_cases hc : c = '/'
      · subst hc
        exact ⟨rest, rfl, rfl⟩
      · simp [rootOf, hc] at hroot
  | doubleSlash =>
    match t with
    | [] => cases hroot
    | [c] => by_cases hc : c = '/' <;> simp [rootOf, hc] at hroot
    | c :: d :: rest =>
      by_cases hc : c = '/'
      · by_cases hd : d = '/'
        · subst hc hd
          exact ⟨rest, rfl, rfl⟩
        · simp [rootOf, hc, hd] at hroot
      · simp [rootOf, hc] at hroot

/-! ### Texts -/

theorem head?_join_ne {p : Path} (h : IsRead p) : (Text.join ['/'] p.names).head? ≠ some '/' := by
  cases hnames : p.names with
  | nil => exact nofun
  | cons name names =>
    obtain ⟨hne, -, hslash⟩ := h name (hnames ▸ .head _)
    rw [Text.join_cons, List.head?_append_of_ne_nil _ hne]
    exact fun hhead => hslash (List.mem_of_mem_head? hhead)

/-- **The text of a path is read as the path again.** -/
theorem ofText_toText {p : Path} (h : IsRead p) : ofText p.toText = p := by
  unfold toText
  split
  case isTrue hnone =>
    obtain ⟨root, names⟩ := p
    simp only [Bool.and_eq_true, decide_eq_true_eq, List.isEmpty_iff] at hnone
    obtain ⟨rfl, rfl⟩ := hnone
    rfl
  case isFalse =>
    obtain ⟨rest, hrest, hnames⟩ := exists_behind_root (p.root.toText ++ Text.join ['/'] p.names)
    have hroot := rootOf_append p.root (head?_join_ne h)
    rw [hroot] at hrest
    obtain rfl := List.append_cancel_left hrest
    show Path.mk (rootOf _) (namesIn _) = p
    rw [hroot, hnames, namesIn_join h]

theorem length_toText_le {t : Text} (h : (ofText t).names ≠ []) :
    (ofText t).toText.length ≤ t.length := by
  obtain ⟨rest, ht, hnames⟩ := exists_behind_root t
  have hread : (ofText t).names = namesIn rest := hnames
  have hweight : Text.weight (ofText t).names ≤ Text.weight (Text.splitOn (· = '/') rest) := by
    rw [hread]
    exact Text.weight_filter_le _ _
  have hjoin : (Text.join ['/'] (ofText t).names).length + 1 = Text.weight (ofText t).names :=
    Text.length_join h
  have hrest : rest.length + 1 = Text.weight (Text.splitOn (· = '/') rest) := by
    rw [← Text.length_join (c := '/') (by rw [Text.splitOn_eq]; exact List.splitOnP_ne_nil _ _)]
    unfold Text.join
    rw [Text.splitOn_eq, List.intercalate_splitOn]
  have hlength : (ofText t).toText.length =
      (rootOf t).toText.length + (Text.join ['/'] (ofText t).names).length := by
    unfold toText
    rw [if_neg (by simp [h]), List.length_append]
    rfl
  have ht : t.length = (rootOf t).toText.length + rest.length := by
    rw [← List.length_append, ← ht]
  omega

end Files.Path

end SnippetBench
