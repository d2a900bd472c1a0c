import SnippetBench.Text.Basic
import Mathlib.Data.List.DropRight

/-!
# Runs of characters and trimming

The first run of characters of a class is found where it ends before a character outside the class
or at the end of the text. A trimmed text neither starts nor ends with a character of the class, and
it does not change when characters of the class are put at its ends.
-/

namespace SnippetBench.Text

variable {p : Char → Bool} {run rest t s : Text}

/-! ### First runs -/

theorem takeWhile_run (hrun : ∀ c ∈ run, p c = true) (hrest : ∀ c, rest.head? = some c → p c = false) :
    (run ++ rest).takeWhile p = run := by
  rw [List.takeWhile_append_of_pos hrun]
  cases rest with
  | nil => simp
  | cons c rest => simp [hrest c rfl]

theorem dropWhile_run (hrun : ∀ c ∈ run, p c = true) (hrest : ∀ c, rest.head? = some c → p c = false) :
    (run ++ rest).dropWhile p = rest := by
  rw [List.dropWhile_append_of_pos hrun]
  cases rest with
  | nil => rfl
  | cons c rest => simp [hrest c rfl]

/-- What stands behind the first run starts with a character outside the class. -/
theorem head?_dropWhile {c : Char} (h : (t.dropWhile p).head? = some c) : p c = false := by
  have hstop := List.head?_dropWhile_not p t
  rwa [h] at hstop

/-- A first run of one character. -/
theorem takeWhile_eq_replicate (c : Char) (t : Text) :
    t.takeWhile (· = c) = List.replicate (t.takeWhile (· = c)).length c := by
  refine List.eq_replicate_of_mem fun d hd => ?_
  simpa using List.mem_takeWhile_imp hd

/-! ### Trimming -/

theorem trimEnd_append_of_all (hs : ∀ c ∈ s, p c = true) : trimEnd p (t ++ s) = trimEnd p t := by
  unfold trimEnd
  rw [List.reverse_append, List.dropWhile_append_of_pos fun c hc => hs c (List.mem_reverse.mp hc)]

theorem trimEnd_eq_self (h : ∀ c, t.getLast? = some c → p c = false) : trimEnd p t = t := by
  refine List.rdropWhile_eq_self_iff.mpr fun hne => ?_
  rw [h _ (List.getLast?_eq_some_getLast hne)]
  simp

/-- A text that is trimmed at its end does not end with a character of the class. -/
theorem getLast?_trimEnd {c : Char} (h : (trimEnd p t).getLast? = some c) : p c = false := by
  rw [trimEnd, List.getLast?_reverse] at h
  exact head?_dropWhile h

/-- A text with a character outside the class is not trimmed to nothing. -/
theorem trim_ne_nil {c : Char} (hmem : c ∈ t) (hc : p c = false) : trim p t ≠ [] := by
  intro h
  have hall := List.rdropWhile_eq_nil_iff.mp h
  cases hd : t.dropWhile p with
  | nil =>
    have := List.dropWhile_eq_nil_iff.mp hd c hmem
    rw [hc] at this
    cases this
  | cons d s =>
    have hdp : p d = false := head?_dropWhile (t := t) (by rw [hd]; rfl)
    have := hall d (by rw [hd]; exact List.mem_cons_self)
    rw [hdp] at this
    cases this

theorem trim_append_of_all (hs : ∀ c ∈ s, p c = true) : trim p (t ++ s) = trim p t := by
  by_cases ht : ∀ c ∈ t, p c = true
  · have hts : ∀ c ∈ t ++ s, p c = true := by
      intro c hc
      rcases List.mem_append.mp hc with hc | hc
      · exact ht c hc
      · exact hs c hc
    rw [trim, trim, List.dropWhile_eq_nil_iff.mpr hts, List.dropWhile_eq_nil_iff.mpr ht]
  · have hne : ¬ t.dropWhile p = [] := fun e => ht (List.dropWhile_eq_nil_iff.mp e)
    rw [trim, List.dropWhile_append, if_neg (by simpa using hne), trimEnd_append_of_all hs, trim]

theorem trim_append_left (hrun : ∀ c ∈ run, p c = true) (t : Text) : trim p (run ++ t) = trim p t := by
  rw [trim, List.dropWhile_append_of_pos hrun, trim]

theorem trim_subset (p : Char → Bool) (t : Text) : trim p t ⊆ t := fun _ hc =>
  (List.dropWhile_sublist p).mem
    (List.mem_reverse.mp ((List.dropWhile_sublist p).mem (List.mem_reverse.mp hc)))

theorem trim_eq_nil_iff : trim p t = [] ↔ ∀ c ∈ t, p c = true := by
  constructor
  · intro h c hmem
    cases hc : p c with
    | true => rfl
    | false => exact absurd h (trim_ne_nil hmem hc)
  · intro h
    rw [trim, List.dropWhile_eq_nil_iff.mpr h]
    rfl

/-! ### Characters outside the class -/

theorem count_dropWhile {c : Char} (hc : p c = false) (t : Text) :
    (t.dropWhile p).count c = t.count c := by
  have hrun : c ∉ t.takeWhile p := fun h => by
    rw [List.mem_takeWhile_imp h] at hc
    cases hc
  conv_rhs => rw [← List.takeWhile_append_dropWhile (p := p) (l := t)]
  rw [List.count_append, List.count_eq_zero.mpr hrun, Nat.zero_add]

theorem count_trimEnd {c : Char} (hc : p c = false) (t : Text) :
    (trimEnd p t).count c = t.count c := by
  rw [trimEnd, List.count_reverse, count_dropWhile hc, List.count_reverse]

/-- Trimming takes no character outside the class. -/
theorem count_trim {c : Char} (hc : p c = false) (t : Text) : (trim p t).count c = t.count c := by
  rw [trim, count_trimEnd hc, count_dropWhile hc]

/-! ### Around a character outside the class -/

theorem dropWhile_append_cons {c : Char} (hc : p c = false) (t s : Text) :
    (t ++ c :: s).dropWhile p = t.dropWhile p ++ c :: s := by
  rw [List.dropWhile_append]
  split
  · next h => rw [List.isEmpty_iff.mp h, List.dropWhile_cons_of_neg (by simp [hc]), List.nil_append]
  · rfl

/-- Around a character outside the class each end is trimmed by itself. -/
theorem trim_append_cons {c : Char} (hc : p c = false) (t s : Text) :
    trim p (t ++ c :: s) = t.dropWhile p ++ c :: trimEnd p s := by
  have hreverse : (t.dropWhile p ++ c :: s).reverse = s.reverse ++ c :: (t.dropWhile p).reverse := by
    simp
  rw [trim, dropWhile_append_cons hc, trimEnd, hreverse, dropWhile_append_cons hc, trimEnd]
  simp

/-! ### Characters written out -/

section

variable {f : Char → Text}

theorem dropWhile_flatMap (hin : ∀ c, p c = true → ∀ d ∈ f c, p d = true)
    (hout : ∀ c, p c = false → f c = [c]) (t : Text) :
    (t.flatMap f).dropWhile p = (t.dropWhile p).flatMap f := by
  induction t with
  | nil => rfl
  | cons c t ih =>
    rw [List.flatMap_cons]
    cases hc : p c with
    | true => rw [List.dropWhile_append_of_pos (hin c hc), List.dropWhile_cons_of_pos hc, ih]
    | false =>
      have hne : ¬ p c = true := by simp [hc]
      rw [hout c hc, List.singleton_append, List.dropWhile_cons_of_neg hne,
        List.dropWhile_cons_of_neg hne, List.flatMap_cons, hout c hc, List.singleton_append]

/-- Where the characters of the class are written out in the class and all others stay as they are,
a text may be trimmed before or afterwards. -/
theorem trim_flatMap (hin : ∀ c, p c = true → ∀ d ∈ f c, p d = true)
    (hout : ∀ c, p c = false → f c = [c]) (t : Text) :
    trim p (t.flatMap f) = (trim p t).flatMap f := by
  have hin' : ∀ c, p c = true → ∀ d ∈ (List.reverse ∘ f) c, p d = true := fun c hc d hd =>
    hin c hc d (List.mem_reverse.mp hd)
  have hout' : ∀ c, p c = false → (List.reverse ∘ f) c = [c] := fun c hc => by
    rw [Function.comp_apply, hout c hc, List.reverse_singleton]
  have htwice : List.reverse ∘ (List.reverse ∘ f) = f := funext fun c => List.reverse_reverse (f c)
  rw [trim, trim, dropWhile_flatMap hin hout, trimEnd, trimEnd, List.reverse_flatMap,
    dropWhile_flatMap hin' hout', List.reverse_flatMap, htwice]

end

end SnippetBench.Text
