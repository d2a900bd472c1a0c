import SnippetBench.Text.Quoted
import SnippetBench.Proofs.Text.BreakLines
import Mathlib.Algebra.Ring.Parity
import Mathlib.Data.List.TakeWhile
import Mathlib.Data.Nat.Digits.Defs
import Mathlib.Tactic.IntervalCases

/-!
# Quoted literals read back

Whatever a character is written as inside a literal, reading it gives the character and goes on
behind it (`readInside?_writeChar`); so a literal reads back as the text it was written for
(`read?_write`). A character is written in one of three forms (`IsWritten`). They show printable
characters only, so a literal stays on one line (`isUnbroken_write`), and they escape the quote, so
that a literal does not end before its last character (`IsInside.odd_finalSlashes`).
-/

namespace SnippetBench.Text.Quoted

/-! ### Hexadecimal numerals -/

theorem hexDigit?_digitChar {d : Nat} (h : d < 16) : hexDigit? d.digitChar = some d := by
  interval_cases d <;> rfl

theorem hexValue?_append_singleton (digits : Text) (c : Char) :
    hexValue? (digits ++ [c]) =
      (hexValue? digits).bind fun n => (hexDigit? c).map fun d => n * 16 + d := by
  unfold hexValue?
  rw [List.foldl_append, List.foldl_cons, List.foldl_nil]
  cases List.foldl _ (some 0) digits with
  | none => rfl
  | some n => cases hexDigit? c <;> rfl

theorem hexValue?_toDigits (n : Nat) : hexValue? (Nat.toDigits 16 n) = some n := by
  induction n using Nat.strong_induction_on with
  | _ n ih =>
    rw [Nat.toDigits_eq_if (by decide)]
    split
    · next h =>
      have := hexValue?_append_singleton [] n.digitChar
      rw [hexDigit?_digitChar h] at this
      simpa [hexValue?] using this
    · next h =>
      have hdiv : n / 16 < n := Nat.div_lt_self (by omega) (by decide)
      rw [hexValue?_append_singleton, ih _ hdiv, hexDigit?_digitChar (Nat.mod_lt n (by decide))]
      simp only [Option.bind_some, Option.map_some, Option.some.injEq]
      omega

theorem hexValue?_zeros_append (k : Nat) (digits : Text) :
    hexValue? (List.replicate k '0' ++ digits) = hexValue? digits := by
  induction k with
  | zero => rfl
  | succ k ih =>
    rw [List.replicate_succ, List.cons_append, ← ih]
    rfl

theorem hexValue?_hex (width n : Nat) : hexValue? (hex width n) = some n := by
  rw [hex, padStart, hexValue?_zeros_append, hexValue?_toDigits]

theorem length_hex {width n : Nat} (hwidth : 0 < width) (h : n < 16 ^ width) :
    (hex width n).length = width := by
  have hlength : (Nat.toDigits 16 n).length ≤ width :=
    (Nat.length_toDigits_le_iff (by decide) hwidth).mpr h
  rw [hex, padStart, List.length_append, List.length_replicate]
  omega

theorem charOfHex?_hex (width : Nat) (c : Char) : charOfHex? (hex width c.toNat) = some c := by
  have hvalid : c.toNat.isValidChar := c.valid
  rw [charOfHex?, hexValue?_hex]
  simp [hvalid, Char.ofNat_toNat]

/-! ### One character -/

variable {quote : Char} {rest : Text}

theorem readInside?_two : ∀ {digits : Text}, digits.length = 2 →
    readInside? quote ('\\' :: 'x' :: digits ++ rest) =
      (charOfHex? digits).bind fun c => (readInside? quote rest).map (c :: ·)
  | [_, _], _ => by simp [readInside?, Option.map_eq_bind]

theorem readInside?_four : ∀ {digits : Text}, digits.length = 4 →
    readInside? quote ('\\' :: 'u' :: digits ++ rest) =
      (charOfHex? digits).bind fun c => (readInside? quote rest).map (c :: ·)
  | [_, _, _, _], _ => by simp [readInside?, Option.map_eq_bind]

theorem readInside?_eight : ∀ {digits : Text}, digits.length = 8 →
    readInside? quote ('\\' :: 'U' :: digits ++ rest) =
      (charOfHex? digits).bind fun c => (readInside? quote rest).map (c :: ·)
  | [_, _, _, _, _, _, _, _], _ => by simp [readInside?, Option.map_eq_bind]

/-- Reading goes on behind the number of a character. -/
theorem readInside?_numbered (c : Char) :
    readInside? quote (numbered c.toNat ++ rest) = (readInside? quote rest).map (c :: ·) := by
  unfold numbered
  split
  · next h => rw [readInside?_two (length_hex (by decide) h), charOfHex?_hex, Option.bind_some]
  · split
    · next h => rw [readInside?_four (length_hex (by decide) h), charOfHex?_hex, Option.bind_some]
    · have h : c.toNat < 16 ^ 8 := by
        have := c.val.toNat_lt
        exact this
      rw [readInside?_eight (length_hex (by decide) h), charOfHex?_hex, Option.bind_some]

/-- A character that is neither a backslash nor a quote nor a line end is read as itself. -/
theorem readInside?_plain {c : Char} (hslash : c ≠ '\\') (hquote : c ≠ quote) (hline : c ≠ '\n') :
    readInside? quote (c :: rest) = (readInside? quote rest).map (c :: ·) := by
  rw [readInside?, if_neg hquote, if_neg (by simp [hslash, hline])]
  · cases readInside? quote rest <;> rfl
  all_goals simp [hslash]

theorem readInside?_escaped {c : Char} (h : c = '\\' ∨ c = '\'' ∨ c = '"') :
    readInside? quote ('\\' :: c :: rest) = (readInside? quote rest).map (c :: ·) := by
  rcases h with rfl | rfl | rfl <;> simp [readInside?, Option.map_eq_bind]

/-- Reading what a character is written as gives the character and goes on behind it. -/
theorem readInside?_writeChar (hquote : quote = '\'' ∨ quote = '"') (c : Char) :
    readInside? quote (writeChar quote c ++ rest) = (readInside? quote rest).map (c :: ·) := by
  unfold writeChar
  split_ifs with hescaped htab hline hreturn hprintable
  · refine readInside?_escaped ?_
    rcases (by simpa using hescaped : c = '\\' ∨ c = quote) with h | rfl
    · exact Or.inl h
    · exact Or.inr hquote
  · subst htab
    simp [readInside?, Option.map_eq_bind]
  · subst hline
    simp [readInside?, Option.map_eq_bind]
  · subst hreturn
    simp [readInside?, Option.map_eq_bind]
  · obtain ⟨hslash, hne⟩ : c ≠ '\\' ∧ c ≠ quote := by simpa using hescaped
    exact readInside?_plain hslash hne hline
  · exact readInside?_numbered c

/-! ### Literals -/

theorem quoteOf_eq (t : Text) : quoteOf t = '\'' ∨ quoteOf t = '"' := by
  unfold quoteOf
  split
  · exact Or.inr rfl
  · exact Or.inl rfl

theorem readInside?_flatMap_writeChar (hquote : quote = '\'' ∨ quote = '"') (t : Text) :
    readInside? quote (t.flatMap (writeChar quote) ++ [quote]) = some t := by
  induction t with
  | nil => rcases hquote with rfl | rfl <;> rfl
  | cons c t ih => rw [List.flatMap_cons, List.append_assoc, readInside?_writeChar hquote, ih]; rfl

/-- A literal reads back as the text it was written for. -/
theorem read?_write (t : Text) : read? (write t) = some t := by
  have hquote := quoteOf_eq t
  rw [write, List.cons_append, read?, if_pos hquote]
  exact readInside?_flatMap_writeChar hquote t

/-! ### What a character is written as -/

theorem exists_digit_of_mem_toDigits {n : Nat} {c : Char} (h : c ∈ Nat.toDigits 16 n) :
    ∃ d < 16, c = d.digitChar := by
  induction n using Nat.strong_induction_on with
  | _ n ih =>
    rw [Nat.toDigits_eq_if (by decide)] at h
    split at h
    · next hn => exact ⟨n, hn, List.mem_singleton.mp h⟩
    · next hn =>
      rcases List.mem_append.mp h with h | h
      · exact ih (n / 16) (Nat.div_lt_self (by omega) (by decide)) h
      · exact ⟨n % 16, Nat.mod_lt n (by decide), List.mem_singleton.mp h⟩

theorem exists_digit_of_mem_hex {width n : Nat} {c : Char} (h : c ∈ hex width n) :
    ∃ d < 16, c = d.digitChar := by
  rw [hex, padStart, List.mem_append] at h
  rcases h with h | h
  · exact ⟨0, by decide, List.eq_of_mem_replicate h⟩
  · exact exists_digit_of_mem_toDigits h

/-- The forms in which a character stands inside a literal. -/
inductive IsWritten (quote c : Char) : Text → Prop
  /-- A backslash and one character. -/
  | escaped {d : Char} (hd : d = quote ∨ d ∈ ['\\', 't', 'n', 'r']) : IsWritten quote c ['\\', d]
  /-- The character itself. -/
  | plain (hslash : c ≠ '\\') (hquote : c ≠ quote) (hprintable : isPrintable c = true) :
    IsWritten quote c [c]
  /-- A backslash, a letter and the hexadecimal number of the character. -/
  | numbered {letter : Char} (hletter : letter ∈ ['x', 'u', 'U']) (width : Nat) :
    IsWritten quote c ('\\' :: letter :: hex width c.toNat)

theorem isWritten_writeChar (quote c : Char) : IsWritten quote c (writeChar quote c) := by
  unfold writeChar Quoted.numbered
  split_ifs with hescaped htab hline hreturn hprintable
  · refine .escaped ?_
    rcases (by simpa using hescaped : c = '\\' ∨ c = quote) with rfl | rfl <;> simp
  · exact .escaped (by simp)
  · exact .escaped (by simp)
  · exact .escaped (by simp)
  · obtain ⟨hslash, hne⟩ : c ≠ '\\' ∧ c ≠ quote := by simpa using hescaped
    exact .plain hslash hne hprintable
  · exact .numbered (by simp) 2
  · exact .numbered (by simp) 4
  · exact .numbered (by simp) 8

/-! ### Printable characters -/

theorem IsWritten.printable {c d : Char} {t : Text} (h : IsWritten quote c t)
    (hquote : isPrintable quote = true) (hd : d ∈ t) : isPrintable d = true := by
  have hescapes : ∀ e ∈ ['\\', 't', 'n', 'r'], isPrintable e = true :=
    List.all_eq_true.mp (by decide)
  have hletters : ∀ e ∈ ['x', 'u', 'U'], isPrintable e = true := List.all_eq_true.mp (by decide)
  cases h with
  | @escaped e he =>
    rcases List.mem_cons.mp hd with rfl | hd
    · exact hescapes '\\' (by simp)
    · obtain rfl : d = e := List.mem_singleton.mp hd
      rcases he with rfl | he
      · exact hquote
      · exact hescapes d he
  | plain _ _ hprintable => exact List.mem_singleton.mp hd ▸ hprintable
  | numbered hletter width =>
    rcases List.mem_cons.mp hd with rfl | hd
    · exact hescapes '\\' (by simp)
    · rcases List.mem_cons.mp hd with rfl | hd
      · exact hletters d hletter
      · obtain ⟨n, hn, rfl⟩ := exists_digit_of_mem_hex hd
        interval_cases n <;> decide

/-- A literal shows printable characters only. -/
theorem isPrintable_of_mem_write {t : Text} {c : Char} (h : c ∈ write t) : isPrintable c = true := by
  have hquote : isPrintable (quoteOf t) = true := by
    rcases quoteOf_eq t with h | h <;> rw [h] <;> decide
  rw [write, List.cons_append, List.mem_cons, List.mem_append, List.mem_singleton] at h
  rcases h with rfl | h | rfl
  · exact hquote
  · obtain ⟨d, -, hd⟩ := List.mem_flatMap.mp h
    exact (isWritten_writeChar _ d).printable hquote hd
  · exact hquote

theorem isLineBreak_of_isPrintable {c : Char} (h : isPrintable c = true) : isLineBreak c = false := by
  have hcodes : ∀ n ∈ lineBreakCodes, isPrintable (Char.ofNat n) = false := by decide +kernel
  rw [Bool.eq_false_iff]
  intro hbreak
  obtain ⟨n, hn, rfl⟩ := exists_code_of_isLineBreak hbreak
  rw [hcodes n hn] at h
  cases h

/-- A literal stays on one line. -/
theorem isUnbroken_write (t : Text) : IsUnbroken (write t) := fun _ hc =>
  isLineBreak_of_isPrintable (isPrintable_of_mem_write hc)

theorem newline_notMem_write (t : Text) : '\n' ∉ write t := fun h =>
  absurd (isUnbroken_write t _ h) (by decide)

/-! ### Where a literal ends -/

/-- What may stand between the quotes of a literal: characters other than the quote and the
backslash, and backslashes that each escape the character behind them. -/
inductive IsInside (quote : Char) : Text → Prop
  /-- A literal may be empty. -/
  | nil : IsInside quote []
  /-- A character stands for itself. -/
  | plain {c : Char} {rest : Text} (hslash : c ≠ '\\') (hquote : c ≠ quote)
      (h : IsInside quote rest) : IsInside quote (c :: rest)
  /-- A backslash takes any character with it. -/
  | escape {c : Char} {rest : Text} (h : IsInside quote rest) : IsInside quote ('\\' :: c :: rest)

theorem IsInside.append {a b : Text} (ha : IsInside quote a) (hb : IsInside quote b) :
    IsInside quote (a ++ b) := by
  induction ha with
  | nil => exact hb
  | plain hslash hquote _ ih => exact .plain hslash hquote ih
  | escape _ ih => exact .escape ih

theorem IsInside.of_forall {t : Text} (h : ∀ c ∈ t, c ≠ '\\' ∧ c ≠ quote) : IsInside quote t := by
  induction t with
  | nil => exact .nil
  | cons c t ih =>
    obtain ⟨hslash, hquote⟩ := h c List.mem_cons_self
    exact .plain hslash hquote (ih fun d hd => h d (List.mem_cons_of_mem _ hd))

theorem IsWritten.isInside {c : Char} {t : Text} (h : IsWritten quote c t)
    (hquote : quote = '\'' ∨ quote = '"') : IsInside quote t := by
  cases h with
  | escaped => exact .escape .nil
  | plain hslash hne => exact .plain hslash hne .nil
  | numbered hletter width =>
    refine .escape (.of_forall fun d hd => ?_)
    obtain ⟨n, hn, rfl⟩ := exists_digit_of_mem_hex hd
    rcases hquote with rfl | rfl <;> interval_cases n <;> decide

theorem isInside_flatMap_writeChar (hquote : quote = '\'' ∨ quote = '"') (t : Text) :
    IsInside quote (t.flatMap (writeChar quote)) := by
  induction t with
  | nil => exact .nil
  | cons c t ih => exact ((isWritten_writeChar quote c).isInside hquote).append ih

/-- How many backslashes a text ends with. -/
def finalSlashes (t : Text) : Nat := (t.reverse.takeWhile (· = '\\')).length

theorem finalSlashes_of_all {t : Text} (h : ∀ c ∈ t, c = '\\') : finalSlashes t = t.length := by
  rw [finalSlashes, List.takeWhile_eq_self_iff.mpr (by simpa using h), List.length_reverse]

/-- The final backslashes of a text that has other characters do not depend on what stands before it. -/
theorem finalSlashes_cons_of_not_all {t : Text} (h : ¬ ∀ d ∈ t, d = '\\') (c : Char) :
    finalSlashes (c :: t) = finalSlashes t := by
  have hlength : (t.reverse.takeWhile (· = '\\')).length ≠ t.reverse.length := fun hlength => by
    have hself := (List.takeWhile_prefix (p := (· = '\\')) (l := t.reverse)).eq_of_length hlength
    exact h (by simpa using List.takeWhile_eq_self_iff.mp hself)
  rw [finalSlashes, List.reverse_cons, List.takeWhile_append, if_neg hlength, finalSlashes]

theorem finalSlashes_cons_of_ne {c : Char} (hc : c ≠ '\\') (t : Text) :
    finalSlashes (c :: t) = finalSlashes t := by
  by_cases hall : ∀ d ∈ t, d = '\\'
  · have hrun : ∀ d ∈ t.reverse, decide (d = '\\') = true := by simpa using hall
    rw [finalSlashes_of_all hall, finalSlashes, List.reverse_cons, List.takeWhile_append_of_pos hrun]
    simp [hc]
  · exact finalSlashes_cons_of_not_all hall c

/-- An escape before a text does not change whether the final backslashes escape what follows. -/
theorem odd_finalSlashes_escape {c : Char} {t : Text} (h : Odd (finalSlashes t)) :
    Odd (finalSlashes ('\\' :: c :: t)) := by
  by_cases hall : ∀ d ∈ c :: t, d = '\\'
  · obtain ⟨-, ht⟩ := List.forall_mem_cons.mp hall
    rw [finalSlashes_of_all ht] at h
    rw [finalSlashes_of_all (List.forall_mem_cons.mpr ⟨rfl, hall⟩), List.length_cons,
      List.length_cons, Nat.add_assoc]
    exact h.add_even even_two
  · rw [finalSlashes_cons_of_not_all hall]
    by_cases hc : c = '\\'
    · rwa [finalSlashes_cons_of_not_all fun ht => hall (List.forall_mem_cons.mpr ⟨hc, ht⟩)]
    · rwa [finalSlashes_cons_of_ne hc]

/-- Between the quotes every occurrence of the quote is escaped. -/
theorem IsInside.odd_finalSlashes {before after : Text} (h : IsInside quote (before ++ quote :: after))
    (hquote : quote ≠ '\\') : Odd (finalSlashes before) := by
  generalize ht : before ++ quote :: after = t at h
  induction h generalizing before with
  | nil => simp at ht
  | @plain c rest hslash hne _ ih =>
    cases before with
    | nil => exact absurd (List.cons.inj ht).1.symm hne
    | cons d before =>
      obtain ⟨rfl, hrest⟩ := List.cons.inj ht
      rw [finalSlashes_cons_of_ne hslash]
      exact ih hrest
  | @escape c rest _ ih =>
    match before, ht with
    | [], ht => exact absurd (List.cons.inj ht).1 hquote
    | [d], ht =>
      obtain ⟨rfl, -⟩ := List.cons.inj ht
      exact ⟨0, rfl⟩
    | d :: e :: before, ht =>
      simp only [List.cons_append, List.cons.injEq] at ht
      obtain ⟨rfl, rfl, hrest⟩ := ht
      exact odd_finalSlashes_escape (ih hrest)

end SnippetBench.Text.Quoted
