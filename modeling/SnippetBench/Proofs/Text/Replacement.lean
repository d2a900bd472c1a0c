import SnippetBench.Proofs.Text.LossyDecoding

/-!
# What is replaced in bytes

The lenient reader replaces every mistake by U+FFFD. What a mistake is can be said by what is written for
characters alone: where no character is written, it is as many bytes as begin one, and at least a single
byte (`IsMistake`). So the text that is read is the one text in which the characters that are written
stand and the mistakes between them are replaced (`replaced_iff`).
-/

namespace SnippetBench.Text.Utf8

/-- A character is written with these bytes at its start. -/
def Begins (bytes : List UInt8) : Prop := ∃ c, bytes <+: encodeChar c

/-- In `IsMistake bad rest` the bytes `bad` before `rest` are one mistake. -/
structure IsMistake (bad rest : List UInt8) : Prop where
  ne_nil : bad ≠ []
  /-- The bytes begin a character, unless it is a single byte with which none begins. -/
  begins : bad.length = 1 ∨ Begins bad
  /-- No character is written here. -/
  unwritten : ∀ c, ¬ encodeChar c <+: bad ++ rest
  /-- With the next byte the bytes begin no character any more. -/
  longest : ∀ b, rest.head? = some b → ¬ Begins (bad ++ [b])

/-- In `Replaced bytes t` the text `t` has the characters that are written in the bytes, and U+FFFD for
every mistake. -/
inductive Replaced : List UInt8 → Text → Prop
  /-- No bytes are no text. -/
  | nil : Replaced [] []
  /-- A character that is written is kept. -/
  | char {rest : List UInt8} {t : Text} (c : Char) (h : Replaced rest t) :
      Replaced (encodeChar c ++ rest) (c :: t)
  /-- A mistake is replaced. -/
  | mistake {bad rest : List UInt8} {t : Text} (hbad : IsMistake bad rest) (h : Replaced rest t) :
      Replaced (bad ++ rest) ('\ufffd' :: t)

variable {count count' value low high following : Nat} {b d : UInt8}
  {bad bad' bytes bytes' read rest rest' more : List UInt8} {c : Char} {what : Fault} {t : Text}

/-! ### Characters and their first bytes -/

theorem exists_step_of_starts (h : encodeChar c <+: b :: bytes) :
    ∃ rest, step b bytes = .char c rest := by
  obtain ⟨b', form, hform, hstep⟩ := exists_step_encodeChar c
  obtain ⟨rest, hrest⟩ := h
  rw [hform, List.cons_append, List.cons.injEq] at hrest
  obtain ⟨rfl, rfl⟩ := hrest
  exact ⟨rest, hstep rest⟩

/-- Bytes begin a character if the reader finds one when other bytes come behind them. -/
theorem begins_cons_iff : Begins (b :: bytes) ↔ ∃ more c, step b (bytes ++ more) = .char c [] := by
  constructor
  · rintro ⟨c, more, hmore⟩
    obtain ⟨b', form, hform, hstep⟩ := exists_step_encodeChar c
    rw [hform, List.cons_append, List.cons.injEq] at hmore
    obtain ⟨rfl, rfl⟩ := hmore
    have hfound := hstep []
    rw [List.append_nil] at hfound
    exact ⟨more, c, hfound⟩
  · rintro ⟨more, c, hstep⟩
    have hform := encodeChar_of_step hstep
    rw [List.append_nil] at hform
    exact ⟨c, more, hform⟩

theorem Begins.of_shorter (h : Begins bytes) (hstart : bytes' <+: bytes) : Begins bytes' := by
  obtain ⟨c, hc⟩ := h
  exact ⟨c, hstart.trans hc⟩

/-! ### Mistakes that the reader finds -/

/-- Continuation bytes can always be put behind those that were read. -/
theorem exists_continuations_char (hrange : low ≤ high) (hbyte : high < 256) (count value : Nat) :
    ∃ more c, continuations count value low high following more = .char c [] := by
  induction following generalizing count value low high with
  | zero => exact ⟨[], Char.ofNat value, rfl⟩
  | succ following ih =>
    obtain ⟨more, c, hmore⟩ := @ih 0x80 0xBF (by decide) (by decide) (count + 1)
      (value * 64 + ((UInt8.ofNat low).toNat - 0x80))
    have hlow : (UInt8.ofNat low).toNat = low := toNat_ofNat_of_lt (by omega)
    refine ⟨UInt8.ofNat low :: more, c, ?_⟩
    rw [continuations, if_pos (by omega), hmore]

/-- Where a continuation byte is missing, those that were read are not the last that could be: others can
be put behind them, but not the byte that follows. -/
theorem read_of_continuations (hrange : low ≤ high) (hbyte : high < 256)
    (h : continuations count value low high following bytes = .fault what count' rest) :
    ∃ read, bytes = read ++ rest ∧
      (∃ more c, continuations count value low high following (read ++ more) = .char c []) ∧
      ∀ d more c, rest.head? = some d →
        continuations count value low high following (read ++ d :: more) ≠ .char c [] := by
  induction following generalizing count value low high bytes with
  | zero => cases h
  | succ following ih =>
    cases bytes with
    | nil =>
      cases h
      exact ⟨[], rfl, exists_continuations_char hrange hbyte _ _, by simp⟩
    | cons b bytes =>
      by_cases hb : low ≤ b.toNat ∧ b.toNat ≤ high
      · have hcons : ∀ tail, continuations count value low high (following + 1) (b :: tail) =
            continuations (count + 1) (value * 64 + (b.toNat - 0x80)) 0x80 0xBF following tail :=
          fun tail => by rw [continuations, if_pos hb]
        rw [hcons] at h
        obtain ⟨read, rfl, ⟨more, c, hmore⟩, hstop⟩ := ih (by decide) (by decide) h
        refine ⟨b :: read, rfl, ⟨more, c, ?_⟩, fun d more c hd => ?_⟩
        · rw [List.cons_append, hcons, hmore]
        · rw [List.cons_append, hcons]
          exact hstop d more c hd
      · rw [continuations, if_neg hb] at h
        cases h
        refine ⟨[], rfl, exists_continuations_char hrange hbyte _ _, fun d more c hd => ?_⟩
        obtain rfl : b = d := by simpa using hd
        rw [List.nil_append, continuations, if_neg hb]
        exact fun hchar => by cases hchar

/-- **What the reader refuses** is one mistake. -/
theorem isMistake_of_step (h : step b bytes = .fault what count rest) :
    ∃ read, bytes = read ++ rest ∧ IsMistake (b :: read) rest := by
  have hunwritten : ∀ c, ¬ encodeChar c <+: b :: bytes := by
    intro c hstart
    obtain ⟨rest', hstep⟩ := exists_step_of_starts hstart
    rw [hstep] at h
    cases h
  cases hlead : lead? b with
  | none =>
    have hstep : ∀ tail, step b tail = .fault .start 1 tail := fun tail => by rw [step, hlead]
    rw [hstep] at h
    cases h
    refine ⟨[], rfl, by simp, .inl rfl, hunwritten, fun d _ hbegins => ?_⟩
    obtain ⟨more, c, hmore⟩ := begins_cons_iff.mp hbegins
    rw [hstep] at hmore
    cases hmore
  | some l =>
    have hstep : ∀ tail, step b tail = continuations 1 l.value l.low l.high l.following tail :=
      fun tail => by rw [step, hlead]
    obtain ⟨-, hrange, hbyte⟩ := range_of_lead? hlead
    rw [hstep] at h
    obtain ⟨read, rfl, ⟨more, c, hmore⟩, hstop⟩ := read_of_continuations hrange hbyte h
    rw [← hstep] at hmore
    refine ⟨read, rfl, by simp, .inr (begins_cons_iff.mpr ⟨more, c, hmore⟩), hunwritten,
      fun d hd hbegins => ?_⟩
    rw [List.cons_append] at hbegins
    obtain ⟨more, c, hmore⟩ := begins_cons_iff.mp hbegins
    rw [hstep, List.append_assoc] at hmore
    exact hstop d more c hd hmore

/-! ### Texts -/

theorem replaced_decodeLossy (bytes : List UInt8) : Replaced bytes (decodeLossy bytes) := by
  fun_induction decodeLossy bytes with
  | case1 => exact .nil
  | case2 b bytes c rest hstep ih =>
    rw [encodeChar_of_step hstep]
    exact .char c ih
  | case3 b bytes what count rest hstep ih =>
    obtain ⟨read, rfl, hmistake⟩ := isMistake_of_step hstep
    exact .mistake hmistake ih

/-- A mistake does not go on with the byte behind it. -/
theorem IsMistake.not_append (h : IsMistake bad (d :: rest)) : ¬ IsMistake (bad ++ d :: more) rest' := by
  intro hlonger
  refine h.longest d rfl ?_
  rcases hlonger.begins with hlength | hbegins
  · have hpos := List.length_pos_iff.mpr h.ne_nil
    rw [List.length_append, List.length_cons] at hlength
    omega
  · refine hbegins.of_shorter ⟨more, ?_⟩
    rw [List.append_assoc, List.singleton_append]

/-- There is only one mistake at the start of bytes. -/
theorem IsMistake.unique (h : IsMistake bad rest) (h' : IsMistake bad' rest')
    (hsame : bad ++ rest = bad' ++ rest') : bad = bad' ∧ rest = rest' := by
  rcases List.append_eq_append_iff.mp hsame with ⟨more, rfl, rfl⟩ | ⟨more, rfl, rfl⟩
  · cases more with
    | nil => simp
    | cons d more => exact absurd h' h.not_append
  · cases more with
    | nil => simp
    | cons d more => exact absurd h h'.not_append

theorem Replaced.decodeLossy_eq (h : Replaced bytes t) : decodeLossy bytes = t := by
  induction h with
  | nil => rw [decodeLossy]
  | char c _ ih =>
    obtain ⟨b, form, hform, hstep⟩ := exists_step_encodeChar c
    rw [hform, List.cons_append, decodeLossy_of_step (hstep _), ih]
  | @mistake bad rest t hbad _ ih =>
    obtain ⟨b, read, rfl⟩ := List.exists_cons_of_ne_nil hbad.ne_nil
    cases hstep : step b (read ++ rest) with
    | char c rest' => exact absurd ⟨rest', (encodeChar_of_step hstep).symm⟩ (hbad.unwritten c)
    | fault what count rest' =>
      obtain ⟨read', hread, hmistake⟩ := isMistake_of_step hstep
      have hsame : (b :: read) ++ rest = (b :: read') ++ rest' := congrArg (b :: ·) hread
      obtain ⟨-, rfl⟩ := hbad.unique hmistake hsame
      rw [List.cons_append, decodeLossy_of_step_fault hstep, ih]

/-- **The text that is read from bytes** is the one in which their mistakes are replaced. -/
theorem replaced_iff : Replaced bytes t ↔ decodeLossy bytes = t :=
  ⟨Replaced.decodeLossy_eq, fun h => h ▸ replaced_decodeLossy bytes⟩

end SnippetBench.Text.Utf8
