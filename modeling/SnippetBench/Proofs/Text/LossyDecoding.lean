import SnippetBench.Proofs.Text.Utf8

/-!
# Bytes read leniently

What is written as UTF-8 is read as it was written, whatever bytes stand behind it
(`decodeLossy_encode_append`). Before it, any bytes may stand, if they end in a line end: no character
and no mistake extends over the byte of a line end, since it is never a continuation. So the lines that
a program prints are read one by one (`exists_decodeLossy_append`).
-/

namespace SnippetBench.Text.Utf8

variable {count value low high following n : Nat} {b b₁ b₂ b₃ : UInt8} {bytes rest : List UInt8}
  {c : Char}

/-! ### Written characters -/

theorem step_one (h : b.toNat < 0x80) (hvalue : b.toNat = c.toNat) :
    step b rest = .char c rest := by
  unfold step lead?
  dsimp only
  rw [if_pos h]
  exact continuations_zero_eq_char.2 ⟨by rw [hvalue, Char.ofNat_toNat], rfl⟩

theorem step_two (h : 0xC2 ≤ b.toNat ∧ b.toNat < 0xE0) (h₁ : 0x80 ≤ b₁.toNat ∧ b₁.toNat ≤ 0xBF)
    (hvalue : (b.toNat - 0xC0) * 64 + (b₁.toNat - 0x80) = c.toNat) :
    step b (b₁ :: rest) = .char c rest := by
  unfold step lead?
  dsimp only
  rw [if_neg (by omega), if_neg (by omega), if_pos h.2]
  exact continuations_succ_eq_char.2 ⟨b₁, rest, rfl, h₁.1, h₁.2,
    continuations_zero_eq_char.2 ⟨by rw [hvalue, Char.ofNat_toNat], rfl⟩⟩

theorem step_three (h : 0xE0 ≤ b.toNat ∧ b.toNat < 0xF0) (h₁ : 0x80 ≤ b₁.toNat ∧ b₁.toNat ≤ 0xBF)
    (h₂ : 0x80 ≤ b₂.toNat ∧ b₂.toNat ≤ 0xBF) (hlow : b.toNat = 0xE0 → 0xA0 ≤ b₁.toNat)
    (hhigh : b.toNat = 0xED → b₁.toNat ≤ 0x9F)
    (hvalue : ((b.toNat - 0xE0) * 64 + (b₁.toNat - 0x80)) * 64 + (b₂.toNat - 0x80) = c.toNat) :
    step b (b₁ :: b₂ :: rest) = .char c rest := by
  unfold step lead?
  dsimp only
  rw [if_neg (by omega), if_neg (by omega), if_neg (by omega), if_pos h.2]
  dsimp only
  refine continuations_succ_eq_char.2 ⟨b₁, _, rfl, ?_, ?_,
    continuations_succ_eq_char.2 ⟨b₂, rest, rfl, h₂.1, h₂.2,
      continuations_zero_eq_char.2 ⟨by rw [hvalue, Char.ofNat_toNat], rfl⟩⟩⟩
  · split <;> omega
  · split <;> omega

theorem step_four (h : 0xF0 ≤ b.toNat ∧ b.toNat < 0xF5) (h₁ : 0x80 ≤ b₁.toNat ∧ b₁.toNat ≤ 0xBF)
    (h₂ : 0x80 ≤ b₂.toNat ∧ b₂.toNat ≤ 0xBF) (h₃ : 0x80 ≤ b₃.toNat ∧ b₃.toNat ≤ 0xBF)
    (hlow : b.toNat = 0xF0 → 0x90 ≤ b₁.toNat) (hhigh : b.toNat = 0xF4 → b₁.toNat ≤ 0x8F)
    (hvalue : (((b.toNat - 0xF0) * 64 + (b₁.toNat - 0x80)) * 64 + (b₂.toNat - 0x80)) * 64 +
      (b₃.toNat - 0x80) = c.toNat) :
    step b (b₁ :: b₂ :: b₃ :: rest) = .char c rest := by
  unfold step lead?
  dsimp only
  rw [if_neg (by omega), if_neg (by omega), if_neg (by omega), if_neg (by omega), if_pos h.2]
  dsimp only
  refine continuations_succ_eq_char.2 ⟨b₁, _, rfl, ?_, ?_,
    continuations_succ_eq_char.2 ⟨b₂, _, rfl, h₂.1, h₂.2,
      continuations_succ_eq_char.2 ⟨b₃, rest, rfl, h₃.1, h₃.2,
        continuations_zero_eq_char.2 ⟨by rw [hvalue, Char.ofNat_toNat], rfl⟩⟩⟩⟩
  · split <;> omega
  · split <;> omega

theorem toNat_ofNat_of_lt (h : n < 256) : (UInt8.ofNat n).toNat = n := by
  rw [UInt8.toNat_ofNat', Nat.mod_eq_of_lt h]

/-- A character is read from the bytes that are written for it, whatever stands behind them. -/
theorem exists_step_encodeChar (c : Char) :
    ∃ b bytes, encodeChar c = b :: bytes ∧ ∀ rest, step b (bytes ++ rest) = .char c rest := by
  have hvalid : c.toNat < 0xD800 ∨ 0xDFFF < c.toNat ∧ c.toNat < 0x110000 := c.valid
  rw [← Char.ofNat_toNat c, encodeChar_ofNat hvalid, Char.ofNat_toNat]
  split
  · next h1 =>
    have hb := toNat_ofNat_of_lt (n := c.toNat) (by omega)
    exact ⟨_, _, rfl, fun rest => step_one (by omega) hb⟩
  · split
    · have hb := toNat_ofNat_of_lt (n := 0xC0 + c.toNat / 64) (by omega)
      have hb₁ := toNat_ofNat_of_lt (n := 0x80 + c.toNat % 64) (by omega)
      exact ⟨_, _, rfl, fun rest => step_two (by omega) (by omega) (by omega)⟩
    · split
      · have hb := toNat_ofNat_of_lt (n := 0xE0 + c.toNat / 0x1000) (by omega)
        have hb₁ := toNat_ofNat_of_lt (n := 0x80 + c.toNat / 64 % 64) (by omega)
        have hb₂ := toNat_ofNat_of_lt (n := 0x80 + c.toNat % 64) (by omega)
        exact ⟨_, _, rfl, fun rest =>
          step_three (by omega) (by omega) (by omega) (by omega) (by omega) (by omega)⟩
      · have hb := toNat_ofNat_of_lt (n := 0xF0 + c.toNat / 0x40000) (by omega)
        have hb₁ := toNat_ofNat_of_lt (n := 0x80 + c.toNat / 0x1000 % 64) (by omega)
        have hb₂ := toNat_ofNat_of_lt (n := 0x80 + c.toNat / 64 % 64) (by omega)
        have hb₃ := toNat_ofNat_of_lt (n := 0x80 + c.toNat % 64) (by omega)
        exact ⟨_, _, rfl, fun rest =>
          step_four (by omega) (by omega) (by omega) (by omega) (by omega) (by omega) (by omega)⟩

/-! ### Texts -/

theorem decodeLossy_of_step (h : step b bytes = .char c rest) :
    decodeLossy (b :: bytes) = c :: decodeLossy rest := by
  rw [decodeLossy, h]

theorem decodeLossy_of_step_fault {what : Fault} (h : step b bytes = .fault what count rest) :
    decodeLossy (b :: bytes) = '\ufffd' :: decodeLossy rest := by
  rw [decodeLossy, h]

/-- **A written text** is read as it is. -/
theorem decodeLossy_encode_append (t : Text) (rest : List UInt8) :
    decodeLossy (encode t ++ rest) = t ++ decodeLossy rest := by
  induction t with
  | nil => rfl
  | cons c t ih =>
    obtain ⟨b, bytes, hbytes, hstep⟩ := exists_step_encodeChar c
    rw [encode, List.flatMap_cons, hbytes, List.append_assoc, List.cons_append,
      decodeLossy_of_step (hstep _)]
    rw [encode] at ih
    rw [ih, List.cons_append]

/-! ### Line ends -/

/-- In `Stops find bytes` what is found in the bytes before a line end does not depend on what stands
behind that: a character or a fault, with some of these bytes left unread. -/
inductive Stops (find : List UInt8 → Found) (bytes : List UInt8) : Prop
  | char (c : Char) (unread : List UInt8) (hlength : unread.length ≤ bytes.length)
      (h : ∀ rest, find (bytes ++ 0x0A :: rest) = .char c (unread ++ 0x0A :: rest))
  | fault (what : Fault) (count : Nat) (unread : List UInt8) (hlength : unread.length ≤ bytes.length)
      (h : ∀ rest, find (bytes ++ 0x0A :: rest) = .fault what count (unread ++ 0x0A :: rest))

/-- The byte of a line end is no continuation. -/
theorem stops_continuations (hlow : 0x80 ≤ low) (count value high following : Nat)
    (bytes : List UInt8) : Stops (continuations count value low high following) bytes := by
  induction following generalizing count value low high bytes with
  | zero => exact .char _ bytes (Nat.le_refl _) fun rest => rfl
  | succ following ih =>
    cases bytes with
    | nil =>
      refine .fault .continuation count [] (Nat.le_refl _) fun rest => ?_
      have hend : ¬ (low ≤ (0x0A : UInt8).toNat ∧ (0x0A : UInt8).toNat ≤ high) := fun h =>
        absurd (Nat.le_trans hlow h.1) (by decide)
      rw [List.nil_append, continuations, if_neg hend]
    | cons b bytes =>
      by_cases hb : low ≤ b.toNat ∧ b.toNat ≤ high
      · have hcons : ∀ rest, continuations count value low high (following + 1) (b :: bytes ++ rest) =
            continuations (count + 1) (value * 64 + (b.toNat - 0x80)) 0x80 0xBF following
              (bytes ++ rest) := fun rest => by
          rw [List.cons_append, continuations, if_pos hb]
        rcases ih (Nat.le_refl _) (count + 1) (value * 64 + (b.toNat - 0x80)) 0xBF bytes with
          ⟨c, unread, hlength, h⟩ | ⟨what, k, unread, hlength, h⟩
        · exact .char c unread (Nat.le_succ_of_le hlength) fun rest => by rw [hcons, h]
        · exact .fault what k unread (Nat.le_succ_of_le hlength) fun rest => by rw [hcons, h]
      · exact .fault .continuation count (b :: bytes) (Nat.le_refl _) fun rest => by
          rw [List.cons_append, continuations, if_neg hb]

/-- The first continuation byte that a lead asks for is in a range of continuation bytes. -/
theorem range_of_lead? {l : Lead} (h : lead? b = some l) :
    0x80 ≤ l.low ∧ l.low ≤ l.high ∧ l.high < 256 := by
  unfold lead? at h
  dsimp only at h
  split at h
  · cases h
    simp
  split at h
  · cases h
  split at h
  · cases h
    simp
  split at h
  · cases h
    dsimp only
    split <;> split <;> omega
  split at h
  · cases h
    dsimp only
    split <;> split <;> omega
  · cases h

theorem stops_step (b : UInt8) (bytes : List UInt8) : Stops (step b) bytes := by
  cases hlead : lead? b with
  | none => exact .fault .start 1 bytes (Nat.le_refl _) fun rest => by rw [step, hlead]
  | some l =>
    have hstep : step b = continuations 1 l.value l.low l.high l.following := by
      funext rest
      rw [step, hlead]
    rw [hstep]
    exact stops_continuations (range_of_lead? hlead).1 1 l.value l.high l.following bytes

/-- **What ends in a line end** is read by itself, whatever bytes it consists of. -/
theorem exists_decodeLossy_append (bytes : List UInt8) :
    ∃ t, ∀ rest, decodeLossy (bytes ++ 0x0A :: rest) = t ++ '\n' :: decodeLossy rest := by
  induction hlength : bytes.length using Nat.strongRecOn generalizing bytes with
  | _ n ih =>
    cases bytes with
    | nil => exact ⟨[], fun rest => decodeLossy_of_step (step_one (by decide) (by decide))⟩
    | cons b bytes =>
      have hlt : ∀ unread : List UInt8, unread.length ≤ bytes.length → unread.length < n :=
        fun unread h => by
          rw [← hlength, List.length_cons]
          omega
      rcases stops_step b bytes with ⟨c, unread, hle, h⟩ | ⟨what, k, unread, hle, h⟩
      · obtain ⟨t, ht⟩ := ih _ (hlt unread hle) unread rfl
        exact ⟨c :: t, fun rest => by
          rw [List.cons_append, decodeLossy_of_step (h rest), ht, List.cons_append]⟩
      · obtain ⟨t, ht⟩ := ih _ (hlt unread hle) unread rfl
        exact ⟨'\ufffd' :: t, fun rest => by
          rw [List.cons_append, decodeLossy_of_step_fault (h rest), ht, List.cons_append]⟩

end SnippetBench.Text.Utf8
