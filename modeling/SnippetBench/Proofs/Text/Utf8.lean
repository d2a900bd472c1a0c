import SnippetBench.Text.Utf8
import SnippetBench.Proofs.Except

/-!
# Reading and writing UTF-8

The strict reader takes a character only from the bytes that the writer gives for it, since it refuses
overlong forms (`encodeChar_of_step`). So the text that is read from bytes is written as these bytes
again (`encode_of_decode`).
-/

namespace SnippetBench.Text.Utf8

variable {count value low high following n : Nat} {b : UInt8} {bytes rest : List UInt8} {c : Char}

/-! ### One character -/

theorem continuations_zero_eq_char :
    continuations count value low high 0 bytes = .char c rest ↔
      c = Char.ofNat value ∧ rest = bytes := by
  simp [continuations, eq_comm]

theorem continuations_succ_eq_char :
    continuations count value low high (following + 1) bytes = .char c rest ↔
      ∃ b tail, bytes = b :: tail ∧ low ≤ b.toNat ∧ b.toNat ≤ high ∧
        continuations (count + 1) (value * 64 + (b.toNat - 0x80)) 0x80 0xBF following tail =
          .char c rest := by
  cases bytes with
  | nil => simp [continuations]
  | cons b tail =>
    rw [continuations]
    constructor
    · intro h
      split at h
      case isTrue hb => exact ⟨b, tail, rfl, hb.1, hb.2, h⟩
      case isFalse => cases h
    · rintro ⟨_, _, ⟨⟩, hlow, hhigh, h⟩
      rw [if_pos ⟨hlow, hhigh⟩]
      exact h

theorem toNat_ofNat_of_isValidChar (h : n.isValidChar) : (Char.ofNat n).toNat = n := by
  unfold Char.ofNat
  rw [dif_pos h]
  rfl

/-- What the writer gives for a number that is a code point. -/
theorem encodeChar_ofNat (h : n.isValidChar) :
    encodeChar (Char.ofNat n) =
      if n < 0x80 then [UInt8.ofNat n]
      else if n < 0x800 then [UInt8.ofNat (0xC0 + n / 64), UInt8.ofNat (0x80 + n % 64)]
      else if n < 0x10000 then
        [UInt8.ofNat (0xE0 + n / 0x1000), UInt8.ofNat (0x80 + n / 64 % 64),
          UInt8.ofNat (0x80 + n % 64)]
      else
        [UInt8.ofNat (0xF0 + n / 0x40000), UInt8.ofNat (0x80 + n / 0x1000 % 64),
          UInt8.ofNat (0x80 + n / 64 % 64), UInt8.ofNat (0x80 + n % 64)] := by
  unfold encodeChar
  rw [toNat_ofNat_of_isValidChar h]
  simp

theorem ofNat_eq_of_toNat (h : b.toNat = n) : UInt8.ofNat n = b := by
  rw [← h, UInt8.ofNat_toNat]

section Continued

variable {b₁ b₂ b₃ : UInt8} (h₁ : 0x80 ≤ b₁.toNat ∧ b₁.toNat ≤ 0xBF)
  (h₂ : 0x80 ≤ b₂.toNat ∧ b₂.toNat ≤ 0xBF) (h₃ : 0x80 ≤ b₃.toNat ∧ b₃.toNat ≤ 0xBF)

include h₁

theorem encodeChar_two (h : 0xC2 ≤ b.toNat ∧ b.toNat < 0xE0) :
    encodeChar (Char.ofNat ((b.toNat - 0xC0) * 64 + (b₁.toNat - 0x80))) = [b, b₁] := by
  rw [encodeChar_ofNat (.inl (by omega)), if_neg (by omega), if_pos (by omega),
    ofNat_eq_of_toNat (b := b) (by omega), ofNat_eq_of_toNat (b := b₁) (by omega)]

include h₂

/-- The first continuation byte is such that the form is not overlong and gives no surrogate. -/
theorem encodeChar_three (h : 0xE0 ≤ b.toNat ∧ b.toNat < 0xF0)
    (hlow : b.toNat = 0xE0 → 0xA0 ≤ b₁.toNat) (hhigh : b.toNat = 0xED → b₁.toNat ≤ 0x9F) :
    encodeChar (Char.ofNat
      (((b.toNat - 0xE0) * 64 + (b₁.toNat - 0x80)) * 64 + (b₂.toNat - 0x80))) = [b, b₁, b₂] := by
  have hvalid : Nat.isValidChar
      (((b.toNat - 0xE0) * 64 + (b₁.toNat - 0x80)) * 64 + (b₂.toNat - 0x80)) := by
    by_cases hd : b.toNat ≤ 0xED
    · exact .inl (by omega)
    · exact .inr ⟨by omega, by omega⟩
  rw [encodeChar_ofNat hvalid, if_neg (by omega), if_neg (by omega), if_pos (by omega),
    ofNat_eq_of_toNat (b := b) (by omega), ofNat_eq_of_toNat (b := b₁) (by omega),
    ofNat_eq_of_toNat (b := b₂) (by omega)]

include h₃

/-- The first continuation byte is such that the form is not overlong and gives a code point. -/
theorem encodeChar_four (h : 0xF0 ≤ b.toNat ∧ b.toNat < 0xF5)
    (hlow : b.toNat = 0xF0 → 0x90 ≤ b₁.toNat) (hhigh : b.toNat = 0xF4 → b₁.toNat ≤ 0x8F) :
    encodeChar (Char.ofNat
      ((((b.toNat - 0xF0) * 64 + (b₁.toNat - 0x80)) * 64 + (b₂.toNat - 0x80)) * 64 +
        (b₃.toNat - 0x80))) = [b, b₁, b₂, b₃] := by
  rw [encodeChar_ofNat (.inr ⟨by omega, by omega⟩), if_neg (by omega), if_neg (by omega),
    if_neg (by omega), ofNat_eq_of_toNat (b := b) (by omega),
    ofNat_eq_of_toNat (b := b₁) (by omega), ofNat_eq_of_toNat (b := b₂) (by omega),
    ofNat_eq_of_toNat (b := b₃) (by omega)]

end Continued

/-- **A character is read only from the bytes that are written for it.** -/
theorem encodeChar_of_step (h : step b bytes = .char c rest) : b :: bytes = encodeChar c ++ rest := by
  unfold step lead? at h
  dsimp only at h
  by_cases h1 : b.toNat < 0x80
  · rw [if_pos h1] at h
    dsimp only at h
    obtain ⟨hc, hrest⟩ := continuations_zero_eq_char.1 h
    rw [hc, hrest, encodeChar_ofNat (.inl (by omega)), if_pos h1, UInt8.ofNat_toNat]
    rfl
  rw [if_neg h1] at h
  by_cases h2 : b.toNat < 0xC2
  · rw [if_pos h2] at h
    cases h
  rw [if_neg h2] at h
  by_cases h3 : b.toNat < 0xE0
  · rw [if_pos h3] at h
    dsimp only at h
    obtain ⟨b₁, tail, hbytes, hlow, hhigh, h⟩ := continuations_succ_eq_char.1 h
    obtain ⟨hc, hrest⟩ := continuations_zero_eq_char.1 h
    rw [hc, hrest, hbytes, encodeChar_two ⟨hlow, hhigh⟩ ⟨by omega, h3⟩]
    rfl
  rw [if_neg h3] at h
  by_cases h4 : b.toNat < 0xF0
  · rw [if_pos h4] at h
    dsimp only at h
    obtain ⟨b₁, tail, hbytes, hlow, hhigh, h⟩ := continuations_succ_eq_char.1 h
    obtain ⟨b₂, tail', htail, hlow', hhigh', h⟩ := continuations_succ_eq_char.1 h
    obtain ⟨hc, hrest⟩ := continuations_zero_eq_char.1 h
    have h₁ : 0x80 ≤ b₁.toNat ∧ b₁.toNat ≤ 0xBF := by
      constructor
      · split at hlow <;> omega
      · split at hhigh <;> omega
    rw [hc, hrest, hbytes, htail, encodeChar_three h₁ ⟨hlow', hhigh'⟩ ⟨by omega, h4⟩
      (fun he => by rwa [if_pos he] at hlow) fun he => by rwa [if_pos he] at hhigh]
    rfl
  rw [if_neg h4] at h
  by_cases h5 : b.toNat < 0xF5
  · rw [if_pos h5] at h
    dsimp only at h
    obtain ⟨b₁, tail, hbytes, hlow, hhigh, h⟩ := continuations_succ_eq_char.1 h
    obtain ⟨b₂, tail', htail, hlow', hhigh', h⟩ := continuations_succ_eq_char.1 h
    obtain ⟨b₃, tail'', htail', hlow'', hhigh'', h⟩ := continuations_succ_eq_char.1 h
    obtain ⟨hc, hrest⟩ := continuations_zero_eq_char.1 h
    have h₁ : 0x80 ≤ b₁.toNat ∧ b₁.toNat ≤ 0xBF := by
      constructor
      · split at hlow <;> omega
      · split at hhigh <;> omega
    rw [hc, hrest, hbytes, htail, htail', encodeChar_four h₁ ⟨hlow', hhigh'⟩ ⟨hlow'', hhigh''⟩
      ⟨by omega, h5⟩ (fun he => by rwa [if_pos he] at hlow) fun he => by rwa [if_pos he] at hhigh]
    rfl
  · rw [if_neg h5] at h
    cases h

/-! ### Texts -/

theorem encode_of_decodeFrom {position : Nat} {t : Text} (h : decodeFrom position bytes = .ok t) :
    encode t = bytes := by
  induction position, bytes using decodeFrom.induct generalizing t with
  | case1 =>
    rw [decodeFrom] at h
    cases h
    rfl
  | case2 position b bytes c rest hstep ih =>
    rw [decodeFrom, hstep] at h
    obtain ⟨u, hu, rfl⟩ := map_eq_ok_iff.1 h
    rw [encodeChar_of_step hstep, ← ih hu]
    rfl
  | case3 position b bytes what count rest hstep =>
    rw [decodeFrom, hstep] at h
    cases h

/-- **The text that is read from bytes is written as these bytes.** -/
theorem encode_of_decode {t : Text} (h : decode bytes = .ok t) : encode t = bytes :=
  encode_of_decodeFrom h

end SnippetBench.Text.Utf8
