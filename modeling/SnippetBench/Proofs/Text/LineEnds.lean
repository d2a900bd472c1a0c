import SnippetBench.Files.Access
import SnippetBench.Proofs.Text.Utf8
import Mathlib.Data.List.Basic

/-!
# Line ends in bytes

A file that is read as text loses its carriage returns: written again, its text has the bytes of the
file with every line end `\r\n` and `\r` replaced by `\n` (`encode_of_textOfBytes`). These are the bytes
of the file only if there is no carriage return among them (`withNewlines_eq_self_iff`).
-/

namespace SnippetBench.Text.Utf8

/-- The bytes with every line end `\r\n` and `\r` replaced by `\n`. -/
def withNewlines : List UInt8 → List UInt8
  | [] => []
  | 0x0D :: 0x0A :: rest => 0x0A :: withNewlines rest
  | 0x0D :: rest => 0x0A :: withNewlines rest
  | b :: rest => b :: withNewlines rest

variable {bytes rest : List UInt8} {b : UInt8} {c : Char}

theorem withNewlines_cons (h : b ≠ 0x0D) (rest : List UInt8) :
    withNewlines (b :: rest) = b :: withNewlines rest := by
  rw [withNewlines]
  · rintro tail rfl -
    exact h rfl
  · rintro rfl
    exact h rfl

theorem withNewlines_return (h : rest.head? ≠ some 0x0A) :
    withNewlines (0x0D :: rest) = 0x0A :: withNewlines rest := by
  rw [withNewlines]
  rintro tail rfl
  exact h rfl

theorem withNewlines_append (h : 0x0D ∉ bytes) (rest : List UInt8) :
    withNewlines (bytes ++ rest) = bytes ++ withNewlines rest := by
  induction bytes with
  | nil => rfl
  | cons b bytes ih =>
    rw [List.mem_cons, not_or] at h
    rw [List.cons_append, withNewlines_cons (Ne.symm h.1), ih h.2, List.cons_append]

theorem return_notMem_withNewlines (bytes : List UInt8) : 0x0D ∉ withNewlines bytes := by
  induction bytes using withNewlines.induct with
  | case1 => simp [withNewlines]
  | case2 rest ih =>
    rw [withNewlines, List.mem_cons, not_or]
    exact ⟨by decide, ih⟩
  | case3 rest h ih =>
    rw [withNewlines, List.mem_cons, not_or]
    · exact ⟨by decide, ih⟩
    · exact h
  | case4 b rest h h' ih =>
    have hne : b ≠ 0x0D := h'
    rw [withNewlines_cons hne, List.mem_cons, not_or]
    exact ⟨Ne.symm hne, ih⟩

/-- **The bytes are the same only without carriage returns.** -/
theorem withNewlines_eq_self_iff : withNewlines bytes = bytes ↔ 0x0D ∉ bytes := by
  constructor
  · intro h
    rw [← h]
    exact return_notMem_withNewlines bytes
  · intro h
    have happend := withNewlines_append h []
    rwa [List.append_nil, withNewlines, List.append_nil] at happend

/-! ### Characters -/

/-- A byte below 128 stands for the character with its number, and for nothing else. -/
theorem toNat_eq_of_mem_encodeChar (hb : b.toNat < 0x80) (h : b ∈ encodeChar c) :
    c.toNat = b.toNat := by
  have hlt : c.toNat < 0x110000 := by
    rcases c.valid with h | ⟨-, h⟩
    · exact Nat.lt_trans h (by decide)
    · exact h
  have hbyte {n : Nat} (h : b = UInt8.ofNat n) : b.toNat = n % 256 := by
    rw [h, UInt8.toNat_ofNat']
  unfold encodeChar at h
  simp only [Nat.pow_eq] at h
  split at h
  · have := hbyte (List.mem_singleton.1 h)
    omega
  -- all bytes of a longer form are at least 128
  all_goals exfalso
  split at h
  · simp only [List.mem_cons, List.not_mem_nil, or_false] at h
    rcases h with h | h
    all_goals
      have := hbyte h
      omega
  split at h
  · simp only [List.mem_cons, List.not_mem_nil, or_false] at h
    rcases h with h | h | h
    all_goals
      have := hbyte h
      omega
  · simp only [List.mem_cons, List.not_mem_nil, or_false] at h
    rcases h with h | h | h | h
    all_goals
      have := hbyte h
      omega

theorem return_notMem_encodeChar (h : c ≠ '\r') : 0x0D ∉ encodeChar c := fun hmem =>
  h (Char.toNat_inj.1 (toNat_eq_of_mem_encodeChar (by decide) hmem))

theorem encodeChar_ne_nil (c : Char) : encodeChar c ≠ [] := by
  unfold encodeChar
  dsimp only
  split
  · exact List.cons_ne_nil _ _
  split
  · exact List.cons_ne_nil _ _
  split <;> exact List.cons_ne_nil _ _

/-- The bytes of a text begin with a line end only if the text does. -/
theorem head?_encode_ne_newline {t : Text} (h : t.head? ≠ some '\n') :
    (encode t).head? ≠ some 0x0A := by
  cases t with
  | nil => exact fun hhead => by cases hhead
  | cons c t =>
    rw [encode, List.flatMap_cons, List.head?_append_of_ne_nil _ (encodeChar_ne_nil c)]
    intro hhead
    have hc := toNat_eq_of_mem_encodeChar (by decide) (List.mem_of_head? hhead)
    exact h (congrArg some (Char.toNat_inj.1 hc))

/-! ### Texts -/

/-- Replacing the line ends of a text replaces those of its bytes. -/
theorem encode_normalizeNewlines (t : Text) :
    encode (normalizeNewlines t) = withNewlines (encode t) := by
  induction t using normalizeNewlines.induct with
  | case1 => rfl
  | case2 rest ih =>
    rw [normalizeNewlines]
    exact congrArg (0x0A :: ·) ih
  | case3 rest h ih =>
    have hhead : rest.head? ≠ some '\n' := by
      cases rest with
      | nil => exact fun hhead => by cases hhead
      | cons c tail =>
        rintro ⟨⟩
        exact h tail rfl
    have hbytes : encode ('\r' :: rest) = 0x0D :: encode rest := rfl
    rw [normalizeNewlines, hbytes, withNewlines_return (head?_encode_ne_newline hhead), ← ih]
    · rfl
    · exact h
  | case4 c rest h h' ih =>
    rw [normalizeNewlines, encode, encode, List.flatMap_cons, List.flatMap_cons,
      withNewlines_append (return_notMem_encodeChar h')]
    · exact congrArg (encodeChar c ++ ·) ih
    · exact h
    · exact h'

/-- **The text that is read from a file** is written as the bytes of the file with their line ends
replaced. -/
theorem encode_of_textOfBytes {t : Text} (h : Files.textOfBytes bytes = .ok t) :
    encode t = withNewlines bytes := by
  obtain ⟨u, hu, rfl⟩ := map_eq_ok_iff.1 h
  rw [encode_normalizeNewlines, encode_of_decode hu]

end SnippetBench.Text.Utf8
