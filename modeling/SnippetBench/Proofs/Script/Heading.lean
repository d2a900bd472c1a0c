import SnippetBench.Proofs.Script.Layout
import SnippetBench.Proofs.Text.Quoted

/-!
# The digest in the heading

A script begins with its heading, whose last line is the digest of its document, if there is one
(`heading_digest`). Joining the parts takes no more from the heading than the empty line behind it gives
back, so every script that is built with a source and a digest records them (`exists_build_records`).
-/

namespace SnippetBench.Digest.Sha256

/-- A digest stands on one line. -/
theorem newline_notMem_hexDigest (message : List UInt8) : '\n' ∉ hexDigest message := by
  intro hmem
  obtain ⟨word, -, hmem⟩ := List.mem_flatMap.mp hmem
  obtain ⟨d, hd, hdigit⟩ := Text.Quoted.exists_digit_of_mem_hex hmem
  have hall : ∀ d < 16, '\n' ≠ Nat.digitChar d := by decide
  exact hall d hd hdigit

end SnippetBench.Digest.Sha256

namespace SnippetBench.Script

open Document (Item)

/-- A script records a digest if its heading, with the counts and the source, ends in the line of the
digest. -/
def Records (samples iterations : Int) (source digest script : Text) : Prop :=
  heading samples iterations (some source) none ++ ("# sha256: ".toList ++ digest ++ ['\n']) <+: script

instance (samples iterations : Int) (source digest script : Text) :
    Decidable (Records samples iterations source digest script) :=
  inferInstanceAs (Decidable (heading samples iterations (some source) none ++
    ("# sha256: ".toList ++ digest ++ ['\n']) <+: script))

/-- The line of the digest stands behind the heading without it. -/
theorem heading_digest (samples iterations : Int) (source : Option Text) (digest : Text) :
    heading samples iterations source (some digest) =
      heading samples iterations source none ++ ("# sha256: ".toList ++ digest ++ ['\n']) := by
  unfold heading
  dsimp only
  rw [Option.map_some, Option.toList_some, Option.map_none, Option.toList_none, List.append_nil,
    Text.join_concat (by simp)]
  simp only [List.append_assoc, List.cons_append, List.nil_append]

/-- Joined parts with line ends behind them begin with the first part and a line end. The rest is the
same for every first part. -/
theorem exists_join_cons (parts : List Text) :
    ∃ rest, ∀ part, Text.join ['\n', '\n'] (part :: parts) ++ ['\n'] = part ++ '\n' :: rest := by
  cases parts with
  | nil => exact ⟨[], fun part => by simp [Text.join_cons]⟩
  | cons next parts =>
    refine ⟨'\n' :: (next ++ parts.flatMap (['\n', '\n'] ++ ·) ++ ['\n']), fun part => ?_⟩
    rw [Text.join_cons, List.flatMap_cons]
    simp only [List.append_assoc, List.cons_append, List.nil_append]

theorem ended_append_newline {t : Text} (h : t.getLast? ≠ some '\n') : ended (t ++ ['\n']) = t := by
  have htrim : ended (t ++ ['\n']) = ended t := Text.trimEnd_append_of_all (by simp)
  rw [htrim, ended_eq_self h]

/-- **A script records its digest.** -/
theorem exists_build_records {settings : Settings} (hs : 1 ≤ settings.samples)
    (hi : 1 ≤ settings.iterations) {source digest : Text} (hsource : settings.source = some source)
    (hdigest : settings.digest = some digest) (hline : '\n' ∉ digest) (items : List Item) :
    ∃ script, build settings items = .ok script ∧
      Records settings.samples settings.iterations source digest script := by
  refine ⟨_, build_eq hs hi items, ?_⟩
  have hlast : (heading settings.samples settings.iterations (some source) none ++
      ("# sha256: ".toList ++ digest)).getLast? ≠ some '\n' := by
    rw [List.getLast?_append_of_ne_nil _ (by simp)]
    intro h
    rcases List.mem_append.mp (List.mem_of_getLast? h) with h | h
    · exact absurd h (by decide)
    · exact hline h
  have hfront : ∃ parts, front settings items ++ items.map (placed settings) =
      (heading settings.samples settings.iterations (some source) none ++
        ("# sha256: ".toList ++ digest)) :: parts := by
    unfold front
    rw [hsource, hdigest, heading_digest, ← List.append_assoc, ended_append_newline hlast]
    exact ⟨_, rfl⟩
  obtain ⟨parts, hparts⟩ := hfront
  obtain ⟨rest, hrest⟩ := exists_join_cons parts
  rw [hparts, hrest]
  exact ⟨rest, by simp only [List.append_assoc, List.singleton_append]⟩

end SnippetBench.Script
