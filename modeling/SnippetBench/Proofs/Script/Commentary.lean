import SnippetBench.Proofs.Script.BlockLines
import SnippetBench.Proofs.Script.Heading
import SnippetBench.Proofs.Text.UniversalLines

/-!
# The heading as commentary

A heading is written to consist of comments, and the source and the digest stand in it as they are. A
reader of scripts ends a line at `\n`, `\r` and `\r\n` alike, so a source with such a line end leaves its
comment, and what stands behind the line end is code unless it begins with `#` itself
(`isCommentary_heading`). A source or a digest of one line stays in its comment
(`staysCommentary_of_notMem`).
-/

namespace SnippetBench.Script

open Document (Item)
open Text (universalLines)

/-- Every line of the text is a comment. -/
def IsCommentary (t : Text) : Prop := ∀ l ∈ universalLines t, l.head? = some '#'

/-- A text that is written at the end of a comment stays commentary: each of its further lines is a
comment. -/
def StaysCommentary (t : Text) : Prop :=
  ∀ l ∈ (universalLines (t ++ ['\n'])).tail, l.head? = some '#'

instance (t : Text) : Decidable (IsCommentary t) :=
  inferInstanceAs (Decidable (∀ l ∈ universalLines t, l.head? = some '#'))

instance (t : Text) : Decidable (StaysCommentary t) :=
  inferInstanceAs (Decidable (∀ l ∈ (universalLines (t ++ ['\n'])).tail, l.head? = some '#'))

variable {label s t : Text} {samples iterations : Int} {source digest : Option Text}

/-! ### Comments -/

theorem isCommentary_append (h : s.getLast? = some '\n') (t : Text) :
    IsCommentary (s ++ t) ↔ IsCommentary s ∧ IsCommentary t := by
  obtain ⟨front, rfl⟩ := List.getLast?_eq_some_iff.mp h
  rw [IsCommentary, List.append_assoc, List.singleton_append, Text.universalLines_append,
    List.forall_mem_append]
  rfl

/-- A text behind a label. -/
theorem isCommentary_labelled (hlabel : label.head? = some '#') (hnewline : '\n' ∉ label)
    (hreturn : '\r' ∉ label) (t : Text) :
    IsCommentary (label ++ (t ++ ['\n'])) ↔ StaysCommentary t := by
  have hne : universalLines (t ++ ['\n']) ≠ [] := by
    refine Text.newlineLines_ne_nil fun hnil => ?_
    obtain ⟨front, hfront⟩ := Text.exists_normalizeNewlines_append t
    rw [hfront] at hnil
    simp at hnil
  obtain ⟨l, ls, hlines⟩ := List.exists_cons_of_ne_nil hne
  have hhead : (label ++ l).head? = some '#' := by
    rw [List.head?_append, hlabel]
    rfl
  rw [IsCommentary, Text.universalLines_run hnewline hreturn hlines, StaysCommentary, hlines,
    List.forall_mem_cons]
  exact and_iff_right hhead

theorem staysCommentary_of_notMem (hnewline : '\n' ∉ t) (hreturn : '\r' ∉ t) :
    StaysCommentary t := by
  have hlines : universalLines ['\n'] = [['\n']] := rfl
  rw [StaysCommentary, Text.universalLines_run hnewline hreturn hlines]
  exact fun l hl => absurd hl List.not_mem_nil

theorem staysCommentary_ofInt (n : Int) : StaysCommentary (Text.ofInt n) :=
  staysCommentary_of_notMem (notMem_ofInt (by decide) (by decide) n)
    (notMem_ofInt (by decide) (by decide) n)

/-! ### The heading -/

theorem getLast?_heading (samples iterations : Int) (source digest : Option Text) :
    (heading samples iterations source digest).getLast? = some '\n' := by
  rw [heading, List.getLast?_append_of_ne_nil _ (by decide)]
  rfl

/-- The line of the source stands behind the heading without it. -/
theorem heading_source (samples iterations : Int) (source : Text) :
    heading samples iterations (some source) none =
      heading samples iterations none none ++ ("# source: ".toList ++ (source ++ ['\n'])) := by
  unfold heading
  dsimp only
  rw [Option.map_some, Option.toList_some, Option.map_none, Option.toList_none, List.append_nil,
    Option.map_none, Option.toList_none, List.append_nil, List.append_nil,
    Text.join_concat (by simp)]
  simp only [List.append_assoc, List.cons_append, List.nil_append]

/-- Without a source and a digest the heading is commentary. -/
theorem isCommentary_heading_none (samples iterations : Int) :
    IsCommentary (heading samples iterations none none) := by
  have hheading : heading samples iterations none none =
      "# auto-generated using pybm 0.3.0\n#\n".toList ++
        ("# samples: ".toList ++ (Text.ofInt samples ++ ['\n']) ++
          ("# iterations: ".toList ++ (Text.ofInt iterations ++ ['\n']))) := by
    unfold heading
    dsimp only
    rw [Option.map_none, Option.toList_none, List.append_nil, Option.map_none, Option.toList_none,
      List.append_nil]
    simp [Text.join, version]
  have hsamples : ("# samples: ".toList ++ (Text.ofInt samples ++ ['\n'])).getLast? = some '\n' := by
    rw [← List.append_assoc, List.getLast?_concat]
  rw [hheading, isCommentary_append (by decide), isCommentary_append hsamples,
    isCommentary_labelled (by decide) (by decide) (by decide),
    isCommentary_labelled (by decide) (by decide) (by decide)]
  exact ⟨by decide, staysCommentary_ofInt samples, staysCommentary_ofInt iterations⟩

theorem isCommentary_heading_source (samples iterations : Int) (source : Option Text) :
    IsCommentary (heading samples iterations source none) ↔
      ∀ s, source = some s → StaysCommentary s := by
  have hnone := isCommentary_heading_none samples iterations
  cases source with
  | none => simp [hnone]
  | some s =>
    rw [heading_source, isCommentary_append (getLast?_heading ..),
      isCommentary_labelled (by decide) (by decide) (by decide), and_iff_right hnone]
    simp

/-- A script is its heading, without line ends at its end, and what does not depend on the source and the
digest. -/
theorem exists_build_eq_heading (hs : 1 ≤ samples) (hi : 1 ≤ iterations) (markdown : Bool)
    (items : List Item) : ∃ rest, ∀ source digest,
      build ⟨samples, iterations, source, digest, markdown⟩ items =
        .ok (ended (heading samples iterations source digest) ++ '\n' :: rest) := by
  obtain ⟨rest, hrest⟩ := exists_join_cons
    ((front ⟨samples, iterations, none, none, markdown⟩ items).tail ++
      items.map (placed ⟨samples, iterations, none, none, markdown⟩))
  refine ⟨rest, fun source digest => ?_⟩
  rw [build_eq hs hi, ← hrest]
  rfl

/-- Commentary has no empty lines at its end. -/
theorem ended_heading (h : IsCommentary (heading samples iterations source digest)) :
    ended (heading samples iterations source digest) ++ ['\n'] =
      heading samples iterations source digest := by
  obtain ⟨front, hfront⟩ := List.getLast?_eq_some_iff.mp
    (getLast?_heading samples iterations source digest)
  rw [hfront] at h ⊢
  have hlast : front.getLast? ≠ some '\n' := by
    intro hend
    obtain ⟨body, rfl⟩ := List.getLast?_eq_some_iff.mp hend
    rw [isCommentary_append hend] at h
    exact absurd h.2 (by decide)
  rw [ended_append_newline hlast]

/-- **The heading is commentary** exactly if the source and the digest stay in their comments, which a
text without line ends does. The lines of a script are those of its heading, without empty lines at its
end, and lines that are the same for all sources and digests. -/
theorem isCommentary_heading (samples iterations : Int) :
    (∀ source digest, IsCommentary (heading samples iterations source digest) ↔
      (∀ s, source = some s → StaysCommentary s) ∧ ∀ d, digest = some d → StaysCommentary d) ∧
    (∀ t, '\n' ∉ t → '\r' ∉ t → StaysCommentary t) ∧
    (1 ≤ samples → 1 ≤ iterations → ∀ markdown items, ∃ lines, ∀ source digest, ∃ script,
      build ⟨samples, iterations, source, digest, markdown⟩ items = .ok script ∧
      universalLines script =
        universalLines (ended (heading samples iterations source digest) ++ ['\n']) ++ lines ∧
      (IsCommentary (heading samples iterations source digest) →
        ended (heading samples iterations source digest) ++ ['\n'] =
          heading samples iterations source digest)) := by
  refine ⟨fun source digest => ?_, fun t => staysCommentary_of_notMem, fun hs hi markdown items => ?_⟩
  · cases digest with
    | none => simp [isCommentary_heading_source]
    | some d =>
      rw [heading_digest, List.append_assoc, isCommentary_append (getLast?_heading ..),
        isCommentary_heading_source, isCommentary_labelled (by decide) (by decide) (by decide)]
      simp
  · obtain ⟨rest, hrest⟩ := exists_build_eq_heading hs hi markdown items
    exact ⟨universalLines rest, fun source digest =>
      ⟨_, hrest source digest, Text.universalLines_append _ _, ended_heading⟩⟩

/-- A source of two lines, of which the second is a comment as well. -/
theorem isCommentary_heading_continued :
    ((1 : Int) ≤ 1 ∧ '\n' ∉ ("0f" : Text) ∧ '\r' ∉ ("0f" : Text)) ∧
      IsCommentary (heading 1 1 (some "a\r\n# b") (some "0f")) ∧
      ∃ lines script, build ⟨1, 1, some "a\r\n# b", some "0f", false⟩ [] = .ok script ∧
        universalLines script =
          universalLines (heading 1 1 (some "a\r\n# b") (some "0f")) ++ lines := by
  obtain ⟨hiff, hline, hbuild⟩ := isCommentary_heading 1 1
  have hsource : StaysCommentary "a\r\n# b" := by decide +kernel
  have hdigest : StaysCommentary "0f" := hline _ (by decide) (by decide)
  have hheading : IsCommentary (heading 1 1 (some "a\r\n# b") (some "0f")) :=
    (hiff _ _).mpr ⟨fun s hs => Option.some.inj hs ▸ hsource, fun d hd => Option.some.inj hd ▸ hdigest⟩
  obtain ⟨lines, hlines⟩ := hbuild (by decide) (by decide) false []
  obtain ⟨script, hscript, heq, hended⟩ := hlines (some "a\r\n# b") (some "0f")
  rw [hended hheading] at heq
  exact ⟨by decide, hheading, lines, script, hscript, heq⟩

/-- What stands behind a line end of the source is a line of the script. -/
theorem heading_not_isCommentary :
    ¬ IsCommentary (heading 1 1 (some "a\nimport os") none) ∧
      ∃ script, build ⟨1, 1, some "a\nimport os", none, false⟩ [] = .ok script ∧
        "import os\n".toList ∈ universalLines script := by
  obtain ⟨rest, hrest⟩ := exists_build_eq_heading (Int.le_refl 1) (Int.le_refl 1) false []
  refine ⟨by decide +kernel, _, hrest (some "a\nimport os") none, ?_⟩
  rw [Text.universalLines_append]
  exact List.mem_append_left _ (by decide +kernel)

end SnippetBench.Script
