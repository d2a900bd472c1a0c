import SnippetBench.Document.Item
import SnippetBench.Proofs.Document.Tokenized

/-!
# The outline of a document

Cut at its declaration lines, a document is a lead and sections, each of them a declaration line and
the lines up to the next one. `Item.ofText_eq_items` says that the items of a valid document are
those of its outline: one content for the lead, one snippet for every named section, and for every
section without a name an empty content and one content for its body. A lead or body without lines
gives no content.
-/

namespace SnippetBench.Document

/-- A declaration line and the lines up to the next one. -/
@[ext]
structure Section where
  declaration : Text
  body : List Text
  isDeclaration : IsDeclaration declaration
  plain : ∀ l ∈ body, ¬ IsDeclaration l

/-- Lines, cut at the declaration lines among them. -/
@[ext]
structure Outline where
  lead : List Text
  sections : List Section
  plain : ∀ l ∈ lead, ¬ IsDeclaration l

/-- The item of a run of content lines, if there are any. -/
def contentItems (lines : List Text) : List Item :=
  if lines = [] then [] else [.content (Text.strip lines.flatten)]

namespace Section

/-- The lines of a section. -/
def lines (s : Section) : List Text := s.declaration :: s.body

/-- The items of a section: a snippet, or an empty content and the content of its body. -/
def items (s : Section) : List Item :=
  if nameOf s.declaration = [] then .content [] :: contentItems s.body
  else [.snippet ⟨nameOf s.declaration, Text.strip s.body.flatten⟩]

end Section

namespace Outline

/-- The lines of an outline in order. -/
def lines (o : Outline) : List Text := o.lead ++ o.sections.flatMap Section.lines

/-- The items of an outline in order. -/
def items (o : Outline) : List Item := contentItems o.lead ++ o.sections.flatMap Section.items

/-- The outline of lines. -/
def ofLines : List Text → Outline
  | [] => ⟨[], [], by simp⟩
  | line :: lines =>
    let rest := ofLines lines
    if h : IsDeclaration line then
      ⟨[], ⟨line, rest.lead, h, rest.plain⟩ :: rest.sections, by simp⟩
    else ⟨line :: rest.lead, rest.sections, by simpa [h] using rest.plain⟩

theorem ofLines_declaration {line : Text} (h : IsDeclaration line) (lines : List Text) :
    ofLines (line :: lines) = ⟨[], ⟨line, (ofLines lines).lead, h, (ofLines lines).plain⟩ ::
      (ofLines lines).sections, by simp⟩ := by
  rw [ofLines, dif_pos h]

theorem lead_content {line : Text} (h : ¬ IsDeclaration line) (lines : List Text) :
    (ofLines (line :: lines)).lead = line :: (ofLines lines).lead := by
  rw [ofLines, dif_neg h]

theorem sections_content {line : Text} (h : ¬ IsDeclaration line) (lines : List Text) :
    (ofLines (line :: lines)).sections = (ofLines lines).sections := by
  rw [ofLines, dif_neg h]

/-- Cutting loses no line and puts none into two places. -/
theorem lines_ofLines (lines : List Text) : (ofLines lines).lines = lines := by
  induction lines with
  | nil => rfl
  | cons line rest ih =>
    unfold Outline.lines at ih ⊢
    by_cases h : IsDeclaration line
    · rw [ofLines_declaration h, List.nil_append, List.flatMap_cons, Section.lines, List.cons_append,
        ih]
    · rw [lead_content h, sections_content h, List.cons_append, ih]

/-- A run of content lines belongs to the lead. -/
theorem ofLines_run {run : List Text} (plain : ∀ l ∈ run, ¬ IsDeclaration l) (lines : List Text) :
    (ofLines (run ++ lines)).lead = run ++ (ofLines lines).lead ∧
      (ofLines (run ++ lines)).sections = (ofLines lines).sections := by
  induction run with
  | nil => exact ⟨rfl, rfl⟩
  | cons l run ih =>
    have hl := plain l List.mem_cons_self
    obtain ⟨hlead, hsections⟩ := ih fun l' hl' => plain l' (List.mem_cons_of_mem _ hl')
    rw [List.cons_append, lead_content hl, sections_content hl, hlead, hsections]
    exact ⟨rfl, rfl⟩

/-- The lines of sections are cut into these sections. -/
theorem ofLines_sections (sections : List Section) :
    ofLines (sections.flatMap Section.lines) = ⟨[], sections, by simp⟩ := by
  induction sections with
  | nil => rfl
  | cons s sections ih =>
    obtain ⟨hbody, hlater⟩ := ofLines_run s.plain (sections.flatMap Section.lines)
    rw [ih] at hbody hlater
    rw [List.append_nil] at hbody
    rw [List.flatMap_cons, Section.lines, List.cons_append, ofLines_declaration s.isDeclaration]
    refine Outline.ext rfl ?_
    exact congrArg₂ List.cons (Section.ext rfl hbody) hlater

/-- The lines of an outline are cut into that outline, so they are those of no other. -/
theorem ofLines_lines (o : Outline) : ofLines o.lines = o := by
  obtain ⟨hlead, hsections⟩ := ofLines_run o.plain (o.sections.flatMap Section.lines)
  rw [ofLines_sections] at hlead hsections
  rw [List.append_nil] at hlead
  exact Outline.ext hlead hsections

theorem lead_eq_nil {lines : List Text} (stop : ∀ l, lines.head? = some l → IsDeclaration l) :
    (ofLines lines).lead = [] := by
  cases lines with
  | nil => rfl
  | cons line lines => rw [ofLines_declaration (stop line rfl)]

end Outline

/-! ### Folding the tokens of an outline -/

theorem strip_nil : Text.strip [] = [] := rfl

theorem contentItems_nil : contentItems [] = [] := rfl

/-- A declaration opens a snippet that takes the body of its section, or leaves an empty content. -/
theorem Section.items_eq_foldFrom {s : Section} {tokens : List Token} {later : List Item}
    (hnone : Item.foldFrom none tokens = contentItems s.body ++ later)
    (hsome : ∀ snippet : Snippet, Item.foldFrom (some snippet) tokens =
      .snippet { snippet with code := snippet.code ++ Text.strip s.body.flatten } :: later) :
    (if (nameOf s.declaration).isEmpty then .content [] :: Item.foldFrom none tokens
      else Item.foldFrom (some ⟨nameOf s.declaration, []⟩) tokens) = s.items ++ later := by
  by_cases hname : nameOf s.declaration = []
  · rw [if_pos (List.isEmpty_iff.mpr hname), hnone, Section.items, if_pos hname, List.cons_append]
  · rw [if_neg (by simpa using hname), hsome, Section.items, if_neg hname]
    rfl

/-- While a snippet is open, the content before the next declaration line is put to its code; while
none is open, it is an item of its own. -/
theorem Tokenized.foldFrom_eq {number : Nat} {lines : List Text} {tokens : List Token}
    (h : Tokenized number lines tokens) :
    Item.foldFrom none tokens = (Outline.ofLines lines).items ∧
      ∀ s : Snippet, Item.foldFrom (some s) tokens =
        .snippet { s with code := s.code ++ Text.strip (Outline.ofLines lines).lead.flatten } ::
          (Outline.ofLines lines).sections.flatMap Section.items := by
  induction h with
  | nil =>
    refine ⟨rfl, fun s => ?_⟩
    rw [Outline.ofLines, List.flatten_nil, strip_nil, List.append_nil]
    rfl
  | @declaration number line lines tokens hd hw h ih =>
    have hsection := Section.items_eq_foldFrom
      (s := ⟨line, (Outline.ofLines lines).lead, hd, (Outline.ofLines lines).plain⟩) ih.1 ih.2
    rw [Outline.ofLines_declaration hd]
    refine ⟨?_, fun s => ?_⟩
    · rw [Item.foldFrom, hsection]
      rfl
    · rw [Item.foldFrom, hsection, List.flatten_nil, strip_nil, List.append_nil]
      rfl
  | @content number run lines tokens hne plain stop h ih =>
    obtain ⟨hlead, hsections⟩ := Outline.ofLines_run plain lines
    rw [Outline.lead_eq_nil stop, List.append_nil] at hlead
    obtain ⟨hnone, hsome⟩ := ih
    rw [Outline.items, Outline.lead_eq_nil stop, contentItems_nil, List.nil_append] at hnone
    refine ⟨?_, fun s => ?_⟩
    · rw [Item.foldFrom, hnone, Outline.items, hlead, hsections, contentItems, if_neg hne]
      rfl
    · rw [Item.foldFrom, hsome, hlead, hsections, Outline.lead_eq_nil stop, List.flatten_nil,
        strip_nil, List.append_nil]

/-- The items of a document are those of its outline: the lines of a document are cut in exactly one
way at its declaration lines, and if the document is valid, its items are those of that cut. -/
theorem Item.ofText_eq_items (document : Text) (items : List Item)
    (h : Item.ofText document = .ok items) :
    ∃ outline : Outline, outline.lines = documentLines document ∧ items = outline.items ∧
      ∀ other : Outline, other.lines = documentLines document → other = outline := by
  obtain ⟨tokens, htokens, rfl⟩ := map_eq_ok_iff.mp h
  refine ⟨Outline.ofLines (documentLines document), Outline.lines_ofLines _,
    (Tokenized.of_ofText htokens).foldFrom_eq.1, fun other hother => ?_⟩
  rw [← hother, Outline.ofLines_lines]

theorem Item.ofText_eq_items_of_sections :
    ∃ outline : Outline,
      outline.lines = documentLines "a\n#@bench {x}\nb\n#@benches\n#@bench\n c" ∧
        [.content "a", .snippet ⟨"x", "b\n#@benches"⟩, .content [], .content "c"] = outline.items ∧
        ∀ other : Outline,
          other.lines = documentLines "a\n#@bench {x}\nb\n#@benches\n#@bench\n c" → other = outline :=
  ofText_eq_items _ _ (by decide +kernel)

end SnippetBench.Document
