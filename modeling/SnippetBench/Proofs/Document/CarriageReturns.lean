import SnippetBench.Proofs.Document.Outline

/-!
# Carriage returns

A document may end its lines with `\n`, or with a carriage return and `\n`. The two spellings are read
alike (`Item.ofText_withReturns`): a document whose every `\n` is given a carriage return has the same
first mistake, or else the same items, where the line ends inside the texts have carriage returns too.

A carriage return ends up in three places: in the rest of a bare declaration, where the name is trimmed,
in the line end of a name in braces, and in the content. The lines of the two documents are related one
to one (`Returned`), and so are the leads and bodies into which they are cut. The document is given a
final `\n` if it lacks one, which has no carriage return before it; nothing depends on that one, since
it is stripped from the content and from the name.
-/

namespace SnippetBench.Text

/-- The text with a carriage return before every line end. -/
def withReturns (t : Text) : Text := t.flatMap fun c => if c = '\n' then ['\r', '\n'] else [c]

theorem withReturns_append (s t : Text) : withReturns (s ++ t) = withReturns s ++ withReturns t :=
  List.flatMap_append

theorem withReturns_flatten (lines : List Text) :
    withReturns lines.flatten = (lines.map withReturns).flatten := by
  induction lines with
  | nil => rfl
  | cons line lines ih => rw [List.flatten_cons, withReturns_append, ih, List.map_cons, List.flatten_cons]

theorem withReturns_of_notMem {t : Text} (h : '\n' ∉ t) : withReturns t = t := by
  induction t with
  | nil => rfl
  | cons c t ih =>
    rw [List.mem_cons, not_or] at h
    have ht := ih h.2
    unfold withReturns at ht ⊢
    rw [List.flatMap_cons, if_neg (Ne.symm h.1), ht, List.singleton_append]

theorem withReturns_line {body : Text} (h : '\n' ∉ body) :
    withReturns (body ++ ['\n']) = body ++ ['\r', '\n'] := by
  rw [withReturns_append, withReturns_of_notMem h]
  rfl

/-- Carriage returns are blank, so those before the line ends at the ends of a text are stripped with
them. -/
theorem strip_withReturns (t : Text) : strip (withReturns t) = withReturns (strip t) := by
  refine trim_flatMap (fun c hc d hd => ?_) (fun c hc => ?_) t
  · split at hd
    · rcases List.mem_pair.mp hd with rfl | rfl <;> decide
    · rwa [List.mem_singleton.mp hd]
  · rw [if_neg]
    rintro rfl
    exact absurd hc (by decide)

end SnippetBench.Text

namespace SnippetBench.Document

open Text (IsLine withReturns newlineLines endLine)

/-! ### Lines -/

/-- In `Returned lines others` the other lines are the lines, each with a carriage return before its
line end, which the last one may lack. -/
inductive Returned : List Text → List Text → Prop
  /-- No lines stay none. -/
  | nil : Returned [] []
  /-- A line has a carriage return, unless it is the last one. -/
  | cons {body cr : Text} {lines others : List Text} (hnewline : '\n' ∉ body) (hreturn : '\r' ∉ body)
      (hcr : cr = ['\r'] ∨ cr = [] ∧ lines = []) (h : Returned lines others) :
      Returned ((body ++ ['\n']) :: lines) ((body ++ (cr ++ ['\n'])) :: others)

/-- Behind its ended lines a document may have a last one that is not ended. -/
theorem documentLines_flatten_append {lines : List Text} (h : ∀ l ∈ lines, IsLine l) {body : Text}
    (hbody : '\n' ∉ body) :
    documentLines (lines.flatten ++ body) = lines ++ if body = [] then [] else [body ++ ['\n']] := by
  by_cases hne : body = []
  · rw [if_pos hne, hne, List.append_nil, List.append_nil, documentLines,
      Text.endLine_eq_self fun c hc => ?_, Text.newlineLines_flatten h]
    have hlines : lines ≠ [] := by
      rintro rfl
      cases hc
    rw [Text.getLast?_flatten hlines h] at hc
    exact (Option.some.inj hc).symm
  · have hlast : body.getLast? ≠ some '\n' := fun e => hbody (List.mem_of_getLast? e)
    have hend : endLine body = body ++ ['\n'] := by simp [endLine, hne, hlast]
    have hline : newlineLines (body ++ ['\n']) = [body ++ ['\n']] :=
      Text.newlineLines_append_newline hbody []
    rw [if_neg hne, documentLines, Text.endLine_append _ hne, Text.newlineLines_flatten_append h, hend,
      hline]

theorem returned_append {lines tail : List Text} (hlines : ∀ l ∈ lines, IsLine l)
    (hreturn : ∀ l ∈ lines, '\r' ∉ l) (h : Returned tail tail) :
    Returned (lines ++ tail) (lines.map withReturns ++ tail) := by
  induction lines with
  | nil => exact h
  | cons line lines ih =>
    have hih := ih (fun l hl => hlines l (List.mem_cons_of_mem _ hl))
      fun l hl => hreturn l (List.mem_cons_of_mem _ hl)
    obtain ⟨body, hbody, rfl⟩ := hlines line List.mem_cons_self
    have hr : '\r' ∉ body := fun m => hreturn _ List.mem_cons_self (List.mem_append_left _ m)
    rw [List.map_cons, Text.withReturns_line hbody]
    exact @Returned.cons body ['\r'] _ _ hbody hr (Or.inl rfl) hih

/-- The lines of a document and of that with carriage returns. -/
theorem returned_documentLines {document : Text} (h : '\r' ∉ document) :
    Returned (documentLines document) (documentLines (withReturns document)) := by
  obtain ⟨lines, body, rfl, hlines, hbody⟩ := Text.exists_flatten_append document
  have hreturned : ∀ l ∈ lines.map withReturns, IsLine l := by
    intro l' hl'
    obtain ⟨l, hl, rfl⟩ := List.mem_map.mp hl'
    obtain ⟨body, hbody, rfl⟩ := hlines l hl
    rw [Text.withReturns_line hbody]
    exact ⟨body ++ ['\r'], by simp [hbody], by simp⟩
  rw [List.mem_append, not_or] at h
  rw [Text.withReturns_append, Text.withReturns_of_notMem hbody, Text.withReturns_flatten,
    documentLines_flatten_append hlines hbody, documentLines_flatten_append hreturned hbody]
  refine returned_append hlines (fun l hl m => h.1 (List.mem_flatten_of_mem hl m)) ?_
  split
  · exact .nil
  · exact @Returned.cons body [] _ _ hbody h.2 (Or.inr ⟨rfl, rfl⟩) .nil

/-! ### One line -/

section

variable {body cr : Text}

theorem isWord_return : Text.isWord '\r' = false := by decide +kernel

theorem isDeclaration_returned (hcr : cr = [] ∨ cr = ['\r']) :
    IsDeclaration (body ++ (cr ++ ['\n'])) ↔ IsDeclaration (body ++ ['\n']) := by
  rcases hcr with rfl | rfl
  · rfl
  · exact (isDeclaration_append_iff (by decide) isWord_return).trans
      (isDeclaration_append_iff newline_notMem_marker isWord_newline).symm

/-- A carriage return changes neither the gap, nor where the mistake is, nor the name. -/
theorem parts_returned (hnewline : '\n' ∉ body) (hreturn : '\r' ∉ body) (hcr : cr = [] ∨ cr = ['\r'])
    (h : IsDeclaration (body ++ ['\n'])) :
    gapOf (body ++ (cr ++ ['\n'])) = gapOf (body ++ ['\n']) ∧
      mistake? (restOf (body ++ (cr ++ ['\n']))) = mistake? (restOf (body ++ ['\n'])) ∧
      nameOf (body ++ (cr ++ ['\n'])) = nameOf (body ++ ['\n']) := by
  rcases hcr with rfl | rfl
  · exact ⟨rfl, rfl, rfl⟩
  · obtain ⟨s, rfl, -⟩ := (isDeclaration_append_iff newline_notMem_marker isWord_newline).mp h
    have hs : '\n' ∉ s := fun m => hnewline (List.mem_append_right _ m)
    have hr : '\r' ∉ s.dropWhile isGap := fun m =>
      hreturn (List.mem_append_right _ ((List.dropWhile_sublist _).mem m))
    have hrest := restOf_append hs (Or.inr rfl : (['\r'] : Text) = [] ∨ _)
    rw [List.append_assoc, List.append_assoc]
    refine ⟨?_, ?_, ?_⟩
    · rw [List.singleton_append, gapOf_append (by decide), gapOf_append isGap_newline]
    · rw [hrest, restOf_line hs, mistake?_concat_return hr]
    · rw [nameOf, nameOf, hrest, restOf_line hs, Text.trim_append_of_all (List.all_eq_true.mp rfl)]

end

/-! ### Documents -/

/-- An item whose line ends have carriage returns; the name of a snippet stays as it is. -/
def Item.withReturns : Item → Item
  | .content text => .content (Text.withReturns text)
  | .snippet s => .snippet { s with code := Text.withReturns s.code }

namespace Returned

variable {lines others : List Text}

theorem eq_nil_iff (h : Returned lines others) : others = [] ↔ lines = [] := by
  cases h <;> simp

/-- Carriage returns change neither whether lines are valid nor where the first mistake is. -/
theorem ofLines_eq (h : Returned lines others) (number : Nat) :
    ((Token.ofLines number others).map fun _ => ()) = (Token.ofLines number lines).map fun _ => () := by
  induction h generalizing number with
  | nil => rfl
  | @cons body cr lines others hnewline hreturn hcr h ih =>
    have hcr' : cr = [] ∨ cr = ['\r'] := hcr.elim Or.inr fun h => Or.inl h.1
    rw [Token.ofLines, Token.ofLines]
    by_cases hd : IsDeclaration (body ++ ['\n'])
    · obtain ⟨hgap, hmistake, -⟩ := parts_returned hnewline hreturn hcr' hd
      rw [if_pos hd, if_pos ((isDeclaration_returned hcr').mpr hd), hmistake]
      cases mistake? (restOf (body ++ ['\n'])) with
      | some offset => simp only [columnOf, hgap]
      | none =>
        dsimp only
        rw [map_map_const, map_map_const, ih]
    · rw [if_neg hd, if_neg (mt (isDeclaration_returned hcr').mp hd), map_map_const, map_map_const, ih]

/-- Lines one after the other are the text with carriage returns, but for the blanks at its end. -/
theorem exists_blank_ends (h : Returned lines others) :
    ∃ s e e' : Text, others.flatten = s ++ e ∧ withReturns lines.flatten = s ++ e' ∧
      (∀ c ∈ e, Text.isBlank c = true) ∧ ∀ c ∈ e', Text.isBlank c = true := by
  induction h with
  | nil => exact ⟨[], [], [], rfl, rfl, by simp, by simp⟩
  | @cons body cr lines others hnewline hreturn hcr h ih =>
    rw [List.flatten_cons, List.flatten_cons, Text.withReturns_append, Text.withReturns_line hnewline]
    rcases hcr with rfl | ⟨rfl, rfl⟩
    · obtain ⟨s, e, e', hs, hs', he, he'⟩ := ih
      exact ⟨body ++ ['\r', '\n'] ++ s, e, e', by rw [hs]; simp, by rw [hs']; simp, he, he'⟩
    · rw [h.eq_nil_iff.mpr rfl]
      exact ⟨body, ['\n'], ['\r', '\n'], by simp, by simp [withReturns], List.all_eq_true.mp (by decide),
        List.all_eq_true.mp (by decide)⟩

/-- The stripped text has the carriage returns of its inner line ends, whether or not the last line
has one. -/
theorem strip_flatten (h : Returned lines others) :
    Text.strip others.flatten = withReturns (Text.strip lines.flatten) := by
  obtain ⟨s, e, e', hs, hs', he, he'⟩ := h.exists_blank_ends
  have hstrip := Text.strip_withReturns lines.flatten
  rw [hs', Text.strip, Text.trim_append_of_all he'] at hstrip
  rw [hs, Text.strip, Text.trim_append_of_all he, hstrip]

theorem contentItems_eq (h : Returned lines others) :
    contentItems others = (contentItems lines).map Item.withReturns := by
  unfold contentItems
  by_cases hne : lines = []
  · rw [if_pos hne, if_pos (h.eq_nil_iff.mpr hne)]
    rfl
  · rw [if_neg hne, if_neg (mt h.eq_nil_iff.mp hne), h.strip_flatten]
    rfl

theorem section_items {s s' : Section} (hname : nameOf s'.declaration = nameOf s.declaration)
    (h : Returned s.body s'.body) : s'.items = s.items.map Item.withReturns := by
  unfold Section.items
  rw [hname]
  by_cases hne : nameOf s.declaration = []
  · rw [if_pos hne, if_pos hne, h.contentItems_eq]
    rfl
  · rw [if_neg hne, if_neg hne, h.strip_flatten]
    rfl

/-- Both documents are cut at the same lines: the leads are related as the lines are, and the items of
the sections are the same but for the carriage returns. -/
theorem outline (h : Returned lines others) :
    Returned (Outline.ofLines lines).lead (Outline.ofLines others).lead ∧
      (Outline.ofLines others).sections.flatMap Section.items =
        ((Outline.ofLines lines).sections.flatMap Section.items).map Item.withReturns := by
  induction h with
  | nil => exact ⟨.nil, rfl⟩
  | @cons body cr lines others hnewline hreturn hcr h ih =>
    obtain ⟨hlead, hsections⟩ := ih
    have hcr' : cr = [] ∨ cr = ['\r'] := hcr.elim Or.inr fun h => Or.inl h.1
    by_cases hd : IsDeclaration (body ++ ['\n'])
    · have hd' := (isDeclaration_returned hcr').mpr hd
      obtain ⟨-, -, hname⟩ := parts_returned hnewline hreturn hcr' hd
      rw [Outline.ofLines_declaration hd, Outline.ofLines_declaration hd']
      refine ⟨.nil, ?_⟩
      rw [List.flatMap_cons, List.flatMap_cons, List.map_append, hsections]
      congr 1
      exact section_items hname hlead
    · have hd' := mt (isDeclaration_returned hcr').mp hd
      rw [Outline.lead_content hd, Outline.lead_content hd', Outline.sections_content hd,
        Outline.sections_content hd']
      refine ⟨.cons hnewline hreturn (hcr.imp_right fun hlast => ⟨hlast.1, ?_⟩) hlead, hsections⟩
      rw [hlast.2]
      rfl

end Returned

namespace Item

/-- The items of a document are those of its outline, unless it has a mistake. -/
theorem ofText_eq_map (document : Text) : ofText document =
    ((Token.ofLines 1 (documentLines document)).map fun _ => ()).map fun _ =>
      (Outline.ofLines (documentLines document)).items := by
  rw [ofText, Token.ofText_eq_ofLines]
  cases htokens : Token.ofLines 1 (documentLines document) with
  | error m => rfl
  | ok tokens => exact congrArg Except.ok (Tokenized.of_ofLines htokens).foldFrom_eq.1

/-- **Carriage returns before the line ends make no difference.** A document with them has its first
mistake on the same line and in the same column as the document without them, or both are valid; then
the items are the same but for the carriage returns inside contents and codes. -/
theorem ofText_withReturns (document : Text) (h : '\r' ∉ document) :
    ofText (Text.withReturns document) = (ofText document).map (List.map withReturns) := by
  have hlines := returned_documentLines h
  obtain ⟨hlead, hsections⟩ := hlines.outline
  rw [ofText_eq_map, ofText_eq_map, hlines.ofLines_eq]
  cases Token.ofLines 1 (documentLines document) with
  | error m => rfl
  | ok tokens =>
    refine congrArg Except.ok ?_
    rw [Outline.items, Outline.items, hlead.contentItems_eq, hsections, List.map_append]

theorem ofText_withReturns_spelled :
    ('\r' ∉ "a\n#@bench {x} \nb\n c\n#@bench y\n#@bench\t\n\nd".toList ∧
      ofText (Text.withReturns "a\n#@bench {x} \nb\n c\n#@bench y\n#@bench\t\n\nd") =
        .ok [.content "a", .snippet ⟨"x", "b\r\n c"⟩, .snippet ⟨"y", []⟩, .content [],
          .content "d"]) ∧
      '\r' ∉ "a\n\n#@bench {x} y\n".toList ∧
        ofText (Text.withReturns "a\n\n#@bench {x} y\n") = .error ⟨3, 13⟩ :=
  ⟨⟨by decide, (ofText_withReturns _ (by decide)).trans (by decide +kernel)⟩, by decide,
    (ofText_withReturns _ (by decide)).trans (by decide +kernel)⟩

end Item

end SnippetBench.Document
