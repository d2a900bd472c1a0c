import SnippetBench.Proofs.Script.Layout

/-!
# Lifting the future imports

Future imports are found by their lines and removed by their lines. A pass over the text from left to
right that knows only whether it stands at the start of a line finds the same (`pass_flatten`): a
future import begins within one piece of the text, at its start (`hasFuture_flatten_iff`), and what is
removed is always a whole piece, so what remains does not come together to another one. Hence lifting
gives every future import once and leaves everything else (`liftFutures_loses_nothing`).
-/

namespace SnippetBench.Script

open Document (Item Snippet)
open Text (Cut IsLine newlineLines)

theorem newline_notMem_futureStart : '\n' ∉ futureStart := by decide

/-- A text has a future import if one begins at its start or behind a `\n`. -/
def HasFuture (t : Text) : Prop :=
  ∃ before after, t = before ++ (futureStart ++ after) ∧ ∀ c, before.getLast? = some c → c = '\n'

variable {pieces : List Text} {l rest : Text}

theorem isFuture_iff : isFuture l = true ↔ futureStart <+: l := List.isPrefixOf_iff_prefix

/-- A future import begins within one line. -/
theorem isFuture_line_append (hl : IsLine l) : isFuture (l ++ rest) = true ↔ isFuture l = true := by
  rw [isFuture_iff, isFuture_iff]
  refine ⟨fun h => ?_, fun h => h.trans (List.prefix_append l rest)⟩
  refine (List.prefix_or_prefix_of_prefix h (List.prefix_append l rest)).resolve_right fun h => ?_
  exact newline_notMem_futureStart (h.subset hl.newline_mem)

theorem hasFuture_of_isFuture (h : isFuture l = true) : HasFuture l := by
  obtain ⟨after, rfl⟩ := isFuture_iff.mp h
  exact ⟨[], after, rfl, by simp⟩

theorem hasFuture_line_append (hl : IsLine l) :
    HasFuture (l ++ rest) ↔ isFuture l = true ∨ HasFuture rest := by
  constructor
  · rintro ⟨before, after, heq, hlast⟩
    rcases List.append_eq_append_iff.mp heq with ⟨s, rfl, hrest⟩ | ⟨s, hs, hafter⟩
    · refine Or.inr ⟨s, after, hrest, fun c hc => hlast c ?_⟩
      rw [List.getLast?_append, hc]
      rfl
    · rcases List.eq_nil_or_concat' before with rfl | ⟨front, c, rfl⟩
      · refine Or.inl ((@isFuture_line_append _ rest hl).mp (isFuture_iff.mpr ?_))
        exact ⟨after, heq.symm⟩
      · -- the line ends where `before` does, since it holds no `\n` but its last character
        obtain rfl : c = '\n' := hlast c (by simp)
        rw [List.append_assoc, List.singleton_append] at hs
        rw [hs] at hl
        rw [hl.eq_nil_of_newline, List.nil_append] at hafter
        exact Or.inr (hasFuture_of_isFuture (isFuture_iff.mpr ⟨after, hafter⟩))
  · rintro (h | ⟨before, after, rfl, hlast⟩)
    · exact hasFuture_of_isFuture ((isFuture_line_append hl).mpr h)
    · refine ⟨l ++ before, after, by simp, fun c hc => ?_⟩
      rw [List.getLast?_append, hl.getLast?] at hc
      cases hb : before.getLast? with
      | none =>
        rw [hb] at hc
        exact (Option.some.inj hc).symm
      | some d =>
        rw [hb] at hc
        exact Option.some.inj hc ▸ hlast d hb

theorem not_hasFuture_nil : ¬ HasFuture [] := by
  intro ⟨before, after, heq, _⟩
  have hnil := (List.append_eq_nil_iff.mp heq.symm).2
  exact absurd (List.append_eq_nil_iff.mp hnil).1 (by decide)

/-- A text has a future import exactly if one of its pieces begins as one. -/
theorem hasFuture_flatten_iff (h : Cut pieces) :
    HasFuture pieces.flatten ↔ ∃ l ∈ pieces, isFuture l = true := by
  induction h with
  | nil => simpa using not_hasFuture_nil
  | @last body hne hbody =>
    rw [List.flatten_singleton]
    constructor
    · rintro ⟨before, after, rfl, hlast⟩
      rcases List.eq_nil_or_concat' before with rfl | ⟨front, c, rfl⟩
      · exact ⟨_, List.mem_singleton_self _, isFuture_iff.mpr (List.prefix_append _ _)⟩
      · obtain rfl : c = '\n' := hlast c (by simp)
        simp at hbody
    · rintro ⟨l, hl, h⟩
      rw [List.mem_singleton.mp hl] at h
      exact hasFuture_of_isFuture h
  | cons hl h ih =>
    rw [List.flatten_cons, hasFuture_line_append hl, ih]
    simp only [List.mem_cons, or_and_right, exists_or, exists_eq_left]

/-- In `Pass start t found left` a pass over a text that looks for future imports finds some texts and
leaves another one; `start` tells whether the text stands at the start of a line. A future import that
begins there is found with the rest of its line, and every other character is left. -/
inductive Pass : Bool → Text → List Text → Text → Prop
  /-- Nothing is found behind the end. -/
  | nil {start : Bool} : Pass start [] [] []
  /-- A future import is found up to the end of its line. -/
  | line {body rest : Text} {found : List Text} {left : Text} (hbody : '\n' ∉ body)
      (h : Pass true rest found left) :
      Pass true (futureStart ++ body ++ '\n' :: rest) ((futureStart ++ body ++ ['\n']) :: found) left
  /-- The last line may lack its end. -/
  | last {body : Text} (hbody : '\n' ∉ body) : Pass true (futureStart ++ body) [futureStart ++ body] []
  /-- Where no future import begins, a character is left. -/
  | char {start : Bool} {c : Char} {rest : Text} {found : List Text} {left : Text}
      (hnone : start = true → isFuture (c :: rest) = false) (h : Pass (c = '\n') rest found left) :
      Pass start (c :: rest) found (c :: left)

theorem Pass.skip {start : Bool} {body : Text} {found : List Text} {left : Text}
    (hnone : start = true → isFuture (body ++ '\n' :: rest) = false) (hbody : '\n' ∉ body)
    (h : Pass true rest found left) :
    Pass start (body ++ '\n' :: rest) found (body ++ '\n' :: left) := by
  induction body generalizing start with
  | nil => exact .char hnone (by simpa using h)
  | cons c body ih =>
    rw [List.mem_cons, not_or] at hbody
    refine .char hnone ?_
    rw [decide_eq_false (Ne.symm hbody.1)]
    exact ih (by simp) hbody.2

theorem Pass.skip_last {start : Bool} {body : Text} (hnone : start = true → isFuture body = false)
    (hbody : '\n' ∉ body) : Pass start body [] body := by
  induction body generalizing start with
  | nil => exact .nil
  | cons c body ih =>
    rw [List.mem_cons, not_or] at hbody
    refine .char hnone ?_
    rw [decide_eq_false (Ne.symm hbody.1)]
    exact ih (by simp) hbody.2

/-- A pass over a text finds the pieces that begin as future imports, and leaves the others. -/
theorem pass_flatten (h : Cut pieces) : Pass true pieces.flatten (pieces.filter isFuture)
    (pieces.filter fun l => !isFuture l).flatten := by
  induction h with
  | nil => exact .nil
  | @last body hne hbody =>
    cases hf : isFuture body with
    | true =>
      obtain ⟨behind, rfl⟩ := isFuture_iff.mp hf
      rw [List.mem_append, not_or] at hbody
      simpa [hf] using Pass.last hbody.2
    | false => simpa [hf] using Pass.skip_last (fun _ => hf) hbody
  | @cons l ls hl h ih =>
    cases hf : isFuture l with
    | true =>
      obtain ⟨behind, rfl⟩ := isFuture_iff.mp hf
      obtain ⟨body, hbody, rfl⟩ := hl.of_append newline_notMem_futureStart
      have hline := Pass.line hbody ih
      rw [List.filter_cons_of_pos hf, List.filter_cons_of_neg (by simp [hf]), List.flatten_cons,
        ← List.append_assoc]
      rwa [← List.singleton_append, ← List.append_assoc] at hline
    | false =>
      have hnone : isFuture (l ++ ls.flatten) = false := by
        rw [← Bool.not_eq_true, isFuture_line_append hl, hf]
        exact Bool.false_ne_true
      obtain ⟨body, hbody, rfl⟩ := hl
      rw [List.append_assoc, List.singleton_append] at hnone
      have hskip := @Pass.skip _ true body _ _ (fun _ => hnone) hbody ih
      rw [List.filter_cons_of_neg (by simp [hf]), List.filter_cons_of_pos (by simp [hf]),
        List.flatten_cons, List.flatten_cons]
      simpa only [List.append_assoc, List.singleton_append] using hskip

/-- In `Lift item lift` the lift is what an item gives to the top of the script and what remains of
it. -/
inductive Lift : Item → List Text × Item → Prop
  /-- A snippet gives nothing and stays. -/
  | snippet (s : Snippet) : Lift (.snippet s) ([], .snippet s)
  /-- So does a content without a future import. -/
  | kept {text : Text} (h : ¬ HasFuture text) : Lift (.content text) ([], .content text)
  /-- Any other content is cut after every `\n`; the pieces that begin as future imports are given,
  trimmed, and the others remain. They are what a pass over the text finds and leaves. -/
  | lifted {pieces : List Text} (h : HasFuture pieces.flatten) (hcut : Cut pieces)
      (hpass : Pass true pieces.flatten (pieces.filter isFuture)
        (pieces.filter fun l => !isFuture l).flatten) :
      Lift (.content pieces.flatten) ((pieces.filter isFuture).map Text.strip,
        .content (pieces.filter fun l => !isFuture l).flatten)

theorem hasFuture_iff {text : Text} : HasFuture text ↔ ∃ l ∈ newlineLines text, isFuture l = true := by
  have h := hasFuture_flatten_iff (Text.cut_newlineLines text)
  rwa [Text.flatten_newlineLines] at h

theorem lift_ofItem (item : Item) : Lift item (Futures.ofItem item, Futures.strip item) := by
  cases item with
  | snippet s => exact .snippet s
  | content text =>
    by_cases h : HasFuture text
    · have hcut := Text.cut_newlineLines text
      have hlift := Lift.lifted (by rwa [Text.flatten_newlineLines]) hcut (pass_flatten hcut)
      rwa [Text.flatten_newlineLines] at hlift
    · have keeps : ∀ l ∈ newlineLines text, isFuture l = false := fun l hl => by
        rw [← Bool.not_eq_true]
        exact fun hf => h (hasFuture_iff.mpr ⟨l, hl, hf⟩)
      have hnone : Futures.ofItem (.content text) = [] := by
        rw [Futures.ofItem, futureLines, List.filter_eq_nil_iff.mpr fun l hl => by simp [keeps l hl],
          List.map_nil]
      rw [hnone, Futures.strip, withoutFutures_eq_self keeps]
      exact .kept h

/-- What remains of a content has no future import. -/
theorem not_hasFuture_withoutFutures (text : Text) : ¬ HasFuture (withoutFutures text) := by
  rw [withoutFutures, hasFuture_flatten_iff ((Text.cut_newlineLines text).filter _)]
  rintro ⟨l, hl, hf⟩
  have := (List.mem_filter.mp hl).2
  rw [hf] at this
  cases this

theorem not_hasFuture_of_mem_remaining {items : List Item} {text : Text}
    (h : .content text ∈ (liftFutures items).2) : ¬ HasFuture text := by
  obtain ⟨item, -, hitem⟩ := List.mem_map.mp h
  cases item with
  | snippet s => cases hitem
  | content t =>
    cases hitem
    exact not_hasFuture_withoutFutures t

theorem liftFutures_eq_self {items : List Item} (h : ∀ text, .content text ∈ items → ¬ HasFuture text) :
    liftFutures items = ([], items) := by
  have hlift : ∀ item ∈ items, Futures.ofItem item = [] ∧ Futures.strip item = item := by
    intro item hitem
    have := lift_ofItem item
    generalize hl : (Futures.ofItem item, Futures.strip item) = lift at this
    cases this with
    | snippet s => simpa using hl
    | kept hk => simpa using hl
    | lifted hf => exact absurd hf (h _ hitem)
  rw [liftFutures, List.flatMap_eq_nil_iff.mpr fun item hitem => (hlift item hitem).1,
    List.map_congr_left fun item hitem => (hlift item hitem).2, List.map_id']

theorem liftFutures_loses_nothing (items : List Item) :
    (∃ lifts, List.Forall₂ Lift items lifts ∧
        liftFutures items = (lifts.flatMap Prod.fst, lifts.map Prod.snd)) ∧
      (∀ text, .content text ∈ (liftFutures items).2 → ¬ HasFuture text) ∧
      liftFutures (liftFutures items).2 = ([], (liftFutures items).2) := by
  refine ⟨⟨items.map fun item => (Futures.ofItem item, Futures.strip item), ?_, ?_⟩,
    fun text => not_hasFuture_of_mem_remaining,
    liftFutures_eq_self fun text => not_hasFuture_of_mem_remaining⟩
  · exact List.forall₂_map_right_iff.mpr (List.forall₂_same.mpr fun item _ => lift_ofItem item)
  · rw [List.flatMap_map, List.map_map]
    rfl

end SnippetBench.Script
