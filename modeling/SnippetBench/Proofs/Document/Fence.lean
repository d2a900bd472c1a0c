import SnippetBench.Document.Listing
import SnippetBench.Proofs.Text.RuledLines

/-!
# The fence of a listing

In markdown the code of a listing stands in a fence of three ticks, whatever the code is. A reader takes
the lines behind the fence for code up to the first one that is a fence itself, with nothing behind its
ticks. So a listing is read as it is meant exactly if no line of the code closes a fence, and otherwise
only the lines before the first such line are shown as code (`fenced_format`).
-/

namespace SnippetBench.Document

open Text (IsOneLine Line)

/-! ### Reading a fence -/

namespace Fence

/-- The character of which a fence consists. -/
def tick : Char := '\x60'

/-- What stands behind the fence at the start of a line, if there is one: at most three spaces and then
at least three ticks. -/
def afterTicks? (body : Text) : Option Text :=
  let unindented := body.dropWhile (· = ' ')
  if (body.takeWhile (· = ' ')).length ≤ 3 ∧ 3 ≤ (unindented.takeWhile (· = tick)).length then
    some (unindented.dropWhile (· = tick))
  else none

/-- Whether a line opens a fence: no tick stands behind it. -/
def opens (l : Line) : Bool := (afterTicks? l.body).any fun info => !info.contains tick

/-- Whether a line closes a fence: only spaces and tabs stand behind it. -/
def closes (l : Line) : Bool := (afterTicks? l.body).any fun t => t.all fun c => c = ' ' || c = '\t'

/-- The rule for a line that closes a fence: at most three spaces, then at least three ticks, and then
nothing but blanks. -/
def IsClosing (l : Line) : Prop :=
  ∃ spaces ticks blanks, spaces ≤ 3 ∧ 3 ≤ ticks ∧ (∀ c ∈ blanks, c = ' ' ∨ c = '\t') ∧
    l.body = List.replicate spaces ' ' ++ (List.replicate ticks tick ++ blanks)

/-- The lines before the first one that closes a fence. -/
def inside (lines : List Line) : List Line := lines.takeWhile (!closes ·)

/-- The lines from the first one on that closes a fence. -/
def onward (lines : List Line) : List Line := lines.dropWhile (!closes ·)

/-- A fenced block: the lines above it, the line that opens the fence, the lines inside, and those from
the line on that closes the fence. -/
structure Block where
  above : List Line
  opening : Line
  inside : List Line
  onward : List Line
  deriving DecidableEq, Repr

/-- The first fenced block among lines. -/
def block? (lines : List Line) : Option Block :=
  match lines.dropWhile (!opens ·) with
  | [] => none
  | opening :: rest => some ⟨lines.takeWhile (!opens ·), opening, inside rest, onward rest⟩

variable {body : Text} {above lines : List Line} {l last : Line}

theorem afterTicks?_eq_some_iff {t : Text} : afterTicks? body = some t ↔
    ∃ spaces ticks, spaces ≤ 3 ∧ 3 ≤ ticks ∧ t.head? ≠ some tick ∧
      body = List.replicate spaces ' ' ++ (List.replicate ticks tick ++ t) := by
  constructor
  · intro h
    unfold afterTicks? at h
    dsimp only at h
    split at h
    · next hcounts =>
      obtain rfl := Option.some.inj h
      refine ⟨_, _, hcounts.1, hcounts.2, fun hhead => ?_, ?_⟩
      · have htick := Text.head?_dropWhile hhead
        simp at htick
      · rw [← Text.takeWhile_eq_replicate, ← Text.takeWhile_eq_replicate, List.takeWhile_append_dropWhile,
          List.takeWhile_append_dropWhile]
    · cases h
  · rintro ⟨spaces, ticks, hspaces, hticks, hhead, rfl⟩
    have hindent : ∀ c, (List.replicate ticks tick ++ t).head? = some c → decide (c = ' ') = false := by
      intro c hc
      rw [List.head?_append_of_ne_nil _ (by simp; omega), List.head?_replicate, if_neg (by omega)] at hc
      obtain rfl := Option.some.inj hc
      decide
    have hbehind : ∀ c, t.head? = some c → decide (c = tick) = false := by
      intro c hc
      refine decide_eq_false ?_
      rintro rfl
      exact hhead hc
    unfold afterTicks?
    dsimp only
    rw [Text.takeWhile_run (by simp) hindent, Text.dropWhile_run (by simp) hindent,
      Text.takeWhile_run (by simp) hbehind, Text.dropWhile_run (by simp) hbehind]
    simp [hspaces, hticks]

theorem closes_iff_afterTicks : closes l = true ↔
    ∃ blanks, afterTicks? l.body = some blanks ∧ ∀ c ∈ blanks, c = ' ' ∨ c = '\t' := by
  cases hbehind : afterTicks? l.body <;> simp [closes, hbehind]

theorem closes_iff : closes l = true ↔ IsClosing l := by
  rw [closes_iff_afterTicks]
  constructor
  · rintro ⟨blanks, hbehind, hblanks⟩
    obtain ⟨spaces, ticks, hspaces, hticks, -, hbody⟩ := afterTicks?_eq_some_iff.mp hbehind
    exact ⟨spaces, ticks, blanks, hspaces, hticks, hblanks, hbody⟩
  · rintro ⟨spaces, ticks, blanks, hspaces, hticks, hblanks, hbody⟩
    have hhead : blanks.head? ≠ some tick := by
      intro hhead
      have htick := hblanks tick (List.mem_of_head? hhead)
      revert htick
      decide
    exact ⟨blanks, afterTicks?_eq_some_iff.mpr ⟨spaces, ticks, hspaces, hticks, hhead, hbody⟩, hblanks⟩

/-! ### Lines before a fence that is closed -/

theorem inside_concat (h : closes last = true) : inside (lines ++ [last]) = inside lines := by
  induction lines with
  | nil => simp [inside, h]
  | cons l lines ih =>
    rw [inside] at ih
    simp [inside, List.takeWhile_cons, ih]

theorem onward_concat (h : closes last = true) : onward (lines ++ [last]) = onward lines ++ [last] := by
  induction lines with
  | nil => simp [onward, h]
  | cons l lines ih =>
    rw [onward] at ih
    simp only [onward, List.cons_append, List.dropWhile_cons, ih]
    split <;> simp

theorem onward_eq_nil_iff : onward lines = [] ↔ ∀ l ∈ lines, ¬ IsClosing l := by
  simp [onward, ← closes_iff]

theorem inside_append_onward (lines : List Line) : inside lines ++ onward lines = lines :=
  List.takeWhile_append_dropWhile

/-- The text inside a fence is the whole text only if no line of it closes the fence. -/
theorem textOf_inside_ofText_eq_iff {t : Text} :
    Line.textOf (inside (Line.ofText t)) = t ↔ ∀ l ∈ Line.ofText t, ¬ IsClosing l := by
  rw [← onward_eq_nil_iff]
  have hwhole : Line.textOf (inside (Line.ofText t)) ++ Line.textOf (onward (Line.ofText t)) = t := by
    rw [← Text.textOf_append, inside_append_onward, Text.textOf_ofText]
  constructor
  · intro h
    have hnone : Line.textOf (onward (Line.ofText t)) = [] := by
      rw [h] at hwhole
      simpa using hwhole
    refine Text.eq_nil_of_textOf_eq_nil (fun l hl => ?_) hnone
    exact (Text.ruled_ofText t).text_ne_nil ((List.dropWhile_sublist _).mem hl)
  · intro h
    rw [h] at hwhole
    simpa [Line.textOf] using hwhole

theorem opens_above {b : Block} (h : block? lines = some b) : ∀ l ∈ b.above, opens l = false := by
  unfold block? at h
  split at h
  · cases h
  · obtain rfl := Option.some.inj h
    intro l hl
    simpa using List.mem_takeWhile_imp hl

theorem block?_append_cons (habove : ∀ l ∈ above, opens l = false) (hopening : opens l = true)
    (lines : List Line) : block? (above ++ l :: lines) = some ⟨above, l, inside lines, onward lines⟩ := by
  have hskip : ∀ l ∈ above, (!opens l) = true := by simpa using habove
  rw [block?, List.dropWhile_append_of_pos hskip, List.takeWhile_append_of_pos hskip]
  simp [hopening]

end Fence

/-! ### The fence of a listing -/

namespace Listing

open Fence

/-- What stands above the fence: the place of the snippet. -/
def place (path : Text) (snippet : Snippet) : Text := '*' :: location path snippet.name ++ "*\n"

/-- The line that opens the fence. -/
def opening : Line := ⟨"```python", ['\n']⟩

/-- The line that is to close the fence. -/
def closing : Line := ⟨footer true, []⟩

/-- The lines of the code. -/
def codeLines (snippet : Snippet) : List Line := Line.ofText (snippet.code ++ ['\n'])

/-- The lines behind the fence. -/
def behind (snippet : Snippet) : List Line := codeLines snippet ++ [closing]

variable {path : Text} {snippet : Snippet}

theorem format_eq (path : Text) (snippet : Snippet) (markdown : Bool) : format path snippet markdown =
    (header path snippet markdown ++ ['\n']) ++ ((snippet.code ++ ['\n']) ++ footer markdown) := by
  simp [format, Text.join_cons]

theorem header_markdown (path : Text) (snippet : Snippet) :
    header path snippet true ++ ['\n'] = place path snippet ++ opening.text := by
  have hmark : ("*\n```python" : Text) ++ ['\n'] = "*\n" ++ opening.text := rfl
  rw [header, place]
  simp only [if_true, List.cons_append, List.append_assoc, hmark]

theorem getLast?_place : (place path snippet).getLast? = some '\n' := by
  rw [place, List.getLast?_append_of_ne_nil _ (by decide)]
  decide

/-- The fence is the last line of the header. -/
theorem ofText_header (path : Text) (snippet : Snippet) :
    Line.ofText (header path snippet true ++ ['\n']) =
      Line.ofText (place path snippet) ++ [opening] := by
  have hopening : Line.ofText opening.text = [opening] := by decide
  rw [header_markdown, Text.ofText_append getLast?_place, hopening]

/-- A listing is cut into the lines above the fence, the fence, the lines of the code and the footer. -/
theorem ofText_format (path : Text) (snippet : Snippet) : Line.ofText (format path snippet true) =
    Line.ofText (place path snippet) ++ opening :: behind snippet := by
  have hheader : (header path snippet true ++ ['\n']).getLast? = some '\n' := by simp
  have hcode : (snippet.code ++ ['\n']).getLast? = some '\n' := by simp
  have hclosing : Line.ofText (footer true) = [closing] := by decide
  rw [format_eq, Text.ofText_append hheader, ofText_header, Text.ofText_append hcode, hclosing,
    List.append_assoc]
  rfl

theorem isOneLine_location (hpath : IsOneLine path) (hname : IsOneLine snippet.name) :
    IsOneLine (location path snippet.name) := by
  have hdrop : ∀ n, IsOneLine (path.drop n) := fun n =>
    ⟨fun h => hpath.1 (List.mem_of_mem_drop h), fun h => hpath.2 (List.mem_of_mem_drop h)⟩
  have hdots : IsOneLine "..." := by decide
  have hat : IsOneLine ('@' :: snippet.name) := Text.isOneLine_cons.mpr ⟨by decide, hname⟩
  unfold location
  dsimp only
  refine Text.isOneLine_append.mpr ⟨?_, hat⟩
  split
  · exact Text.isOneLine_append.mpr ⟨hdots, hdrop _⟩
  · exact hpath

/-- The place of a snippet opens no fence, if it is told in one line. -/
theorem opens_place (hpath : IsOneLine path) (hname : IsOneLine snippet.name) :
    ∀ l ∈ Line.ofText (place path snippet), opens l = false := by
  have hbody : IsOneLine ('*' :: location path snippet.name ++ ['*']) := by
    rw [List.cons_append, Text.isOneLine_cons, Text.isOneLine_append]
    exact ⟨by decide, isOneLine_location hpath hname, by decide⟩
  have hline : Line.ofText (place path snippet) =
      [⟨'*' :: location path snippet.name ++ ['*'], ['\n']⟩] := by
    refine Text.Ruled.ofText_eq ?_
    have hruled := Text.Ruled.cons hbody .feed (by simp) .nil
    simpa [place] using hruled
  intro l hl
  rw [hline, List.mem_singleton] at hl
  rw [hl]
  rfl

/-- **A listing in markdown** is the place of the snippet, the fence, the code and the footer. The fence is
the first one in the listing if no line of the place opens one, as where the path is one line. The lines
inside it are those of the code up to the first one that closes a fence. So the footer is what closes the
fence, and the text inside is the code, exactly if no line of the code closes a fence. -/
theorem fenced_format (path : Text) (snippet : Snippet) (hname : IsOneLine snippet.name) :
    Line.ofText (format path snippet true) =
        Line.ofText (place path snippet) ++ opening :: behind snippet ∧
      (block? (Line.ofText (format path snippet true)) =
          some ⟨Line.ofText (place path snippet), opening, inside (behind snippet),
            onward (behind snippet)⟩ ↔
        ∀ l ∈ Line.ofText (place path snippet), opens l = false) ∧
      (IsOneLine path → ∀ l ∈ Line.ofText (place path snippet), opens l = false) ∧
      inside (behind snippet) = inside (codeLines snippet) ∧
      (onward (behind snippet) = [closing] ↔ ∀ l ∈ codeLines snippet, ¬ IsClosing l) ∧
      (Line.textOf (inside (behind snippet)) = snippet.code ++ ['\n'] ↔
        ∀ l ∈ codeLines snippet, ¬ IsClosing l) := by
  have hopening : opens opening = true := by decide
  have hclosing : closes closing = true := by decide
  have hinside : inside (behind snippet) = inside (codeLines snippet) := inside_concat hclosing
  have honward : onward (behind snippet) = onward (codeLines snippet) ++ [closing] :=
    onward_concat hclosing
  refine ⟨ofText_format path snippet, ?_, fun hpath => opens_place hpath hname, hinside, ?_, ?_⟩
  · rw [ofText_format]
    exact ⟨fun h => opens_above h, fun h => block?_append_cons h hopening _⟩
  · rw [honward, ← onward_eq_nil_iff]
    simp
  · rw [hinside]
    exact textOf_inside_ofText_eq_iff

/-- A fence with something behind its ticks, in a string of the code, closes nothing. -/
theorem fenced_format_marked :
    IsOneLine "marked" ∧ IsOneLine "notes/readme.py" ∧
      block? (Line.ofText (format "notes/readme.py" ⟨"marked", "s = \"\"\"\n   ```sh\n\"\"\""⟩ true)) =
        some ⟨[⟨"*.../readme.py@marked*", "\n"⟩], opening,
          [⟨"s = \"\"\"", "\n"⟩, ⟨"   ```sh", "\n"⟩, ⟨"\"\"\"", "\n"⟩], [closing]⟩ := by
  have hname : IsOneLine "marked" := by decide
  have hpath : IsOneLine "notes/readme.py" := by decide
  obtain ⟨-, hblock, hplace, -, -, -⟩ :=
    fenced_format "notes/readme.py" ⟨"marked", "s = \"\"\"\n   ```sh\n\"\"\""⟩ hname
  exact ⟨hname, hpath, hblock.mpr (hplace hpath)⟩

/-- A line of three ticks in a string of the code closes the fence: the footer does not, and only the line
above it is shown. -/
theorem format_closed_early :
    IsOneLine "s" ∧
      block? (Line.ofText (format "b.py" ⟨"s", "s = \"\"\"\n```\n\"\"\""⟩ true)) =
        some ⟨[⟨"*b.py@s*", "\n"⟩], opening, [⟨"s = \"\"\"", "\n"⟩],
          [⟨"```", "\n"⟩, ⟨"\"\"\"", "\n"⟩, closing]⟩ ∧
      onward (behind ⟨"s", "s = \"\"\"\n```\n\"\"\""⟩) ≠ [closing] ∧
      Line.textOf (inside (behind ⟨"s", "s = \"\"\"\n```\n\"\"\""⟩)) ≠ "s = \"\"\"\n```\n\"\"\"\n" := by
  decide

end Listing

end SnippetBench.Document
