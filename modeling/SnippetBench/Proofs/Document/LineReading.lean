import SnippetBench.Proofs.Document.Declaration

/-!
# Reading a document line by line

`Token.scan` reads a document terminal by terminal. Here the same tokens are found line by line
(`Token.ofLines`): a declaration line becomes a token or the mistake that ends the reading, and a
content line joins the content token behind it, if there is one. The two readings agree on every
document (`Token.ofText_eq_ofLines`), so that statements about its tokens may be proved by induction
on its lines.
-/

namespace SnippetBench.Document

open Text (IsLine newlineLines endLine)

/-- The lines of a document, the last of which is ended if it was not. -/
def documentLines (document : Text) : List Text := newlineLines (endLine document)

theorem isLine_of_mem_documentLines {document line : Text} (h : line ∈ documentLines document) :
    IsLine line := Text.isLine_of_mem_endLine h

theorem flatten_documentLines (document : Text) :
    (documentLines document).flatten = endLine document := Text.flatten_newlineLines _

/-- The column of the character of a declaration line with the given number of characters between it
and the gap. -/
def columnOf (line : Text) (offset : Nat) : Nat :=
  marker.length + (gapOf line).length + offset + 1

namespace Token

/-- Puts a content line before tokens: it joins the content token that follows it, if any. -/
def consContent (line : Text) (number : Nat) : List Token → List Token
  | .content text _ :: tokens => .content (line ++ text) number :: tokens
  | tokens => .content line number :: tokens

/-- The tokens of lines, the first of which has the given number. -/
def ofLines (number : Nat) : List Text → Except Misfit (List Token)
  | [] => .ok []
  | line :: lines =>
    if IsDeclaration line then
      match mistake? (restOf line) with
      | some offset => .error ⟨number, columnOf line offset⟩
      | none => (ofLines (number + 1) lines).map (.declaration (nameOf line) number :: ·)
    else (ofLines (number + 1) lines).map (consContent line number)

/-! ### One terminal -/

section

variable {reading : Reading} {line column number : Nat} {text t value : Text}

theorem map_nil_append (r : Except Misfit (List Token)) : r.map ([] ++ ·) = r := by
  cases r <;> rfl

/-- Reading a text goes on behind the terminal that stands at its start. -/
theorem scan_of_move? (move : Move) (h : reading.move? (text ++ t) = some move)
    (hlen : move.terminal.length (text ++ t) = text.length) :
    scan reading line column (text ++ t) =
      (scan (move.reading text line) (line + text.count '\n') (columnAfter column text) t).map
        (move.tokens text line ++ ·) := by
  rw [scan]
  split
  · next h' => rw [h] at h'; cases h'
  · next move' h' =>
    rw [h, Option.some.injEq] at h'
    subst h'
    simp only [hlen, List.take_left, List.drop_left]

/-- Reading fails where no terminal stands. -/
theorem scan_of_move?_eq_none (h : reading.move? t = none) (ht : t ≠ []) :
    scan reading line column t = .error ⟨line, column⟩ := by
  rw [scan]
  split
  · have : t.isEmpty = false := by simpa using ht
    simp [this]
  · next h' => rw [h] at h'; cases h'

theorem scan_nil : scan .between line column [] = .ok [] := by
  rw [scan]
  split
  · rfl
  · next h => simp [Reading.move?, Reading.moves] at h

theorem columnAfter_of_notMem (h : '\n' ∉ text) : columnAfter column text = column + text.length := by
  rw [columnAfter, if_neg (by simpa using h)]

theorem columnAfter_line (h : IsLine text) : columnAfter column text = 1 := by
  obtain ⟨body, -, rfl⟩ := h
  simp [columnAfter]

theorem columnAfter_append (a b : Text) :
    columnAfter column (a ++ b) = columnAfter (columnAfter column a) b := by
  by_cases hb : '\n' ∈ b
  · have hlt : ¬ (b.reverse.takeWhile (· != '\n')).length = b.reverse.length := by
      intro e
      have heq := (List.takeWhile_prefix _).eq_of_length e
      have hmem : '\n' ∈ b.reverse.takeWhile (· != '\n') := by rw [heq]; simpa using hb
      simpa using List.mem_takeWhile_imp hmem
    simp only [columnAfter, List.reverse_append, List.takeWhile_append, if_neg hlt]
    simp [hb]
  · have hpass : ∀ c ∈ b.reverse, (c != '\n') = true := fun c hc => by
      have : c ≠ '\n' := fun e => hb (e ▸ List.mem_reverse.mp hc)
      simpa using this
    rw [columnAfter_of_notMem hb]
    by_cases ha : '\n' ∈ a
    · simp only [columnAfter, List.reverse_append, List.takeWhile_append_of_pos hpass]
      simp [ha]
      omega
    · have hab : '\n' ∉ a ++ b := by simp [ha, hb]
      rw [columnAfter_of_notMem hab, columnAfter_of_notMem ha, List.length_append, Nat.add_assoc]

theorem scan_marker (h : Terminal.markerLength (text ++ t) = text.length) (hne : text ≠ [])
    (hn : '\n' ∉ text) :
    scan .between line column (text ++ t) = scan (.marked line) line (column + text.length) t := by
  have hpos : 0 < text.length := List.length_pos_iff.mpr hne
  rw [scan_of_move? ⟨.marker, fun _ line => .marked line, fun _ _ => []⟩ ?_ h]
  · rw [columnAfter_of_notMem hn, List.count_eq_zero.mpr hn, map_nil_append]
    rfl
  · simp [Reading.move?, Reading.moves, Terminal.length, h, hpos]

theorem scan_content (hm : isMarked (text ++ t) = false)
    (h : Terminal.contentLength (text ++ t) = text.length) (hne : text ≠ []) :
    scan .between line column (text ++ t) =
      (scan .between (line + text.count '\n') (columnAfter column text) t).map
        (.content text line :: ·) := by
  have hpos : 0 < text.length := List.length_pos_iff.mpr hne
  have hmarker : Terminal.markerLength (text ++ t) = 0 := by
    rw [Terminal.markerLength, show afterMarker? (text ++ t) = none by simpa [isMarked] using hm]
  refine scan_of_move? ⟨.content, fun _ _ => .between, fun text line => [.content text line]⟩ ?_ h
  simp [Reading.move?, Reading.moves, Terminal.length, h, hpos, hmarker]

theorem scan_value (h : Terminal.valueLength (value ++ t) = value.length) (hne : value ≠ [])
    (hn : '\n' ∉ value) :
    scan (.marked number) line column (value ++ t) =
      scan (.valued number value) line (column + value.length) t := by
  have hpos : 0 < value.length := List.length_pos_iff.mpr hne
  rw [scan_of_move? ⟨.value, fun text _ => .valued number text, fun _ _ => []⟩ ?_ h]
  · rw [columnAfter_of_notMem hn, List.count_eq_zero.mpr hn, map_nil_append]
    rfl
  · simp [Reading.move?, Reading.moves, Terminal.length, h, hpos]

theorem scan_marked_newline :
    scan (.marked number) line column ('\n' :: t) =
      (scan .between (line + 1) 1 t).map (.declaration [] number :: ·) := by
  have hvalue : Terminal.valueLength ('\n' :: t) = 0 := by
    simp [Terminal.valueLength, Terminal.bracedLength, isPlain]
  show scan (.marked number) line column (['\n'] ++ t) = _
  refine scan_of_move? ⟨.lineEnd, fun _ _ => .between, fun _ _ => [.declaration [] number]⟩ ?_ rfl
  simp [Reading.move?, Reading.moves, Terminal.length, hvalue, Terminal.lineEndLength]

theorem scan_valued_lineEnd (cr : Text) (hcr : cr = [] ∨ cr = ['\r']) :
    scan (.valued number value) line column (cr ++ '\n' :: t) =
      (scan .between (line + 1) 1 t).map
        (.declaration (Text.trim isNameTrim value) number :: ·) := by
  have hlen : Terminal.lineEndLength (cr ++ '\n' :: t) = (cr ++ ['\n']).length := by
    rcases hcr with rfl | rfl <;> rfl
  have hline : IsLine (cr ++ ['\n']) := ⟨cr, by rcases hcr with rfl | rfl <;> decide, rfl⟩
  rw [← List.singleton_append, ← List.append_assoc] at hlen ⊢
  have hpos : 0 < Terminal.lineEndLength (cr ++ ['\n'] ++ t) := by
    rw [hlen]
    simp
  rw [scan_of_move? ⟨.lineEnd, fun _ _ => .between,
    fun _ _ => [.declaration (Text.trim isNameTrim value) number]⟩ ?_ hlen]
  · rw [hline.count_newline, columnAfter_line hline]
    rfl
  · simp only [Reading.move?, Reading.moves, List.find?_cons, Terminal.length, hpos, decide_true]

/-! ### The rest of a declaration line -/

variable {rest inside name gap : Text} {k : Nat}

theorem isPlain_of_notMem (plain : ∀ c ∈ name, isBrace c = false) (hn : '\n' ∉ name) :
    ∀ c ∈ name, isPlain c = true := fun c hc => by
  have : c ≠ '\n' := fun e => hn (e ▸ hc)
  simp [isPlain, plain c hc, this]

theorem bracedLength_of_head?_ne (h : t.head? ≠ some '{') : Terminal.bracedLength t = 0 := by
  unfold Terminal.bracedLength
  split
  · exact absurd rfl h
  · rfl

theorem bracedLength_unclosed (plain : ∀ c ∈ inside, isPlain c = true)
    (stop : ∀ c, t.head? = some c → isPlain c = false ∧ c ≠ '}') :
    Terminal.bracedLength ('{' :: (inside ++ t)) = 0 := by
  rw [Terminal.bracedLength, Text.dropWhile_run plain fun c hc => (stop c hc).1]
  split
  · next after => exact absurd rfl (stop '}' rfl).2
  · rfl

theorem bracedLength_closed (plain : ∀ c ∈ inside, isPlain c = true)
    (blank : ∀ c ∈ gap, isGap c = true) (stop : ∀ c, t.head? = some c → isGap c = false) :
    Terminal.bracedLength ('{' :: (inside ++ '}' :: (gap ++ t))) = inside.length + 2 + gap.length := by
  have hstop : ∀ c, ('}' :: (gap ++ t)).head? = some c → isPlain c = false := by
    simp [isPlain, isBrace]
  rw [Terminal.bracedLength, Text.dropWhile_run plain hstop, Text.takeWhile_run plain hstop]
  simp only [Text.takeWhile_run blank stop]

theorem valueLength_bare (hopen : (name ++ t).head? ≠ some '{') (plain : ∀ c ∈ name, isPlain c = true)
    (stop : ∀ c, t.head? = some c → isPlain c = false) :
    Terminal.valueLength (name ++ t) = name.length := by
  rw [Terminal.valueLength, bracedLength_of_head?_ne hopen, if_neg (Nat.lt_irrefl 0),
    Text.takeWhile_run plain stop]

/-- A bare name is read up to the brace or the line end behind it. -/
theorem scan_bare (hne : name ≠ []) (plain : ∀ c ∈ name, isBrace c = false) (hn : '\n' ∉ name)
    (stop : ∀ c, t.head? = some c → isPlain c = false) :
    scan (.marked number) line column (name ++ t) =
      scan (.valued number name) line (column + name.length) t :=
  scan_value (valueLength_bare (head?_ne_open plain fun h => absurd h hne) (isPlain_of_notMem plain hn)
    stop) hne hn

/-- A name in braces is read up to what stands behind its blanks and tabs. -/
theorem scan_braced (plain : ∀ c ∈ inside, isBrace c = false) (hn : '\n' ∉ inside)
    (blank : ∀ c ∈ gap, isGap c = true) (stop : ∀ c, t.head? = some c → isGap c = false) :
    scan (.marked number) line column ('{' :: (inside ++ '}' :: (gap ++ t))) =
      scan (.valued number ('{' :: (inside ++ '}' :: gap))) line
        (column + (inside.length + 2 + gap.length)) t := by
  have hlen : ('{' :: (inside ++ '}' :: gap)).length = inside.length + 2 + gap.length := by
    simp only [List.length_cons, List.length_append]
    omega
  have hgap : '\n' ∉ gap := fun m => absurd (blank '\n' m) (by decide)
  have hbraced := bracedLength_closed (isPlain_of_notMem plain hn) blank stop
  have happ : '{' :: (inside ++ '}' :: (gap ++ t)) = '{' :: (inside ++ '}' :: gap) ++ t := by simp
  rw [happ] at hbraced ⊢
  rw [← hlen] at hbraced ⊢
  refine scan_value ?_ (by simp) (by simp [hn, hgap])
  rw [Terminal.valueLength, if_pos (by rw [hbraced]; simp), hbraced]

/-- A declaration line whose rest is well formed becomes one token. -/
theorem scan_wellFormed (h : WellFormed rest) (hn : '\n' ∉ rest) :
    scan (.marked number) line column (rest ++ '\n' :: t) =
      (scan .between (line + 1) 1 t).map (.declaration (Text.trim isNameTrim rest) number :: ·) := by
  cases h with
  | bare plain =>
    by_cases hne : rest = []
    · subst hne
      exact scan_marked_newline
    · rw [scan_bare hne plain hn (by simp [isPlain])]
      exact scan_valued_lineEnd [] (Or.inl rfl)
  | @braced inside gap cr plain blank hcr =>
    have hinside : '\n' ∉ inside := fun m => hn (by simp [m])
    have happ : '{' :: (inside ++ '}' :: (gap ++ cr)) ++ '\n' :: t =
        '{' :: (inside ++ '}' :: (gap ++ (cr ++ '\n' :: t))) := by simp
    have htrim : Text.trim isNameTrim ('{' :: (inside ++ '}' :: (gap ++ cr))) =
        Text.trim isNameTrim ('{' :: (inside ++ '}' :: gap)) := by
      rw [show '{' :: (inside ++ '}' :: (gap ++ cr)) = '{' :: (inside ++ '}' :: gap) ++ cr by simp]
      exact Text.trim_append_of_all (by rcases hcr with rfl | rfl <;> simp [isNameTrim])
    rw [happ, scan_braced plain hinside blank (by rcases hcr with rfl | rfl <;> simp [isGap]),
      scan_valued_lineEnd cr hcr, htrim]

/-- No value and no line end stands at a brace that does not open a name. -/
theorem scan_marked_eq_error (hvalue : Terminal.valueLength t = 0) (hend : Terminal.lineEndLength t = 0)
    (hne : t ≠ []) : scan (.marked number) line column t = .error ⟨line, column⟩ :=
  scan_of_move?_eq_none (by simp [Reading.move?, Reading.moves, Terminal.length, hvalue, hend]) hne

theorem scan_valued_eq_error (hend : Terminal.lineEndLength t = 0) (hne : t ≠ []) :
    scan (.valued number value) line column t = .error ⟨line, column⟩ :=
  scan_of_move?_eq_none (by simp [Reading.move?, Reading.moves, Terminal.length, hend]) hne

/-- No line end stands before its last character but a carriage return. -/
theorem lineEndLength_of_notMem {c : Char} {s : Text} (hn : '\n' ∉ c :: s) (hcr : c :: s ≠ ['\r']) :
    Terminal.lineEndLength (c :: s ++ '\n' :: t) = 0 := by
  rw [List.mem_cons, not_or] at hn
  unfold Terminal.lineEndLength
  split
  · next heq =>
    -- the `\n` behind the carriage return is that of the line, so nothing stands between them
    cases s with
    | nil => exact absurd (by rw [(List.cons.inj heq).1]) hcr
    | cons d s =>
      simp only [List.cons_append, List.cons.injEq] at heq
      exact absurd (heq.2.1 ▸ List.mem_cons_self) hn.2
  · next heq => exact absurd (by simpa using heq : c = '\n' ∧ _).1.symm hn.1
  · rfl

/-- A declaration line whose rest has a mistake ends the reading at it. -/
theorem scan_mistake (h : Mistake rest k) (hn : '\n' ∉ rest) :
    scan (.marked number) line column (rest ++ '\n' :: t) = .error ⟨line, column + k⟩ := by
  cases h with
  | @closing s =>
    refine scan_marked_eq_error ?_ ?_ (by simp)
    · show Terminal.valueLength ([] ++ '}' :: (s ++ '\n' :: t)) = ([] : Text).length
      exact valueLength_bare (by simp) (by simp) (by simp [isPlain, isBrace])
    · rfl
  | @unclosed inside s plain stop =>
    have hinside : '\n' ∉ inside := fun m => hn (by simp [m])
    have hstop : ∀ c, (s ++ '\n' :: t).head? = some c → isPlain c = false ∧ c ≠ '}' := by
      cases s with
      | nil => simp [isPlain]
      | cons c s => simp [stop c rfl, isPlain, isBrace]
    rw [List.cons_append, List.append_assoc]
    refine scan_marked_eq_error ?_ rfl (by simp)
    rw [Terminal.valueLength, bracedLength_unclosed (isPlain_of_notMem plain hinside) hstop]
    simp [isPlain, isBrace]
  | @brace name s b hname plain hb =>
    have hname' : '\n' ∉ name := fun m => hn (by simp [m])
    rw [List.append_assoc, scan_bare hname plain hname' (by simp [isPlain, hb])]
    refine scan_valued_eq_error ?_ (by simp)
    rcases (by simpa [isBrace] using hb : b = '{' ∨ b = '}') with rfl | rfl <;> rfl
  | @trailing inside gap s plain blank stop hne hcr =>
    have hinside : '\n' ∉ inside := fun m => hn (by simp [m])
    have hs : '\n' ∉ s := fun m => hn (by simp [m])
    have happ : '{' :: (inside ++ '}' :: (gap ++ s)) ++ '\n' :: t =
        '{' :: (inside ++ '}' :: (gap ++ (s ++ '\n' :: t))) := by simp
    obtain ⟨c, s, rfl⟩ := List.exists_cons_of_ne_nil hne
    rw [happ, scan_braced plain hinside blank (by simpa using stop)]
    exact scan_valued_eq_error (lineEndLength_of_notMem hs hcr) (by simp)

/-! ### Lines -/

variable {u : Text}

theorem markerLength_declaration (h : IsDeclaration text) (hl : IsLine text) :
    Terminal.markerLength (text ++ u) = (marker ++ gapOf text).length := by
  obtain ⟨heq, -, hstop⟩ := h.eq_append hl
  obtain ⟨behind, hbehind⟩ := Option.isSome_iff_exists.mp ((isMarked_line_append hl u).mpr h)
  have happ : text ++ u = marker ++ (gapOf text ++ (restOf text ++ '\n' :: u)) := by
    conv => lhs; rw [heq]
    simp
  have hb : behind = gapOf text ++ (restOf text ++ '\n' :: u) :=
    List.append_cancel_left ((afterMarker?_eq_some hbehind).symm.trans happ)
  have hend : ∀ c, (restOf text ++ '\n' :: u).head? = some c → isGap c = false := by
    cases hr : restOf text with
    | nil => simp [isGap]
    | cons c rest => simpa [hr] using hstop
  have hblank : ∀ c ∈ gapOf text, isGap c = true := fun c hc => List.mem_takeWhile_imp hc
  rw [Terminal.markerLength, hbehind, hb, List.length_append]
  simp only [Text.takeWhile_run hblank hend]

/-- Reading a declaration line. -/
theorem scan_declaration (h : IsDeclaration text) (hl : IsLine text) :
    scan .between number 1 (text ++ u) =
      match mistake? (restOf text) with
      | some offset => .error ⟨number, columnOf text offset⟩
      | none => (scan .between (number + 1) 1 u).map (.declaration (nameOf text) number :: ·) := by
  obtain ⟨heq, hn, -⟩ := h.eq_append hl
  have hgap : '\n' ∉ gapOf text := fun m => absurd (List.mem_takeWhile_imp m) (by decide)
  have happ : text ++ u = (marker ++ gapOf text) ++ (restOf text ++ '\n' :: u) := by
    conv => lhs; rw [heq]
    simp
  have hlen := markerLength_declaration (u := u) h hl
  rw [happ] at hlen ⊢
  have hmarker : '\n' ∉ marker ++ gapOf text := by simp [newline_notMem_marker, hgap]
  rw [scan_marker hlen (List.append_ne_nil_of_left_ne_nil (by decide) _) hmarker]
  cases hm : mistake? (restOf text) with
  | none => exact scan_wellFormed (mistake?_eq_none_iff.mp hm) hn
  | some offset =>
    rw [scan_mistake (mistake?_eq_some_iff.mp hm) hn]
    simp only [columnOf, List.length_append, Except.error.injEq, Misfit.mk.injEq, true_and]
    omega

/-- A content line is the start of the content that goes on behind it. -/
theorem contentLength_line (h : ¬ IsDeclaration text) (hl : IsLine text) :
    Terminal.contentLength (text ++ u) = text.length + Terminal.contentLength u := by
  have hm := isMarked_content_append h hl u
  obtain ⟨body, hbody, rfl⟩ := hl
  have plain : ∀ c ∈ body, (c != '\n') = true := fun c hc => by
    have : c ≠ '\n' := fun e => hbody (e ▸ hc)
    simpa using this
  have hstop : ∀ c, ('\n' :: u).head? = some c → (c != '\n') = false := by simp
  rw [List.append_assoc] at hm ⊢
  rw [Terminal.contentLength, if_neg (ne_true_of_eq_false hm)]
  split
  · next h' => rw [List.singleton_append, Text.dropWhile_run plain hstop] at h'; cases h'
  · next h' =>
    rw [List.singleton_append, Text.dropWhile_run plain hstop] at h'
    obtain ⟨-, rfl⟩ := List.cons.inj h'
    rw [List.singleton_append, Text.takeWhile_run plain hstop, List.length_append]
    rfl

theorem contentLength_eq_zero (h : IsDeclaration text) (hl : IsLine text) :
    Terminal.contentLength (text ++ u) = 0 := by
  rw [Terminal.contentLength, if_pos ((isMarked_line_append hl u).mpr h)]

theorem contentLength_le (t : Text) : Terminal.contentLength t ≤ t.length := by
  fun_induction Terminal.contentLength t with
  | case1 t _ => exact Nat.zero_le _
  | case2 t _ _ => exact Nat.zero_le _
  | case3 t _ c rest hrest ih =>
    have hcut := congrArg List.length (List.takeWhile_append_dropWhile (p := (· != '\n')) (l := t))
    rw [hrest, List.length_append, List.length_cons] at hcut
    omega

/-- A content line that no content follows is a content of its own. -/
theorem scan_content_alone (h : ¬ IsDeclaration text) (hl : IsLine text)
    (hu : Terminal.contentLength u = 0) :
    scan .between number 1 (text ++ u) =
      (scan .between (number + 1) 1 u).map (.content text number :: ·) := by
  rw [scan_content (isMarked_content_append h hl u) (by rw [contentLength_line h hl, hu]; rfl)
    hl.ne_nil, hl.count_newline, columnAfter_line hl]

/-- A content line joins the content that follows it. -/
theorem scan_content_joined (h : ¬ IsDeclaration text) (hl : IsLine text)
    (hu : Terminal.contentLength u ≠ 0) :
    scan .between number 1 (text ++ u) =
      (scan .between (number + 1) 1 u).map (consContent text number) := by
  have hm := isMarked_content_append h hl u
  have hmu : isMarked u = false := by
    rw [← Bool.not_eq_true]
    exact fun hmu => hu (by rw [Terminal.contentLength, if_pos hmu])
  obtain ⟨run, v, rfl, hrun⟩ : ∃ run v, u = run ++ v ∧ Terminal.contentLength u = run.length :=
    ⟨u.take (Terminal.contentLength u), u.drop (Terminal.contentLength u),
      (List.take_append_drop _ u).symm, by rw [List.length_take, Nat.min_eq_left (contentLength_le u)]⟩
  have hne : run ≠ [] := fun e => hu (by rw [hrun, e]; rfl)
  have hlen : Terminal.contentLength (text ++ run ++ v) = (text ++ run).length := by
    rw [List.append_assoc, contentLength_line h hl, hrun, List.length_append]
  rw [← List.append_assoc] at hm ⊢
  rw [scan_content hm hlen (by simp [hne]), scan_content hmu hrun hne, List.count_append,
    hl.count_newline, columnAfter_append, columnAfter_line hl, ← Nat.add_assoc]
  cases scan .between (number + 1 + run.count '\n') (columnAfter 1 run) v <;> rfl

end

/-! ### Documents -/

/-- A content line before a declaration line, or before none, joins no content. -/
theorem ofLines_map_consContent {lines : List Text} (h : ∀ l, lines.head? = some l → IsDeclaration l)
    (line : Text) (number next : Nat) :
    (ofLines next lines).map (consContent line number) =
      (ofLines next lines).map (.content line number :: ·) := by
  cases lines with
  | nil => rfl
  | cons l lines =>
    rw [ofLines, if_pos (h l rfl)]
    split
    · rfl
    · cases ofLines (next + 1) lines <;> rfl

/-- Reading terminal by terminal finds the tokens of the lines. -/
theorem scan_flatten {lines : List Text} (h : ∀ l ∈ lines, IsLine l) (number : Nat) :
    scan .between number 1 lines.flatten = ofLines number lines := by
  induction lines generalizing number with
  | nil => exact scan_nil
  | cons line lines ih =>
    have hl := h line List.mem_cons_self
    have hlines : ∀ l ∈ lines, IsLine l := fun l m => h l (List.mem_cons_of_mem _ m)
    rw [List.flatten_cons, ofLines]
    split
    · next hd => rw [scan_declaration hd hl, ih hlines]
    · next hd =>
      by_cases hnext : ∀ l, lines.head? = some l → IsDeclaration l
      · have hzero : Terminal.contentLength lines.flatten = 0 := by
          cases lines with
          | nil => exact Terminal.length_nil .content
          | cons l lines => exact contentLength_eq_zero (hnext l rfl) (hlines l List.mem_cons_self)
        rw [scan_content_alone hd hl hzero, ih hlines, ofLines_map_consContent hnext]
      · obtain ⟨l, hl', hdl⟩ : ∃ l, lines.head? = some l ∧ ¬ IsDeclaration l := by
          simpa using hnext
        obtain ⟨lines, rfl⟩ := List.head?_eq_some_iff.mp hl'
        have hrun : Terminal.contentLength (l :: lines).flatten ≠ 0 := by
          have hl₁ := hlines l List.mem_cons_self
          have := List.length_pos_iff.mpr hl₁.ne_nil
          rw [List.flatten_cons, contentLength_line hdl hl₁]
          omega
        rw [scan_content_joined hd hl hrun, ih hlines]

/-- The tokens of a document are those of its lines. -/
theorem ofText_eq_ofLines (document : Text) : ofText document = ofLines 1 (documentLines document) := by
  rw [ofText, ← flatten_documentLines]
  exact scan_flatten (fun _ => isLine_of_mem_documentLines) 1

end Token

end SnippetBench.Document
