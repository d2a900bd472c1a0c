import SnippetBench.Proofs.Script.Indent
import SnippetBench.Proofs.Script.Layout
import SnippetBench.Proofs.Text.Quoted

/-!
# Blocks read back

A block is an opening with the counts, the indented code, and a closing with the name (`block_eq`).
`readBlock?` reads a block from both ends: the counts from the start, as digits before a character
that is none, and the name from the last line, since its literal holds no line end. With these the
opening and the closing are known as a whole, and what is between them is the code, whatever lines
it imitates. So a block tells everything about its snippet (`readBlock?_wrap`).
-/

namespace SnippetBench.Script

open Document (Snippet)

/-! ### Cutting at both ends -/

theorem after?_append (start rest : Text) : Text.after? start (start ++ rest) = some rest := by
  simp [Text.after?]

/-- What stands before `ending` in the text, if the text ends with it. -/
def before? (ending t : Text) : Option Text :=
  (Text.after? ending.reverse t.reverse).map List.reverse

theorem before?_append (front ending : Text) : before? ending (front ++ ending) = some front := by
  rw [before?, List.reverse_append, after?_append, Option.map_some, List.reverse_reverse]

/-- What stands behind the last `\n`. -/
def lastLine (t : Text) : Text := (t.reverse.takeWhile (· ≠ '\n')).reverse

theorem lastLine_append {line : Text} (h : '\n' ∉ line) (front : Text) :
    lastLine (front ++ (['\n'] ++ line)) = line := by
  have hline : ∀ c ∈ line.reverse, decide (c ≠ '\n') = true := fun c hc =>
    decide_eq_true fun e => h (List.mem_reverse.mp (e ▸ hc))
  rw [lastLine, List.reverse_append, List.reverse_append, List.append_assoc,
    Text.takeWhile_run hline (by simp), List.reverse_reverse]

/-! ### Counts -/

/-- The number that the digits at the start of a text write. -/
def readCount (t : Text) : Int := Nat.ofDigitChars 10 (t.takeWhile Char.isDigit) 0

theorem readCount_ofInt_append {n : Int} (hn : 0 ≤ n) {rest : Text}
    (hrest : ∀ c, rest.head? = some c → c.isDigit = false) :
    readCount (Text.ofInt n ++ rest) = n := by
  obtain ⟨n, rfl⟩ := Int.eq_ofNat_of_zero_le hn
  have hdigits : ∀ c ∈ Nat.toDigits 10 n, c.isDigit = true := fun c hc =>
    Nat.isDigit_of_mem_toDigits (by decide) (by decide) hc
  show ((Nat.ofDigitChars 10 ((Nat.toDigits 10 n ++ rest).takeWhile Char.isDigit) 0 : Nat) : Int) = n
  rw [Text.takeWhile_run hdigits hrest, Nat.ofDigitChars_toDigits (by decide) (by decide)]

/-! ### The parts of a block -/

theorem wrap_eq_ok_iff {s : Snippet} {samples iterations : Int} {t : Text} :
    wrap s samples iterations = .ok t ↔
      1 ≤ samples ∧ 1 ≤ iterations ∧ block s samples iterations = t := by
  constructor
  · intro h
    rw [wrap, checkCounts] at h
    split at h
    · cases h
    · split at h
      · cases h
      · cases h
        exact ⟨by omega, by omega, rfl⟩
  · rintro ⟨hs, hi, rfl⟩
    exact wrap_eq hs hi s

/-- What stands before the samples. -/
def beforeSamples : Text := "try:\n    _pybm_results = [0.0] * "

/-- What stands between the samples and the iterations, which has the samples again. -/
def beforeIterations (samples : Int) : Text :=
  "\n    for _pybm_sample in range(" ++ (Text.ofInt samples ++ "):\n        _pybm_iteration = ")

/-- What stands between the iterations and the code. -/
def beforeCode : Text :=
  "\n        _pybm_start = _pybm_clock()\n        while _pybm_iteration:\n"
    ++ "            _pybm_iteration -= 1\n"

/-- What stands between the code and the last line, which has the name once. -/
def behindCode (name : Text) : Text :=
  "\n        _pybm_results[_pybm_sample] = (_pybm_clock() - _pybm_start) * 1000\n    _pybm_log("
    ++ (Text.Quoted.write name ++
      (", _pybm_reduce(_pybm_results))\nexcept KeyboardInterrupt:\n    raise\n"
        ++ "except BaseException as _pybm_error:"))

/-- What stands before the name in the last line. -/
def beforeName : Text := "    _pybm_log("

/-- What stands behind the name in the last line. -/
def behindName : Text := ", _pybm_error)\n"

/-- The last line of a block without its end. -/
def lastCall (name : Text) : Text := beforeName ++ Text.Quoted.write name

/-- All that stands behind the code. -/
def closing (name : Text) : Text := behindCode name ++ (['\n'] ++ (lastCall name ++ behindName))

theorem block_eq (s : Snippet) (samples iterations : Int) :
    block s samples iterations =
      beforeSamples ++ (Text.ofInt samples ++ beforeIterations samples ++
        (Text.ofInt iterations ++ beforeCode ++
          (indent codeMargin (effectiveCode s.code) ++ closing s.name))) := by
  have hcall : ("except BaseException as _pybm_error:\n    _pybm_log(" : Text) =
      "except BaseException as _pybm_error:".toList ++ (['\n'] ++ beforeName) := by decide +kernel
  unfold block
  rw [hcall]
  unfold beforeSamples beforeIterations beforeCode closing behindCode lastCall behindName
  simp only [List.append_assoc]

theorem isUnbroken_codeMargin : Text.IsUnbroken codeMargin := fun c hc => by
  rw [List.eq_of_mem_replicate hc]
  decide

/-! ### Reading -/

/-- What a block tells about its snippet and the counts. -/
structure Reading where
  name : Text
  samples : Int
  iterations : Int
  code : Text
  deriving DecidableEq, Repr

/-- The name in the last line of a block. -/
def readName? (t : Text) : Option Text := do
  let call := lastLine (← before? behindName t)
  Text.Quoted.read? (← Text.after? beforeName call)

/-- Reads a block back. -/
def readBlock? (t : Text) : Option Reading := do
  let rest ← Text.after? beforeSamples t
  let samples := readCount rest
  let rest ← Text.after? (Text.ofInt samples ++ beforeIterations samples) rest
  let iterations := readCount rest
  let rest ← Text.after? (Text.ofInt iterations ++ beforeCode) rest
  let name ← readName? rest
  let code ← before? (closing name) rest
  return ⟨name, samples, iterations, unindent codeMargin.length code⟩

theorem newline_notMem_lastCall (name : Text) : '\n' ∉ lastCall name := by
  rw [lastCall, List.mem_append]
  rintro (h | h)
  · exact absurd h (by decide)
  · exact Text.Quoted.newline_notMem_write name h

theorem readName?_append (front name : Text) : readName? (front ++ closing name) = some name := by
  have hsplit : front ++ closing name =
      (front ++ behindCode name ++ (['\n'] ++ lastCall name)) ++ behindName := by
    simp only [closing, List.append_assoc]
  rw [readName?, hsplit, before?_append]
  show (Text.after? beforeName (lastLine (front ++ behindCode name ++ (['\n'] ++ lastCall name)))).bind
    Text.Quoted.read? = some name
  rw [lastLine_append (newline_notMem_lastCall name), lastCall, after?_append]
  exact Text.Quoted.read?_write name

theorem readBlock?_block (s : Snippet) {samples iterations : Int} (hs : 1 ≤ samples)
    (hi : 1 ≤ iterations) : readBlock? (block s samples iterations) =
      some ⟨s.name, samples, iterations, effectiveCode s.code⟩ := by
  have hsamples : ∀ rest, readCount (Text.ofInt samples ++ beforeIterations samples ++ rest) = samples :=
    fun rest => by
      rw [List.append_assoc]
      exact readCount_ofInt_append (by omega) fun c hc => by cases hc; rfl
  have hiterations : ∀ rest, readCount (Text.ofInt iterations ++ beforeCode ++ rest) = iterations :=
    fun rest => by
      rw [List.append_assoc]
      exact readCount_ofInt_append (by omega) fun c hc => by cases hc; rfl
  have hcode : unindent codeMargin.length (indent codeMargin (effectiveCode s.code)) =
      effectiveCode s.code := unindent_indent isUnbroken_codeMargin _
  rw [readBlock?, block_eq]
  simp only [after?_append, hsamples, hiterations, readName?_append, before?_append, hcode,
    Option.bind_eq_bind, Option.bind_some, Option.pure_def]

/-- A block tells the name, the counts and the code that it runs; so blocks are the same exactly if
these are. -/
theorem readBlock?_wrap (s : Snippet) {samples iterations : Int} (hs : 1 ≤ samples)
    (hi : 1 ≤ iterations) :
    ∃ t, wrap s samples iterations = .ok t ∧
      readBlock? t = some ⟨s.name, samples, iterations, effectiveCode s.code⟩ ∧
      ∀ (other : Snippet) (samples' iterations' : Int), wrap other samples' iterations' = .ok t ↔
        other.name = s.name ∧ samples' = samples ∧ iterations' = iterations ∧
          effectiveCode other.code = effectiveCode s.code := by
  refine ⟨block s samples iterations, wrap_eq hs hi s, readBlock?_block s hs hi,
    fun other samples' iterations' => ⟨fun h => ?_, ?_⟩⟩
  · obtain ⟨hs', hi', hblock⟩ := wrap_eq_ok_iff.mp h
    have hread := readBlock?_block other hs' hi'
    rw [hblock, readBlock?_block s hs hi] at hread
    simpa [eq_comm] using hread
  · rintro ⟨hname, rfl, rfl, hcode⟩
    rw [wrap_eq hs hi, block_eq, block_eq, hname, hcode]

theorem readBlock?_wrap_imitation :
    ∃ t, wrap ⟨"\x7bname\x7d, '\n", "f()\u2028\n        _pybm_results[_pybm_sample] = 0\n"⟩ 2 30 = .ok t ∧
      readBlock? t = some ⟨"\x7bname\x7d, '\n", 2, 30,
        effectiveCode "f()\u2028\n        _pybm_results[_pybm_sample] = 0\n"⟩ ∧
      ∀ (other : Snippet) (samples' iterations' : Int), wrap other samples' iterations' = .ok t ↔
        other.name = "\x7bname\x7d, '\n" ∧ samples' = 2 ∧ iterations' = 30 ∧
          effectiveCode other.code =
            effectiveCode "f()\u2028\n        _pybm_results[_pybm_sample] = 0\n" :=
  readBlock?_wrap ⟨_, _⟩ (by decide) (by decide)

end SnippetBench.Script
