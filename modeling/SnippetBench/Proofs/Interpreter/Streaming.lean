import SnippetBench.Interpreter.Execution
import SnippetBench.Proofs.Text.Replacement
import SnippetBench.Proofs.Text.RuledLines

/-!
# Streaming

What a script prints is handed over line by line to a sink, which may refuse a line at any point. One
line is either taken, and the others are handed over afterwards, or refused, and none is
(`run_feed_taken`, `run_feed_refused`). So a run hands over all lines of the output and waits for the
script, or it hands over those up to the first that is refused and kills the script
(`supervise_streams`). The lines are those of the text that the bytes of the output stand for, whatever
bytes they are.
-/

namespace SnippetBench.Interpreter

open Text (Line Ruled join normalizeNewlines withoutFinalNewline)
open Text.Utf8 (Replaced decodeLossy)

variable {σ ε : Type} {sink : Text → ExceptT ε (StateM σ) Unit} {e : Execution}
  {limit : Option Number.Binary64} {line : Text} {front rest lines : List Text} {s s' s'' : σ}
  {why : ε} {taken : Nat}

/-! ### What a sink does with a line -/

/-- In `Refuses sink line why s s'` the sink in the state `s` refuses the line, which leads it to `s'`. -/
def Refuses (sink : Text → ExceptT ε (StateM σ) Unit) (line : Text) (why : ε) (s s' : σ) : Prop :=
  (sink line).run.run s = (.error why, s')

/-- In `Takes sink lines s s'` the sink takes the lines one after the other, which leads it from the state
`s` to `s'`. -/
inductive Takes (sink : Text → ExceptT ε (StateM σ) Unit) : List Text → σ → σ → Prop
  /-- No line is handed over. -/
  | nil (s : σ) : Takes sink [] s s
  /-- A line is taken, and then the others are. -/
  | cons {line : Text} {lines : List Text} {s s' s'' : σ} (h : (sink line).run.run s = (.ok (), s'))
      (hlines : Takes sink lines s' s'') : Takes sink (line :: lines) s s''

/-- A sink takes all lines, or those before the first that it refuses. -/
theorem takes_or_refuses (sink : Text → ExceptT ε (StateM σ) Unit) (lines : List Text) (s : σ) :
    (∃ s', Takes sink lines s s') ∨
      ∃ front line rest why s' s'', lines = front ++ line :: rest ∧ Takes sink front s s' ∧
        Refuses sink line why s' s'' := by
  induction lines generalizing s with
  | nil => exact .inl ⟨s, .nil s⟩
  | cons line lines ih =>
    rcases hline : (sink line).run.run s with ⟨_ | _, s'⟩
    case error why => exact .inr ⟨[], line, lines, why, s, s', rfl, .nil s, hline⟩
    case ok =>
      rcases ih s' with ⟨s'', hlines⟩ | ⟨front, next, rest, why, s₁, s₂, rfl, hfront, hnext⟩
      · exact .inl ⟨s'', .cons hline hlines⟩
      · exact .inr ⟨line :: front, next, rest, why, s₁, s₂, rfl, .cons hline hfront, hnext⟩

/-! ### Lines handed over -/

/-- A line that is taken counts, and the next lines are handed over. -/
theorem run_feed_taken (h : (sink line).run.run s = (.ok (), s')) (taken : Nat) (lines : List Text) :
    (feed sink taken (line :: lines)).run s = (feed sink (taken + 1) lines).run s' := by
  rw [feed, StateT.run_bind, h]
  rfl

/-- Behind a line that is refused no line is handed over. -/
theorem run_feed_refused (h : Refuses sink line why s s') (taken : Nat) (lines : List Text) :
    (feed sink taken (line :: lines)).run s = (.error ⟨why, taken⟩, s') := by
  rw [Refuses] at h
  rw [feed, StateT.run_bind, h]
  rfl

/-- Lines that are taken are handed over before the others, and all of them count. -/
theorem Takes.run_feed (h : Takes sink front s s') (taken : Nat) (rest : List Text) :
    (feed sink taken (front ++ rest)).run s = (feed sink (taken + front.length) rest).run s' := by
  induction h generalizing taken with
  | nil s => rfl
  | cons hline _ ih =>
    rw [List.cons_append, run_feed_taken hline, ih, List.length_cons, Nat.add_assoc, Nat.add_comm 1]

/-! ### Processes -/

/-- A script whose lines are all taken is waited for. -/
theorem Takes.run_supervise (h : Takes sink (linesOf e.output) s s')
    (limit : Option Number.Binary64) : (e.supervise limit sink).run s =
      ((.ok (e.result limit (linesOf e.output).length),
        ⟨[], e.exit?, e.exit?.elim .killed .ended⟩), s') := by
  have hfeed := h.run_feed 0 []
  rw [List.append_nil, Nat.zero_add] at hfeed
  have hwait : (e.start.afterReading (linesOf e.output).length).wait =
      ⟨[], e.exit?, e.exit?.elim .killed .ended⟩ := by
    cases hexit : e.exit? <;> simp [Execution.start, Process.afterReading, Process.wait, hexit]
  have hrun : (feed sink 0 e.start.unread).run s = (.ok (linesOf e.output).length, s') := hfeed
  rw [Execution.supervise, StateT.run_bind, hrun, ← hwait]
  rfl

theorem Takes.run_stream (h : Takes sink (linesOf e.output) s s') (limit : Option Number.Binary64) :
    (e.stream limit sink).run s = (.ok (e.result limit (linesOf e.output).length), s') := by
  rw [Execution.stream, StateT.run_bind, h.run_supervise]
  rfl

/-- A script of which a line is refused is killed. -/
theorem Refuses.run_supervise (hlines : linesOf e.output = front ++ line :: rest)
    (hfront : Takes sink front s s') (h : Refuses sink line why s' s'')
    (limit : Option Number.Binary64) : (e.supervise limit sink).run s =
      ((.error ⟨why, front.length⟩, ⟨rest, e.exit?, .killed⟩), s'') := by
  have hrun : (feed sink 0 e.start.unread).run s = (.error ⟨why, front.length⟩, s'') := by
    have hunread : e.start.unread = front ++ line :: rest := hlines
    rw [hunread, hfront.run_feed, run_feed_refused h, Nat.zero_add]
  have hkill : (e.start.afterReading (front.length + 1)).kill.wait = ⟨rest, e.exit?, .killed⟩ := by
    simp [Execution.start, Process.afterReading, Process.kill, Process.wait, hlines]
  rw [Execution.supervise, StateT.run_bind, hrun, ← hkill]
  rfl

/-! ### Lines of an output -/

/-- The lines of an output are those of the text that it stands for. -/
theorem linesOf_eq_map_body (bytes : List UInt8) :
    linesOf bytes = (Line.ofText (decodeLossy bytes)).map Line.body :=
  (Text.ruled_ofText (decodeLossy bytes)).map_trimEnd

/-- **Streaming loses and adds no line.** The output of a script stands for a text, with U+FFFD for every
mistake in its bytes, and this text has lines, each with the line end `\n`, `\r` or `\r\n` that it has.
What is handed over are these lines without their line ends: joined with `\n`, they are the text with
`\n` for every line end, but without the one at its end. A sink that takes them all is handed them all,
and they are counted; a sink that refuses one is handed no other one, the script is killed, and the
refusal is passed on. -/
theorem supervise_streams (e : Execution) :
    ∃ (text : Text) (ruled : List Line) (lines : List Text),
      Replaced e.output text ∧ Ruled text ruled ∧ lines = ruled.map Line.body ∧
      (∀ line ∈ lines, '\n' ∉ line ∧ '\r' ∉ line) ∧
      join ['\n'] lines = withoutFinalNewline (normalizeNewlines text) ∧
      ∀ {σ ε : Type} (sink : Text → ExceptT ε (StateM σ) Unit) (s : σ),
        (∃ s', Takes sink lines s s' ∧
          (e.supervise none sink).run s =
            ((.ok ⟨e.exit?.getD killedCode, lines.length, false⟩,
              ⟨[], e.exit?, e.exit?.elim .killed .ended⟩), s')) ∨
        ∃ front line rest why s' s'', lines = front ++ line :: rest ∧
          Takes sink front s s' ∧ Refuses sink line why s' s'' ∧
          (e.supervise none sink).run s =
            ((.error ⟨why, front.length⟩, ⟨rest, e.exit?, .killed⟩), s'') := by
  have hruled := Text.ruled_ofText (decodeLossy e.output)
  have hlines := linesOf_eq_map_body e.output
  refine ⟨decodeLossy e.output, Line.ofText (decodeLossy e.output), linesOf e.output,
    Text.Utf8.replaced_decodeLossy e.output, hruled, hlines, ?_, ?_, fun sink s => ?_⟩
  · intro line hline
    rw [hlines] at hline
    obtain ⟨l, hl, rfl⟩ := List.mem_map.mp hline
    exact hruled.isOneLine hl
  · rw [hlines]
    exact hruled.join_bodies
  · rcases takes_or_refuses sink (linesOf e.output) s with
      ⟨s', htakes⟩ | ⟨front, line, rest, why, s', s'', hsplit, hfront, hrefuses⟩
    · have hresult : e.result none (linesOf e.output).length =
          ⟨e.exit?.getD killedCode, (linesOf e.output).length, false⟩ := by
        cases hexit : e.exit? <;> simp [Execution.result, hexit]
      refine .inl ⟨s', htakes, ?_⟩
      rw [htakes.run_supervise, hresult]
    · exact .inr ⟨front, line, rest, why, s', s'', hsplit, hfront, hrefuses,
        Refuses.run_supervise hsplit hfront hrefuses none⟩

end SnippetBench.Interpreter
