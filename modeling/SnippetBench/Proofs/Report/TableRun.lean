import SnippetBench.Report.Table
import Mathlib.Data.List.Basic
import Mathlib.Data.List.Induction

/-!
# The header of a table

A script sets the mode of its report and calls the report for its snippets, in any order and any
number of times. Every call prints one result, in the mode that is set then, and the header of the
table stands directly before the result of the first call in markdown mode and nowhere else
(`Table.run_prints`). The state of a report knows no more of the events before a call than that: the
mode that was set last, and whether a call was made in markdown mode (`Table.Reflects`). An event
keeps this (`Table.Reflects.step`), so it holds behind all events.
-/

namespace SnippetBench.Report

/-- What a script does with its report. -/
inductive Event
  /-- It sets whether the report is in markdown. -/
  | mode (markdown : Bool)
  /-- It reports on a snippet. -/
  | call (name : Text) (outcome : Outcome)
  deriving DecidableEq, Repr

/-- What a call prints: first the header of the table, if this call prints it, then the result. -/
structure Printed where
  header : Text
  result : Except DurationError Text
  deriving DecidableEq

namespace Table

/-- The state of a report after an event. -/
def step (t : Table) : Event → Table
  | .mode markdown => { t with markdown }
  | .call name outcome => (t.log name outcome).1

/-- What an event prints; setting the mode prints nothing. -/
def prints (t : Table) : Event → Option Printed
  | .mode _ => none
  | .call name outcome => some ⟨(t.log name outcome).2.1, (t.log name outcome).2.2⟩

/-- What the events of a run print, one by one. -/
def run (t : Table) : List Event → List (Option Printed)
  | [] => []
  | event :: events => t.prints event :: run (t.step event) events

end Table

/-! ### The events before a call -/

/-- The mode that an event sets, if it does. -/
def Event.mode? : Event → Option Bool
  | mode markdown => some markdown
  | call _ _ => none

/-- The mode behind events: that which was set last, and plain if none was. -/
def modeAfter (events : List Event) : Bool := (events.reverse.findSome? Event.mode?).getD false

/-- No call among the events was made in markdown mode. -/
def WithoutTable (events : List Event) : Prop :=
  ∀ before name outcome after, events = before ++ .call name outcome :: after →
    modeAfter before = false

/-- A call behind the events is the first one in markdown mode. -/
def OpensTable (events : List Event) : Prop := modeAfter events = true ∧ WithoutTable events

variable {events : List Event}

theorem modeAfter_concat (events : List Event) (event : Event) :
    modeAfter (events ++ [event]) = event.mode?.getD (modeAfter events) := by
  unfold modeAfter
  rw [List.reverse_append, List.reverse_singleton, List.singleton_append, List.findSome?_cons]
  cases event <;> rfl

theorem withoutTable_nil : WithoutTable [] := by
  intro before name outcome after h
  simp at h

theorem withoutTable_concat {event : Event} : WithoutTable (events ++ [event]) ↔
    WithoutTable events ∧
      ∀ name outcome, event = .call name outcome → modeAfter events = false := by
  constructor
  · intro h
    refine ⟨fun before name outcome after heq => ?_, fun name outcome heq => ?_⟩
    · exact h before name outcome (after ++ [event]) (by simp [heq])
    · exact h events name outcome [] (by rw [heq])
  · rintro ⟨hevents, hlast⟩ before name outcome after heq
    rcases List.eq_nil_or_concat' after with rfl | ⟨after, last, rfl⟩
    · obtain ⟨rfl, hsame⟩ := List.append_inj' heq rfl
      exact hlast name outcome (List.singleton_inj.mp hsame)
    · rw [← List.cons_append, ← List.append_assoc] at heq
      exact hevents before name outcome after (List.append_inj' heq rfl).1

/-- A mode that is never set is never the mode. -/
theorem modeAfter_eq_false (h : .mode true ∉ events) : modeAfter events = false := by
  unfold modeAfter
  cases hfound : events.reverse.findSome? Event.mode? with
  | none => rfl
  | some markdown =>
    obtain ⟨event, hmem, hmode⟩ := List.exists_of_findSome?_eq_some hfound
    cases event with
    | call name outcome => cases hmode
    | mode m =>
      cases m with
      | false => exact (Option.some.inj hmode).symm
      | true => exact absurd (List.mem_reverse.mp hmem) h

/-! ### What the state of a report knows -/

namespace Table

variable {t : Table}

/-- The state knows the mode behind the events, and whether the header is out. -/
structure Reflects (t : Table) (events : List Event) : Prop where
  mode : t.markdown = modeAfter events
  header : t.headerPrinted = false ↔ WithoutTable events

theorem reflects_nil : Reflects {} [] := ⟨rfl, fun _ => withoutTable_nil, fun _ => rfl⟩

theorem Reflects.step (h : Reflects t events) (event : Event) :
    Reflects (t.step event) (events ++ [event]) := by
  obtain ⟨hmode, hheader⟩ := h
  cases event with
  | mode markdown =>
    refine ⟨?_, ?_⟩
    · rw [modeAfter_concat]
      rfl
    · rw [withoutTable_concat, ← hheader]
      simp [Table.step]
  | call name outcome =>
    refine ⟨?_, ?_⟩
    · rw [modeAfter_concat]
      exact hmode
    · rw [withoutTable_concat, ← hheader, ← hmode]
      simp [Table.step, log]

/-- A run from the beginning leaves a state that knows what was done. -/
theorem reflects_foldl (events : List Event) : Reflects (events.foldl Table.step {}) events := by
  induction events using List.reverseRecOn with
  | nil => exact reflects_nil
  | append_singleton events event ih =>
    rw [List.foldl_concat]
    exact ih.step event

/-! ### What a run prints -/

theorem length_run (t : Table) (events : List Event) : (t.run events).length = events.length := by
  induction events generalizing t with
  | nil => rfl
  | cons event events ih => rw [run, List.length_cons, ih, List.length_cons]

/-- An event prints what it prints in the state behind the events before it. -/
theorem getElem?_run (t : Table) (before : List Event) (event : Event) (after : List Event) :
    (t.run (before ++ event :: after))[before.length]? =
      some ((before.foldl Table.step t).prints event) := by
  induction before generalizing t with
  | nil => rfl
  | cons first before ih => exact ih (t.step first)

/-- What is printed is printed by a call. -/
theorem exists_call_of_mem_run {printed : Printed} (h : some printed ∈ t.run events) :
    ∃ before name outcome after, events = before ++ .call name outcome :: after ∧
      (t.run events)[before.length]? = some (some printed) := by
  obtain ⟨i, hi, hprinted⟩ := List.mem_iff_getElem.mp h
  rw [length_run] at hi
  have hsplit : events = events.take i ++ events[i] :: events.drop (i + 1) := by simp
  have hlength : (events.take i).length = i := by rw [List.length_take]; omega
  have hat : (t.run events)[i]? = some (some printed) := by
    rw [← hprinted]
    exact List.getElem?_eq_getElem _
  have hrun := getElem?_run t (events.take i) events[i] (events.drop (i + 1))
  rw [← hsplit, hlength, hat] at hrun
  cases hevent : events[i] with
  | mode markdown =>
    rw [hevent] at hrun
    cases hrun
  | call name outcome =>
    rw [hevent] at hsplit
    exact ⟨_, name, outcome, _, hsplit, by rw [hlength, hat]⟩

/-- What a call prints is known from the events before it. -/
theorem Reflects.prints (h : Reflects t events) (name : Text) (outcome : Outcome) :
    ∃ printed, t.prints (.call name outcome) = some printed ∧
      printed.result = (formatOutcome name (modeAfter events) outcome).map (· ++ ['\n']) ∧
      (OpensTable events → printed.header = tableHeader ++ ['\n']) ∧
      (¬ OpensTable events → printed.header = []) := by
  refine ⟨_, rfl, ?_, fun hopens => ?_, fun hopens => ?_⟩
  · rw [← h.mode]
    rfl
  · have hmode : t.markdown = true := h.mode.trans hopens.1
    have hheader : t.headerPrinted = false := h.header.mpr hopens.2
    simp [log, hmode, hheader]
  · have hstate : ¬ (t.markdown = true ∧ t.headerPrinted = false) := by
      rwa [h.mode, h.header]
    simpa [log] using hstate

end Table

/-- Whether the numbers of an outcome can be printed. An error has none. -/
def Outcome.IsPrintable : Outcome → Prop
  | .stats s => (∃ mean, (Micros.whole s.mean).format = .ok mean) ∧
      ∃ std, (Micros.whole s.std).format = .ok std
  | .failure _ _ => True

/-- Whether a result can be printed does not depend on the mode. -/
theorem exists_formatOutcome {outcome : Outcome} (h : outcome.IsPrintable) (name : Text)
    (markdown : Bool) : ∃ line, formatOutcome name markdown outcome = .ok line := by
  cases outcome with
  | failure kind text => exact ⟨_, rfl⟩
  | stats s =>
    obtain ⟨⟨mean, hmean⟩, std, hstd⟩ := h
    rw [formatOutcome, spreadText, hstd, hmean]
    exact ⟨_, rfl⟩

/-- **The table of a report**: every call prints one result, in the mode that was set last, and
before that the header of the table exactly if no call before it was made in markdown mode and this
one is. A report that never gets into markdown mode has no header. -/
theorem Table.run_prints (events : List Event) :
    (Table.run {} events).length = events.length ∧
    (∀ before markdown after, events = before ++ .mode markdown :: after →
      (Table.run {} events)[before.length]? = some none) ∧
    (∀ before name outcome after, events = before ++ .call name outcome :: after →
      ∃ printed, (Table.run {} events)[before.length]? = some (some printed) ∧
        printed.result = (formatOutcome name (modeAfter before) outcome).map (· ++ ['\n']) ∧
        (outcome.IsPrintable → ∃ line, printed.result = .ok (line ++ ['\n'])) ∧
        (OpensTable before → printed.header = tableHeader ++ ['\n']) ∧
        (¬ OpensTable before → printed.header = [])) ∧
    (.mode true ∉ events →
      ∀ printed, some printed ∈ Table.run {} events → printed.header = []) := by
  have hcall : ∀ before name outcome after, events = before ++ .call name outcome :: after →
      ∃ printed, (Table.run {} events)[before.length]? = some (some printed) ∧
        printed.result = (formatOutcome name (modeAfter before) outcome).map (· ++ ['\n']) ∧
        (OpensTable before → printed.header = tableHeader ++ ['\n']) ∧
        (¬ OpensTable before → printed.header = []) := by
    rintro before name outcome after rfl
    rw [getElem?_run]
    obtain ⟨printed, hprinted, hrest⟩ := (reflects_foldl before).prints name outcome
    exact ⟨printed, congrArg some hprinted, hrest⟩
  refine ⟨length_run {} events, ?_, ?_, ?_⟩
  · rintro before markdown after rfl
    rw [getElem?_run]
    rfl
  · intro before name outcome after hevents
    obtain ⟨printed, hprinted, hresult, hheader⟩ := hcall before name outcome after hevents
    refine ⟨printed, hprinted, hresult, fun hprintable => ?_, hheader⟩
    obtain ⟨line, hline⟩ := exists_formatOutcome hprintable name (modeAfter before)
    rw [hresult, hline]
    exact ⟨line, rfl⟩
  · intro hplain printed hmem
    obtain ⟨before, name, outcome, after, hevents, hat⟩ := exists_call_of_mem_run hmem
    obtain ⟨printed', hat', -, -, hheader⟩ := hcall before name outcome after hevents
    obtain rfl : printed = printed' := by simpa [hat] using hat'
    refine hheader fun hopens => ?_
    have hbefore : .mode true ∉ before := fun hset => hplain (by simp [hevents, hset])
    exact Bool.noConfusion (hopens.1.symm.trans (modeAfter_eq_false hbefore))

theorem Table.run_prints_switched :
    OpensTable [.call "a" (.failure "E" "x"), .mode true] ∧
      ∃ printed, (Table.run {} ([.call "a" (.failure "E" "x"), .mode true] ++
          .call "b|c" (.stats ⟨1500, 2, 0⟩) :: [.mode false]))[2]? = some (some printed) ∧
        printed.header = tableHeader ++ ['\n'] ∧
        printed.result = .ok "| b\\|c | 1.50ms (std. 2μs o. 0%) |\n" := by
  have hopens : OpensTable [.call "a" (.failure "E" "x"), .mode true] :=
    ⟨rfl, (reflects_foldl _).header.mp rfl⟩
  obtain ⟨-, -, hcall, -⟩ := Table.run_prints ([.call "a" (.failure "E" "x"), .mode true] ++
    .call "b|c" (.stats ⟨1500, 2, 0⟩) :: [.mode false])
  obtain ⟨printed, hprinted, hresult, -, hheader, -⟩ := hcall _ _ _ _ rfl
  exact ⟨hopens, printed, hprinted, hheader hopens, hresult.trans (by decide +kernel)⟩

end SnippetBench.Report
