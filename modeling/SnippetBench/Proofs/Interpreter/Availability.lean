import SnippetBench.Proofs.Except
import SnippetBench.Proofs.Interpreter.Probe

/-!
# Runtimes that are available

A runtime that is asked for its version answers with it, is absent, or escapes: it cannot be started
for another reason than that nothing is there, or what it prints is no text (`probe_eq_ok_iff`,
`probe_eq_error_iff`). The search for the first available runtime looks past those that are absent.
It ends at the first that is not: with its name if it answers, and in an error if it escapes
(`firstAvailable_eq_iff`). So it gives the first runtime that exits with zero exactly if none that
escapes stands before it (`chosen_eq_find?_iff`).
-/

namespace SnippetBench.Interpreter

open Files (textOfBytes)

variable {host : Host} {name : Text} {names : List Text} {versions : Versions}

/-! ### Asking a runtime -/

/-- A runtime ends with exit code zero and prints texts that tell a version. -/
inductive Answers (host : Host) (name : Text) : Text → Prop
  | version {program : Runtime} {output errors : Text} (hprogram : host name = .ok program)
      (hexit : program.answer.exit? = some 0) (houtput : textOfBytes program.answer.output = .ok output)
      (herrors : textOfBytes program.answer.errors = .ok errors) :
      Answers host name (versionIn output errors)

/-- A runtime is not available, and an error says why. -/
inductive IsAbsent (host : Host) (name : Text) : ProbeError → Prop
  /-- Nothing is there. -/
  | missing (hhost : host name = .error .missing) : IsAbsent host name (.notFound name)
  /-- It does not end. -/
  | endless {program : Runtime} (hprogram : host name = .ok program)
      (hexit : program.answer.exit? = none) : IsAbsent host name (.endless name)
  /-- It ends with another exit code than zero. -/
  | exited {program : Runtime} {code : Int} {output errors : Text}
      (hprogram : host name = .ok program) (hexit : program.answer.exit? = some code)
      (hcode : code ≠ 0) (houtput : textOfBytes program.answer.output = .ok output)
      (herrors : textOfBytes program.answer.errors = .ok errors) :
      IsAbsent host name (.exited name code)

/-- Asking a runtime ends in an error that does not mean that the runtime is not available. -/
inductive Escapes (host : Host) (name : Text) : ProbeError → Prop
  /-- It cannot be started for another reason than that nothing is there. -/
  | system {f : Files.Failure} (hhost : host name = .error f) (hf : f ≠ .missing) :
      Escapes host name (.system f)
  /-- It ends, and what it prints on its output is no text. -/
  | output {program : Runtime} {code : Int} {m : Text.Utf8.Mistake}
      (hprogram : host name = .ok program) (hexit : program.answer.exit? = some code)
      (houtput : textOfBytes program.answer.output = .error m) : Escapes host name (.encoding m)
  /-- It ends, and what it prints on its error stream is no text. -/
  | errors {program : Runtime} {code : Int} {output : Text} {m : Text.Utf8.Mistake}
      (hprogram : host name = .ok program) (hexit : program.answer.exit? = some code)
      (houtput : textOfBytes program.answer.output = .ok output)
      (herrors : textOfBytes program.answer.errors = .error m) : Escapes host name (.encoding m)

theorem IsAbsent.isAbsence {e : ProbeError} (h : IsAbsent host name e) : e.isAbsence = true := by
  cases h <;> rfl

theorem Escapes.isAbsence {e : ProbeError} (h : Escapes host name e) : e.isAbsence = false := by
  cases h <;> rfl

/-- What asking a runtime that ends comes to. -/
theorem probe_of_exit {program : Runtime} {code : Int} (hprogram : host name = .ok program)
    (hexit : program.answer.exit? = some code) :
    probe host name = do
      let output ← (textOfBytes program.answer.output).mapError .encoding
      let errors ← (textOfBytes program.answer.errors).mapError .encoding
      if code ≠ 0 then throw (.exited name code)
      return versionIn output errors := by
  unfold probe
  rw [hprogram]
  dsimp only
  rw [hexit]

theorem Answers.probe_eq {v : Text} (h : Answers host name v) : probe host name = .ok v := by
  obtain ⟨hprogram, hexit, houtput, herrors⟩ := h
  rw [probe_of_exit hprogram hexit, houtput, herrors]
  rfl

theorem IsAbsent.probe_eq {e : ProbeError} (h : IsAbsent host name e) :
    probe host name = .error e := by
  cases h with
  | missing hhost =>
    unfold probe
    rw [hhost]
  | endless hprogram hexit =>
    unfold probe
    rw [hprogram]
    dsimp only
    rw [hexit]
  | exited hprogram hexit hcode houtput herrors =>
    rw [probe_of_exit hprogram hexit, houtput, herrors]
    simp only [mapError_ok, bind, Except.bind, if_pos hcode]
    rfl

theorem Escapes.probe_eq {e : ProbeError} (h : Escapes host name e) :
    probe host name = .error e := by
  cases h with
  | system hhost hf =>
    unfold probe
    rw [hhost]
    split
    case h_1 heq =>
      cases heq
      exact absurd rfl hf
    case h_2 heq =>
      cases heq
      rfl
    case h_3 heq => cases heq
  | output hprogram hexit houtput =>
    rw [probe_of_exit hprogram hexit, houtput]
    rfl
  | errors hprogram hexit houtput herrors =>
    rw [probe_of_exit hprogram hexit, houtput, herrors]
    rfl

/-- A runtime that is asked answers, is absent or escapes. -/
theorem answers_or_fails (host : Host) (name : Text) :
    (∃ v, Answers host name v) ∨ (∃ e, IsAbsent host name e) ∨ ∃ e, Escapes host name e := by
  cases hprogram : host name with
  | error f =>
    by_cases hf : f = .missing
    · subst hf
      exact .inr (.inl ⟨_, .missing hprogram⟩)
    · exact .inr (.inr ⟨_, .system hprogram hf⟩)
  | ok program =>
    cases hexit : program.answer.exit? with
    | none => exact .inr (.inl ⟨_, .endless hprogram hexit⟩)
    | some code =>
      cases houtput : textOfBytes program.answer.output with
      | error m => exact .inr (.inr ⟨_, .output hprogram hexit houtput⟩)
      | ok output =>
        cases herrors : textOfBytes program.answer.errors with
        | error m => exact .inr (.inr ⟨_, .errors hprogram hexit houtput herrors⟩)
        | ok errors =>
          by_cases hcode : code = 0
          · subst hcode
            exact .inl ⟨_, .version hprogram hexit houtput herrors⟩
          · exact .inr (.inl ⟨_, .exited hprogram hexit hcode houtput herrors⟩)

theorem probe_eq_ok_iff {v : Text} : probe host name = .ok v ↔ Answers host name v := by
  refine ⟨fun h => ?_, Answers.probe_eq⟩
  rcases answers_or_fails host name with ⟨u, hu⟩ | ⟨e, he⟩ | ⟨e, he⟩
  · rw [hu.probe_eq] at h
    cases h
    exact hu
  · rw [he.probe_eq] at h
    cases h
  · rw [he.probe_eq] at h
    cases h

theorem probe_eq_error_iff {e : ProbeError} :
    probe host name = .error e ↔ IsAbsent host name e ∨ Escapes host name e := by
  constructor
  · intro h
    rcases answers_or_fails host name with ⟨u, hu⟩ | ⟨e', he⟩ | ⟨e', he⟩
    · rw [hu.probe_eq] at h
      cases h
    · rw [he.probe_eq] at h
      cases h
      exact .inl he
    · rw [he.probe_eq] at h
      cases h
      exact .inr he
  · rintro (h | h)
    · exact h.probe_eq
    · exact h.probe_eq

theorem Answers.not_escapes {v : Text} (h : Answers host name v) (e : ProbeError) :
    ¬ Escapes host name e :=
  fun he => by cases h.probe_eq.symm.trans he.probe_eq

theorem IsAbsent.not_escapes {e : ProbeError} (h : IsAbsent host name e) (e' : ProbeError) :
    ¬ Escapes host name e' := by
  intro he
  cases h.probe_eq.symm.trans he.probe_eq
  cases h.isAbsence.symm.trans he.isAbsence

/-! ### The first available runtime -/

/-- A runtime is usable: its version is remembered, or it answers. -/
def IsUsable (host : Host) (versions : Versions) (name : Text) : Prop :=
  (versions.lookup name).isSome ∨ ∃ v, Answers host name v

/-- A runtime is looked past: no version of it is remembered, and it is absent. -/
def IsSkipped (host : Host) (versions : Versions) (name : Text) : Prop :=
  versions.lookup name = none ∧ ∃ e, IsAbsent host name e

/-- A runtime stops the search: no version of it is remembered, and it escapes. -/
def Stops (host : Host) (versions : Versions) (name : Text) (e : ProbeError) : Prop :=
  versions.lookup name = none ∧ Escapes host name e

theorem usable_skipped_or_stops (host : Host) (versions : Versions) (name : Text) :
    IsUsable host versions name ∨ IsSkipped host versions name ∨
      ∃ e, Stops host versions name e := by
  cases hlookup : versions.lookup name with
  | some v => exact .inl (.inl (by rw [hlookup]; rfl))
  | none =>
    rcases answers_or_fails host name with hanswers | habsent | ⟨e, he⟩
    · exact .inl (.inr hanswers)
    · exact .inr (.inl ⟨hlookup, habsent⟩)
    · exact .inr (.inr ⟨e, hlookup, he⟩)

theorem IsUsable.not_stops {e : ProbeError} (h : IsUsable host versions name) :
    ¬ Stops host versions name e := by
  rintro ⟨hlookup, he⟩
  rcases h with hknown | ⟨v, hv⟩
  · rw [hlookup] at hknown
    cases hknown
  · exact hv.not_escapes e he

theorem IsSkipped.not_stops {e : ProbeError} (h : IsSkipped host versions name) :
    ¬ Stops host versions name e := by
  rintro ⟨-, he⟩
  obtain ⟨-, e', he'⟩ := h
  exact he'.not_escapes e he

section Step

variable (names)

/-- The search asks the first runtime, and goes on with those behind it if that one is absent. -/
theorem run_firstAvailable_cons {e : ProbeError} {versions' : Versions}
    (h : (version host name).run.run versions = (.error e, versions')) :
    ((firstAvailable host (name :: names)).run.run versions).1 =
      if e.isAbsence then
        ((firstAvailable host names).run.run versions').1.map fun s =>
          { s with skipped := name :: s.skipped }
      else .error e := by
  rw [firstAvailable, ExceptT.run_mk, StateT.run_bind, h]
  cases habsence : e.isAbsence with
  | true =>
    simp only [bind, habsence, if_true]
    rfl
  | false =>
    simp only [bind, habsence, Bool.false_eq_true, if_false]
    rfl

theorem run_firstAvailable_usable (h : IsUsable host versions name) :
    ((firstAvailable host (name :: names)).run.run versions).1 = .ok ⟨[], some name⟩ := by
  have hrun := run_version host name versions
  rw [firstAvailable, ExceptT.run_mk, StateT.run_bind]
  cases hlookup : versions.lookup name with
  | some v =>
    rw [hlookup] at hrun
    rw [hrun]
    rfl
  | none =>
    obtain ⟨v, hv⟩ : ∃ v, Answers host name v := h.resolve_left (by simp [hlookup])
    rw [hlookup, hv.probe_eq] at hrun
    rw [hrun]
    rfl

theorem run_firstAvailable_skipped (h : IsSkipped host versions name) :
    ((firstAvailable host (name :: names)).run.run versions).1 =
      ((firstAvailable host names).run.run versions).1.map fun s =>
        { s with skipped := name :: s.skipped } := by
  obtain ⟨hlookup, e, he⟩ := h
  have hrun := run_version host name versions
  rw [hlookup, he.probe_eq] at hrun
  rw [run_firstAvailable_cons names hrun, if_pos he.isAbsence]

theorem run_firstAvailable_stops {e : ProbeError} (h : Stops host versions name e) :
    ((firstAvailable host (name :: names)).run.run versions).1 = .error e := by
  obtain ⟨hlookup, he⟩ := h
  have hrun := run_version host name versions
  rw [hlookup, he.probe_eq] at hrun
  rw [run_firstAvailable_cons names hrun, he.isAbsence]
  rfl

end Step

/-- How the search for the first available runtime ends. -/
inductive Ends (host : Host) (versions : Versions) (names : List Text) :
    Except ProbeError Selection → Prop
  /-- All runtimes are looked past. -/
  | unavailable (h : ∀ n ∈ names, IsSkipped host versions n) :
      Ends host versions names (.ok ⟨names, none⟩)
  /-- A runtime is usable, and those before it are looked past. -/
  | found {before after : List Text} {name : Text} (hnames : names = before ++ name :: after)
      (hbefore : ∀ n ∈ before, IsSkipped host versions n) (hname : IsUsable host versions name) :
      Ends host versions names (.ok ⟨before, some name⟩)
  /-- A runtime escapes, and those before it are looked past. -/
  | stopped {before after : List Text} {name : Text} {e : ProbeError}
      (hnames : names = before ++ name :: after) (hbefore : ∀ n ∈ before, IsSkipped host versions n)
      (hname : Stops host versions name e) : Ends host versions names (.error e)

/-- A runtime that is looked past comes before those that follow. -/
theorem Ends.cons {result : Except ProbeError Selection} (hname : IsSkipped host versions name)
    (h : Ends host versions names result) :
    Ends host versions (name :: names)
      (result.map fun s => { s with skipped := name :: s.skipped }) := by
  have hcons {before : List Text} (hbefore : ∀ n ∈ before, IsSkipped host versions n) :
      ∀ n ∈ name :: before, IsSkipped host versions n := by
    intro n hn
    rcases List.mem_cons.1 hn with rfl | hn
    · exact hname
    · exact hbefore n hn
  cases h with
  | unavailable h => exact .unavailable (hcons h)
  | found hnames hbefore husable =>
    subst hnames
    exact .found rfl (hcons hbefore) husable
  | stopped hnames hbefore hstops =>
    subst hnames
    exact .stopped (List.cons_append ..).symm (hcons hbefore) hstops

theorem ends_firstAvailable (host : Host) (versions : Versions) (names : List Text) :
    Ends host versions names ((firstAvailable host names).run.run versions).1 := by
  induction names with
  | nil => exact .unavailable fun n hn => absurd hn List.not_mem_nil
  | cons name names ih =>
    rcases usable_skipped_or_stops host versions name with h | h | ⟨e, h⟩
    · rw [run_firstAvailable_usable names h]
      exact .found (List.nil_append _).symm (fun n hn => absurd hn List.not_mem_nil) h
    · rw [run_firstAvailable_skipped names h]
      exact ih.cons h
    · rw [run_firstAvailable_stops names h]
      exact .stopped (List.nil_append _).symm (fun n hn => absurd hn List.not_mem_nil) h

/-- Runtimes that are looked past are put before what the search comes to behind them. -/
theorem run_firstAvailable_append {before : List Text}
    (hbefore : ∀ n ∈ before, IsSkipped host versions n) (rest : List Text) :
    ((firstAvailable host (before ++ rest)).run.run versions).1 =
      ((firstAvailable host rest).run.run versions).1.map fun s =>
        { s with skipped := before ++ s.skipped } := by
  induction before with
  | nil =>
    rw [List.nil_append]
    rcases ((firstAvailable host rest).run.run versions).1 with e | s <;> rfl
  | cons n before ih =>
    rw [List.cons_append, run_firstAvailable_skipped _ (hbefore n (.head _)),
      ih fun m hm => hbefore m (.tail _ hm)]
    rcases ((firstAvailable host rest).run.run versions).1 with e | s <;> rfl

theorem Ends.eq {result : Except ProbeError Selection} (h : Ends host versions names result) :
    ((firstAvailable host names).run.run versions).1 = result := by
  cases h with
  | unavailable h =>
    have hrun := run_firstAvailable_append h []
    have hnil : ((firstAvailable host []).run.run versions).1 = .ok ⟨[], none⟩ := rfl
    rw [List.append_nil, hnil] at hrun
    simpa [Except.map] using hrun
  | found hnames hbefore husable =>
    rw [hnames, run_firstAvailable_append hbefore, run_firstAvailable_usable _ husable]
    simp [Except.map]
  | stopped hnames hbefore hstops =>
    rw [hnames, run_firstAvailable_append hbefore, run_firstAvailable_stops _ hstops]
    rfl

theorem firstAvailable_eq_iff {result : Except ProbeError Selection} :
    ((firstAvailable host names).run.run versions).1 = result ↔
      Ends host versions names result := by
  refine ⟨?_, Ends.eq⟩
  rintro rfl
  exact ends_firstAvailable host versions names

/-! ### Runtimes that exit with zero -/

/-- A runtime counts as available: its version is remembered, or it exits with zero when it is
asked. -/
def exitsWithZero (host : Host) (versions : Versions) (name : Text) : Bool :=
  (versions.lookup name).isSome ||
    match host name with
    | .ok program => program.answer.exit? = some 0
    | .error _ => false

theorem IsUsable.exitsWithZero (h : IsUsable host versions name) :
    exitsWithZero host versions name = true := by
  unfold Interpreter.exitsWithZero
  rcases h with hknown | ⟨v, ⟨hprogram, hexit, -, -⟩⟩
  · rw [hknown, Bool.true_or]
  · rw [hprogram]
    simp [hexit]

theorem IsSkipped.not_exitsWithZero (h : IsSkipped host versions name) :
    exitsWithZero host versions name = false := by
  obtain ⟨hlookup, e, he⟩ := h
  unfold Interpreter.exitsWithZero
  rw [hlookup]
  cases he with
  | missing hhost => simp [hhost]
  | endless hprogram hexit => simp [hprogram, hexit]
  | exited hprogram hexit hcode houtput herrors => simp [hprogram, hexit, hcode]

/-- In the order of a list, every runtime that escapes has one before it that exits with zero. -/
def EscapeBehind (host : Host) (versions : Versions) (names : List Text) : Prop :=
  ∀ before name after e, names = before ++ name :: after → Stops host versions name e →
    ∃ n ∈ before, exitsWithZero host versions n = true

theorem mem_before_of_split {before after before' after' : List Text} {n : Text}
    (h : before ++ name :: after = before' ++ n :: after') (hn : n ∉ before) (hne : n ≠ name) :
    name ∈ before' := by
  rcases List.append_eq_append_iff.1 h with ⟨mid, hbefore', hmid⟩ | ⟨mid, hbefore, hmid⟩
  · cases mid with
    | nil =>
      cases hmid
      exact absurd rfl hne
    | cons m mid =>
      cases hmid
      simp [hbefore']
  · cases mid with
    | nil =>
      cases hmid
      exact absurd rfl hne
    | cons m mid =>
      cases hmid
      exact absurd (by simp [hbefore]) hn

/-- The search gives the first runtime that exits with zero, or none if there is none, exactly if
no runtime that escapes stands before it. -/
theorem chosen_eq_find?_iff (host : Host) (versions : Versions) (names : List Text) :
    ((firstAvailable host names).run.run versions).1.map (·.chosen) =
        .ok (names.find? (exitsWithZero host versions)) ↔ EscapeBehind host versions names := by
  have hends := ends_firstAvailable host versions names
  generalize ((firstAvailable host names).run.run versions).1 = result at hends
  cases hends with
  | unavailable h =>
    have hfind : names.find? (exitsWithZero host versions) = none :=
      List.find?_eq_none.2 fun n hn => by simp [(h n hn).not_exitsWithZero]
    rw [hfind]
    refine iff_of_true rfl fun before name after e hsplit hstops => ?_
    exact absurd hstops (h name (by simp [hsplit])).not_stops
  | found hnames hbefore husable =>
    subst hnames
    rename_i before after name
    have hfind : (before ++ name :: after).find? (exitsWithZero host versions) = some name := by
      rw [List.find?_eq_some_iff_append]
      exact ⟨husable.exitsWithZero, before, after, rfl,
        fun n hn => by simp [(hbefore n hn).not_exitsWithZero]⟩
    rw [hfind]
    refine iff_of_true rfl fun before' n after' e hsplit hstops => ?_
    refine ⟨name, mem_before_of_split hsplit (fun hn => ?_) ?_, husable.exitsWithZero⟩
    · exact (hbefore n hn).not_stops hstops
    · rintro rfl
      exact husable.not_stops hstops
  | stopped hnames hbefore hstops =>
    refine iff_of_false nofun fun h => ?_
    obtain ⟨n, hn, hzero⟩ := h _ _ _ _ hnames hstops
    rw [(hbefore n hn).not_exitsWithZero] at hzero
    cases hzero

end SnippetBench.Interpreter
