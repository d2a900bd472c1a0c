import SnippetBench.Proofs.Cli.Verbosity
import SnippetBench.Proofs.Interpreter.Availability
import Mathlib.Data.List.Nodup

/-!
# What is told about runtimes

The command that tells about the surroundings asks every configured runtime for its version. Those
that answer are reported with it, those that are absent with null (`exists_run_tellInfo_reports`).
The first one that escapes ends the command, and nothing is reported then
(`exists_run_tellInfo_escapes`).
-/

namespace SnippetBench.Cli

open Files (Tree)
open Interpreter (Answers Escapes Host IsAbsent Versions)
open Log (Level Record)

variable {w : World} {host : Host} {s : Session} {names done : List Text} {name : Text}
  {known : List (Text × Data)}

/-! ### Fields -/

section Fields

open Log.Record (setField)

variable {value : Data} {fields : List (Text × Data)}

theorem mem_of_mem_setField {entry : Text × Data} (h : entry ∈ setField name value fields) :
    entry = (name, value) ∨ entry ∈ fields := by
  induction fields with
  | nil => exact .inl (List.mem_singleton.1 h)
  | cons field fields ih =>
    obtain ⟨n, v⟩ := field
    rw [setField] at h
    split at h
    · rcases List.mem_cons.1 h with h | h
      · exact .inl h
      · exact .inr (.tail _ h)
    · rcases List.mem_cons.1 h with h | h
      · exact .inr (h ▸ .head _)
      · exact (ih h).imp_right (.tail _)

/-- Setting a field adds its name at the end, unless it is there. -/
theorem map_fst_setField : (setField name value fields).map Prod.fst =
    if name ∈ fields.map Prod.fst then fields.map Prod.fst else fields.map Prod.fst ++ [name] := by
  induction fields with
  | nil => rfl
  | cons field fields ih =>
    obtain ⟨n, v⟩ := field
    rw [setField]
    by_cases hn : n = name
    · simp [hn]
    · rw [if_neg hn, List.map_cons, ih]
      have hne : name ≠ n := Ne.symm hn
      by_cases hmem : name ∈ fields.map Prod.fst <;> simp [hmem, hne]

end Fields

/-! ### Reports -/

/-- A report on runtimes has one entry for each of them: its version if it answers, and null if it
is absent. -/
structure Reports (host : Host) (names : List Text) (entries : List (Text × Data)) : Prop where
  nodup : (entries.map Prod.fst).Nodup
  names : ∀ name, name ∈ entries.map Prod.fst ↔ name ∈ names
  value : ∀ entry ∈ entries, (∃ v, entry.2 = .text v ∧ Answers host entry.1 v) ∨
    (entry.2 = .null ∧ ∃ e, IsAbsent host entry.1 e)

theorem reports_nil : Reports host [] [] := by
  refine ⟨List.nodup_nil, fun name => Iff.rfl, fun entry hentry => ?_⟩
  exact absurd hentry List.not_mem_nil

theorem Reports.setField (h : Reports host done known) {value : Data}
    (hvalue : (∃ v, value = .text v ∧ Answers host name v) ∨
      (value = .null ∧ ∃ e, IsAbsent host name e)) :
    Reports host (done ++ [name]) (Record.setField name value known) := by
  refine ⟨?_, fun n => ?_, fun entry hentry => ?_⟩
  · rw [map_fst_setField]
    split
    · exact h.nodup
    case isFalse hnew => exact List.nodup_append.2 ⟨h.nodup, List.nodup_singleton _, by grind⟩
  · rw [map_fst_setField]
    split
    case isTrue hmem =>
      have hname : name ∈ done := (h.names name).1 hmem
      rw [h.names]
      simp only [List.mem_append, List.mem_singleton]
      refine ⟨.inl, ?_⟩
      rintro (hn | rfl)
      · exact hn
      · exact hname
    case isFalse => simp only [List.mem_append, List.mem_singleton, h.names]
  · rcases mem_of_mem_setField hentry with rfl | hentry
    · exact hvalue
    · exact h.value entry hentry

/-- The versions that are remembered are those that runtimes answer with. -/
def Remembers (host : Host) (versions : Versions) : Prop :=
  ∀ name v, versions.lookup name = some v → Answers host name v

theorem Remembers.cons {versions : Versions} (h : Remembers host versions) {v : Text}
    (hv : Answers host name v) : Remembers host ((name, v) :: versions) := by
  intro n u hu
  by_cases heq : n = name
  · subst heq
    simp only [List.lookup_cons_self, Option.some.injEq] at hu
    exact hu ▸ hv
  · exact h n u (by simpa [List.lookup_cons, beq_false_of_ne heq] using hu)

/-- Asking for a version, when it comes to the result that a runtime gives. -/
theorem run_version_of_probe (hlookup : s.versions.lookup name = none)
    {result : Except Interpreter.ProbeError Text}
    (hprobe : Interpreter.probe (w.host.among s.tree) name = result) :
    (Work.version w name).run.run s = (.ok result,
      { s with versions := (result.toOption.map (name, ·)).toList ++ s.versions }) := by
  rw [run_version, Interpreter.run_version, hlookup]
  dsimp only
  rw [hprobe]
  cases result <;> rfl

/-- A runtime that answers or is absent is reported, and the next one is asked. -/
theorem exists_versionsOf_cons (hversions : Remembers (w.host.among s.tree) s.versions)
    (hknown : Reports (w.host.among s.tree) done known)
    (hname : ∀ e, ¬ Escapes (w.host.among s.tree) name e) (names : List Text) :
    ∃ versions known', (versionsOf w (name :: names) known).run.run s =
        (versionsOf w names known').run.run { s with versions } ∧
      Remembers (w.host.among s.tree) versions ∧
      Reports (w.host.among s.tree) (done ++ [name]) known' := by
  rw [versionsOf]
  cases hlookup : s.versions.lookup name with
  | some v =>
    have hrun := run_version w name s
    rw [Interpreter.run_version, hlookup] at hrun
    rw [run_bind_ok hrun]
    exact ⟨s.versions, _, rfl, hversions, hknown.setField (.inl ⟨v, rfl, hversions name v hlookup⟩)⟩
  | none =>
    rcases Interpreter.answers_or_fails (w.host.among s.tree) name with
      ⟨v, hv⟩ | ⟨e, he⟩ | ⟨e, he⟩
    · rw [run_bind_ok (run_version_of_probe hlookup hv.probe_eq)]
      exact ⟨_, _, rfl, hversions.cons hv, hknown.setField (.inl ⟨v, rfl, hv⟩)⟩
    · rw [run_bind_ok (run_version_of_probe hlookup he.probe_eq)]
      dsimp only
      rw [if_pos he.isAbsence]
      exact ⟨_, _, rfl, hversions, hknown.setField (.inr ⟨rfl, e, he⟩)⟩
    · exact absurd he (hname e)

/-- Runtimes that answer or are absent are reported, and those behind them are asked. -/
theorem exists_versionsOf_append (hversions : Remembers (w.host.among s.tree) s.versions)
    (hknown : Reports (w.host.among s.tree) done known)
    (hnames : ∀ name ∈ names, ∀ e, ¬ Escapes (w.host.among s.tree) name e) (rest : List Text) :
    ∃ versions known', (versionsOf w (names ++ rest) known).run.run s =
        (versionsOf w rest known').run.run { s with versions } ∧
      Remembers (w.host.among s.tree) versions ∧
      Reports (w.host.among s.tree) (done ++ names) known' := by
  induction names generalizing s done known with
  | nil => exact ⟨s.versions, known, rfl, hversions, by rwa [List.append_nil]⟩
  | cons name names ih =>
    obtain ⟨versions, known', hfirst, hversions', hknown'⟩ :=
      exists_versionsOf_cons hversions hknown (hnames name (.head _)) (names ++ rest)
    obtain ⟨versions', known'', hrest, hremembers, hreports⟩ :=
      ih (s := { s with versions }) hversions' hknown' fun n hn => hnames n (.tail _ hn)
    refine ⟨versions', known'', hfirst.trans hrest, hremembers, ?_⟩
    rwa [List.append_assoc] at hreports

/-- Asking runtimes of which none escapes ends in a report on them. -/
theorem exists_versionsOf (hversions : s.versions = [])
    (hnames : ∀ name ∈ names, ∀ e, ¬ Escapes (w.host.among s.tree) name e) :
    ∃ versions entries, (versionsOf w names []).run.run s = (.ok entries, { s with versions }) ∧
      Reports (w.host.among s.tree) names entries := by
  have hnone : Remembers (w.host.among s.tree) s.versions := by
    intro name v hv
    rw [hversions] at hv
    cases hv
  obtain ⟨versions, entries, hrun, -, hreports⟩ :=
    exists_versionsOf_append hnone reports_nil hnames []
  rw [List.append_nil] at hrun
  exact ⟨versions, entries, hrun, hreports⟩

/-- Asking runtimes ends in trouble at the first that escapes. -/
theorem exists_versionsOf_escapes (hversions : s.versions = []) {before after : List Text}
    {e : Interpreter.ProbeError}
    (hbefore : ∀ n ∈ before, ∀ e, ¬ Escapes (w.host.among s.tree) n e)
    (hname : Escapes (w.host.among s.tree) name e) :
    ∃ versions, (versionsOf w (before ++ name :: after) []).run.run s =
      (.error (Trouble.ofProbe e), { s with versions }) := by
  have hnone : Remembers (w.host.among s.tree) s.versions := by
    intro n v hv
    rw [hversions] at hv
    cases hv
  obtain ⟨versions, known, hrun, hremembers, -⟩ :=
    exists_versionsOf_append hnone reports_nil hbefore (name :: after)
  have hlookup : versions.lookup name = none := by
    rw [Option.eq_none_iff_forall_ne_some]
    intro v hv
    exact (hremembers name v hv).not_escapes e hname
  have hversion : (Work.version w name).run.run { s with versions } =
      (.ok (.error e), { s with versions }) :=
    run_version_of_probe (s := { s with versions }) hlookup hname.probe_eq
  refine ⟨versions, hrun.trans ?_⟩
  rw [versionsOf, run_bind_ok hversion]
  dsimp only
  rw [hname.isAbsence]
  rfl

/-! ### The command -/

variable {common : CommonOptions} {config : Option Config.Configuration} {tree : Tree}

/-- The runtimes that are configured. -/
def configuredRuntimes (config : Option Config.Configuration) : List Text :=
  ((config.map Config.Configuration.bench).getD {}).runtimes

/-- The record about the surroundings and the runtimes. -/
def infoRecord (w : World) (common : CommonOptions) (entries : List (Text × Data)) : Record :=
  { level := .info, logger := commandLogger "info", message := "System information"
    details :=
      [("pybm_version", .text Script.version),
        ("python_version", .text w.surroundings.versionText),
        ("implementation", .text w.surroundings.implementation),
        ("platform", .text w.surroundings.platform),
        ("executable", .text w.surroundings.executable),
        ("runtimes", .map (entries.map fun (name, v) => (.text name, v))),
        ("config", (common.config.map Data.text).getD .null)] }

/-- What the command does when it has begun and the logger of the host is there. -/
def reportRuntimes (w : World) (common : CommonOptions) (runtimes : List Text) : Work ExitCode := do
  let versions ← versionsOf w runtimes []
  Work.tell w (infoRecord w common versions)
  return .success

/-- A command that has begun looks for the logger of the host, and asks the runtimes then. -/
theorem exists_run_tellInfo (h : GoesOn (prepare w common "info") { tree } config s) :
    ∃ registry, (tellInfo w common).run.run { tree } =
        (reportRuntimes w common (configuredRuntimes config)).run.run { s with registry } ∧
      Governed (levelOf common config) { s with registry } ∧
      Orderly [hostLogger, commandLogger "info"] { s with registry } := by
  obtain ⟨-, hs⟩ := settled_prepare (by decide +kernel) h
  have hlate : ∀ name ∈ [hostLogger], name ∈ lateLoggers := by decide +kernel
  obtain ⟨registry, hneed, hsteps, horderly⟩ := run_needLoggers w none hlate hs.orderly
  have hgoverned := (begun_of_goesOn .info h).2.governed.steps hs.orderly hsteps
  refine ⟨registry, ?_, hgoverned, horderly⟩
  have hlift : (liftM (reportRuntimes w common (configuredRuntimes config)) : Part ExitCode) = do
      let versions ← versionsOf w (configuredRuntimes config) []
      Work.tell w (infoRecord w common versions)
      return .success := by
    simp only [reportRuntimes, liftM_bind, liftM_pure]
  unfold tellInfo
  rw [h.run_finish, (goesOn_lift.2 hneed).run_finish,
    ← run_finish_liftM (reportRuntimes w common _), hlift]
  rfl

/-- A command that has begun tells about the configured runtimes if none of them escapes. -/
theorem exists_run_tellInfo_reports (h : GoesOn (prepare w common "info") { tree } config s)
    (hnames : ∀ name ∈ configuredRuntimes config, ∀ e, ¬ Escapes (w.host.among s.tree) name e) :
    ∃ entries targets registry versions,
      Reports (w.host.among s.tree) (configuredRuntimes config) entries ∧
      (targets ≠ [] ↔ (levelOf common config).severity ≤ Level.info.severity) ∧
      (tellInfo w common).run.run { tree } =
        (.ok .success, { s with registry, versions,
                                told := s.told ++ [(infoRecord w common entries, targets)] }) := by
  obtain ⟨-, hs⟩ := settled_prepare (by decide +kernel) h
  obtain ⟨registry, hrun, hgoverned, horderly⟩ := exists_run_tellInfo h
  have hlevel : threshold (levelOf common config) (commandLogger "info") = levelOf common config :=
    if_neg (by decide +kernel)
  have hquiet : commandLogger "info" ∈ quietLoggers := commandLogger_mem_quietLoggers .info
  obtain ⟨versions, entries, hreport, hreports⟩ :=
    exists_versionsOf (s := { s with registry }) hs.versions hnames
  obtain ⟨_, targets, rfl, htell, htargets⟩ :=
    exists_run_tell (s := { s with registry, versions }) (r := infoRecord w common entries)
      hgoverned.leveled horderly.tidy hquiet (horderly.there _ (.tail _ (.head _))) rfl w
  refine ⟨entries, targets, registry, versions, hreports, ?_, ?_⟩
  · rw [← hlevel]
    exact htargets
  · rw [hrun]
    unfold reportRuntimes
    rw [run_bind_ok hreport, run_bind_ok htell]
    rfl

/-- A command that has begun ends in trouble at the first configured runtime that escapes. -/
theorem exists_run_tellInfo_escapes (h : GoesOn (prepare w common "info") { tree } config s)
    {before after : List Text} {e : Interpreter.ProbeError}
    (hconfigured : configuredRuntimes config = before ++ name :: after)
    (hbefore : ∀ n ∈ before, ∀ e, ¬ Escapes (w.host.among s.tree) n e)
    (hname : Escapes (w.host.among s.tree) name e) :
    ∃ registry versions, (tellInfo w common).run.run { tree } =
      (.error (Trouble.ofProbe e), { s with registry, versions }) := by
  obtain ⟨-, hs⟩ := settled_prepare (by decide +kernel) h
  obtain ⟨registry, hrun, -⟩ := exists_run_tellInfo h
  have hversions : ({ s with registry } : Session).versions = [] := hs.versions
  obtain ⟨versions, hstop⟩ : ∃ versions,
      (versionsOf w (before ++ name :: after) []).run.run { s with registry } =
        (.error (Trouble.ofProbe e), { s with registry, versions }) :=
    exists_versionsOf_escapes hversions hbefore hname
  refine ⟨registry, versions, ?_⟩
  rw [hrun, hconfigured]
  unfold reportRuntimes
  rw [run_bind_error hstop]

/-- **What becomes of runtimes**: the search for an available one ends at the first that is not
absent, and gives the first that exits with zero exactly if none that escapes stands before it. A
report on the surroundings that has begun tells the version of every configured runtime, or null, if
none of them escapes; otherwise the first that does ends it, and nothing is told. -/
theorem runtimes_found_or_escaped (w : World) (common : CommonOptions) (tree : Tree) :
    (∀ host versions names result,
      ((Interpreter.firstAvailable host names).run.run versions).1 = result ↔
        Interpreter.Ends host versions names result) ∧
    (∀ host versions names,
      ((Interpreter.firstAvailable host names).run.run versions).1.map (·.chosen) =
          .ok (names.find? (Interpreter.exitsWithZero host versions)) ↔
        Interpreter.EscapeBehind host versions names) ∧
    ∀ config s, GoesOn (prepare w common "info") { tree } config s →
      ((∀ name ∈ configuredRuntimes config, ∀ e, ¬ Escapes (w.host.among s.tree) name e) →
        ∃ entries targets registry versions,
          Reports (w.host.among s.tree) (configuredRuntimes config) entries ∧
          (targets ≠ [] ↔ (levelOf common config).severity ≤ Level.info.severity) ∧
          (tellInfo w common).run.run { tree } =
            (.ok .success, { s with registry, versions,
                                    told := s.told ++ [(infoRecord w common entries, targets)] })) ∧
      ∀ before name after e, configuredRuntimes config = before ++ name :: after →
        (∀ n ∈ before, ∀ e, ¬ Escapes (w.host.among s.tree) n e) →
        Escapes (w.host.among s.tree) name e →
          ∃ registry versions, (tellInfo w common).run.run { tree } =
            (.error (Trouble.ofProbe e), { s with registry, versions }) :=
  ⟨fun _ _ _ _ => Interpreter.firstAvailable_eq_iff,
    fun host versions names => Interpreter.chosen_eq_find?_iff host versions names,
    fun _ _ h => ⟨exists_run_tellInfo_reports h,
      fun _ _ _ _ hconfigured => exists_run_tellInfo_escapes h hconfigured⟩⟩

/-- A world in which one of the runtimes is there and cannot be executed. -/
def barredWorld : World :=
  { talkingWorld with
    host := fun name =>
      if name = ("python3" : Text) then .error .notPermitted else talkingWorld.host name }

/-- A report on runtimes that all answer, and one that ends at the first runtime. -/
theorem runtimes_found_or_escaped_talking :
    (∃ config s, GoesOn (prepare talkingWorld {} "info") { tree := Tree.empty } config s ∧
      (∀ name ∈ configuredRuntimes config, ∀ e, ¬ Escapes (talkingWorld.host.among s.tree) name e) ∧
      ∃ entries targets registry versions,
        Reports (talkingWorld.host.among s.tree) (configuredRuntimes config) entries ∧
        (targets ≠ [] ↔ (levelOf {} config).severity ≤ Level.info.severity) ∧
        (tellInfo talkingWorld {}).run.run { tree := Tree.empty } =
          (.ok .success,
            { s with registry, versions,
                     told := s.told ++ [(infoRecord talkingWorld {} entries, targets)] })) ∧
    ∃ config s name after, GoesOn (prepare barredWorld {} "info") { tree := Tree.empty } config s ∧
      configuredRuntimes config = name :: after ∧
      Escapes (barredWorld.host.among s.tree) name (.system .notPermitted) ∧
      ∃ registry versions, (tellInfo barredWorld {}).run.run { tree := Tree.empty } =
        (.error (.system .notPermitted), { s with registry, versions }) := by
  constructor
  · obtain ⟨config, s, hbegin, hanswers⟩ : ∃ config s,
        GoesOn (prepare talkingWorld {} "info") { tree := Tree.empty } config s ∧
          ∀ name ∈ configuredRuntimes none,
            Interpreter.probe (talkingWorld.host.among s.tree) name = .ok "1.2.3" :=
      exists_goesOn (by decide +kernel) (by decide +kernel)
    obtain ⟨⟨-, rfl : config = none, -⟩, -⟩ := begun_of_goesOn .info hbegin
    have hnames : ∀ name ∈ configuredRuntimes none, ∀ e,
        ¬ Escapes (talkingWorld.host.among s.tree) name e :=
      fun name hname e => (Interpreter.probe_eq_ok_iff.1 (hanswers name hname)).not_escapes e
    exact ⟨none, s, hbegin, hnames,
      ((runtimes_found_or_escaped talkingWorld {} Tree.empty).2.2 none s hbegin).1 hnames⟩
  · obtain ⟨config, s, hbegin, hbarred⟩ : ∃ config s,
        GoesOn (prepare barredWorld {} "info") { tree := Tree.empty } config s ∧
          Interpreter.probe (barredWorld.host.among s.tree) "python3" =
            .error (.system .notPermitted) :=
      exists_goesOn (by decide +kernel) (by decide +kernel)
    obtain ⟨⟨-, rfl : config = none, -⟩, -⟩ := begun_of_goesOn .info hbegin
    have hescapes : Escapes (barredWorld.host.among s.tree) "python3" (.system .notPermitted) :=
      (Interpreter.probe_eq_error_iff.1 hbarred).resolve_left nofun
    exact ⟨none, s, "python3", _, hbegin, rfl, hescapes,
      ((runtimes_found_or_escaped barredWorld {} Tree.empty).2.2 none s hbegin).2 [] "python3" _ _
        rfl (fun _ hname => absurd hname List.not_mem_nil) hescapes⟩

/-- A runtime that cannot be executed ends the search although a later one exits with zero, and
nothing is reported about any runtime. -/
theorem firstAvailable_not_total :
    let names : List Text := ["python3", "python"]
    ((Interpreter.firstAvailable barredWorld.host names).run.run []).1 =
        .error (.system .notPermitted) ∧
      names.find? (Interpreter.exitsWithZero barredWorld.host []) = some "python" ∧
      (perform barredWorld Tree.empty ["info"]).ending = .error (.system .notPermitted) ∧
      ∀ entry ∈ (perform barredWorld Tree.empty ["info"]).session.told,
        entry.1.message ≠ ("System information" : Text) := by
  decide +kernel

end SnippetBench.Cli
