import Mathlib.Data.List.Induction
import SnippetBench.Proofs.Log.Holdings

/-!
# Runs of calls

Loggers are set up and their levels changed by calls, in any order and with any names and levels. A
call whose level is unknown fails and changes no holding (`Call.run_of_unknown`). Any other call gives
its level to the names that it covers, as far as they have handlers then, and leaves the holdings of
the others (`Call.holding_run`). So after any calls every holding is consistent, and a name has the
level of the last call that covers it. The root is the exception: a change of levels passes it by.
-/

namespace SnippetBench.Log

open Files (Path Tree)

variable {name : Text} {level : Level}

/-! ### Consistent holdings -/

/-- Whether a record is written to a file. -/
def Target.isFile : Target → Bool
  | .file _ => true
  | _ => false

namespace Holding

/-- A holding with at most one handler for the error stream and at most one for a file, all of them
at the level of the logger. -/
structure IsConsistent (h : Holding) : Prop where
  errors : h.handlers.countP (·.target = .errors) ≤ 1
  files : h.handlers.countP (·.target.isFile) ≤ 1
  levels : ∀ handler ∈ h.handlers, h.level = some handler.level

theorem isConsistent_of_nil {h : Holding} (hnone : h.handlers = []) : h.IsConsistent := by
  refine ⟨?_, ?_, ?_⟩ <;> simp [hnone]

theorem isConsistent_of_targetsOf {h : Holding} (file : Option Path)
    (hlevel : h.level = some level)
    (hhandlers : h.handlers = (Registry.targetsOf file).map (⟨·, level⟩)) : h.IsConsistent := by
  refine ⟨?_, ?_, ?_⟩
  · cases file <;> simp [hhandlers, Registry.targetsOf]
  · cases file <;> simp [hhandlers, Registry.targetsOf, Target.isFile]
  · simp [hhandlers, hlevel]

theorem IsConsistent.relevel {h : Holding} (hc : h.IsConsistent) (level : Level) :
    (h.relevel level).IsConsistent where
  errors := by simpa [Holding.relevel, List.countP_map, Function.comp_def] using hc.errors
  files := by simpa [Holding.relevel, List.countP_map, Function.comp_def] using hc.files
  levels := by simp [Holding.relevel]

theorem IsConsistent.raise {h : Holding} (hc : h.IsConsistent) (level : Level) :
    (h.raise level).IsConsistent := by
  unfold Holding.raise
  split
  · exact hc
  · exact hc.relevel level

theorem IsConsistent.setUp {h : Holding} (hc : h.IsConsistent) (level : Level) (file : Option Path)
    (opening : Except Files.Failure Unit) : (h.setUp level file opening).IsConsistent := by
  unfold Holding.setUp
  split
  · split
    · exact isConsistent_of_targetsOf file rfl rfl
    · exact isConsistent_of_targetsOf none rfl rfl
  · exact hc.relevel level

theorem level_setUp (level : Level) (file : Option Path) (opening : Except Files.Failure Unit)
    (h : Holding) : (h.setUp level file opening).level = some level := by
  unfold setUp
  split
  · split <;> rfl
  · rfl

theorem level_raise {h : Holding} (level : Level) (hsome : h.handlers ≠ []) :
    (h.raise level).level = some level := by
  unfold raise
  rw [if_neg (by simpa using hsome)]
  rfl

end Holding

/-! ### Calls -/

/-- A call that sets a logger up, or one that changes the levels at and below a name. -/
inductive Call
  | setUp (name levelName : Text) (file : Option Path)
  | setLevels (above levelName : Text)
  deriving DecidableEq, Repr

namespace Call

/-- How a call ends, and the loggers and the files then. -/
def run : Call → Registry × Tree → Except SetUpError Unit × Registry × Tree
  | setUp name levelName file, state => (Registry.setUp name levelName file).run.run state
  | setLevels above levelName, (reg, tree) =>
    match reg.setLevels above levelName with
    | .ok reg' => (.ok (), reg', tree)
    | .error e => (.error e, reg, tree)

/-- The loggers and the files after some calls, whatever they end in. -/
def runAll (calls : List Call) (state : Registry × Tree) : Registry × Tree :=
  calls.foldl (fun state call => (call.run state).2) state

/-- The name of the level of a call, as it is looked up and reported. -/
def levelName : Call → Text
  | setUp _ levelName _ => levelName
  | setLevels _ levelName => Text.upper levelName

/-- The level of a call, if it is known. -/
def level? (call : Call) : Option Level := Level.read? call.levelName

/-- Whether a call is about a name. -/
def covers (name : Text) : Call → Bool
  | setUp n _ _ => keptName name = keptName n
  | setLevels above _ => Registry.isUnder above name

/-- Whether a call gives handlers to a name. -/
def equips (name : Text) (call : Call) : Bool :=
  match call with
  | setUp _ _ _ => call.covers name && call.level?.isSome
  | setLevels _ _ => false

/-- The level of the last call that covers a name and has a known level. -/
def lastLevel? (calls : List Call) (name : Text) : Option Level :=
  calls.reverse.findSome? fun call => if call.covers name then call.level? else none

theorem runAll_concat (calls : List Call) (call : Call) (state : Registry × Tree) :
    runAll (calls ++ [call]) state = (call.run (runAll calls state)).2 := by
  simp [runAll]

theorem lastLevel?_concat (calls : List Call) (call : Call) (name : Text) :
    lastLevel? (calls ++ [call]) name =
      ((if call.covers name then call.level? else none).or (lastLevel? calls name)) := by
  simp [lastLevel?, List.findSome?_cons]
  split <;> simp_all

variable {call : Call} {reg : Registry}

/-- A call whose level is unknown fails, and changes no holding and no file. -/
theorem run_of_unknown (h : call.level? = none) (reg : Registry) (tree : Tree) :
    ∃ reg', call.run (reg, tree) = (.error (.unknownLevel call.levelName), reg', tree) ∧
      ∀ name, reg'.holding name = reg.holding name := by
  cases call with
  | setUp n levelName file =>
    exact ⟨_, Registry.run_setUp_unknown h n file reg tree, fun name => Registry.holding_make _ _⟩
  | setLevels above levelName =>
    refine ⟨reg, ?_, fun _ => rfl⟩
    have hnone : Level.read? (Text.upper levelName) = none := h
    simp [run, Registry.setLevels, hnone, Call.levelName]

/-- A call that sets a logger up at a known level ends as opening its file does, which is left out if
there are handlers, and the holding of its name changes. -/
theorem run_setUp {n levelName : Text} {file : Option Path}
    (h : (setUp n levelName file).level? = some level) (reg : Registry) (tree : Tree) :
    let opens := if (reg.holding n).handlers.isEmpty then file else none
    ∃ reg', (setUp n levelName file).run (reg, tree) =
        ((Registry.opened opens tree).1.mapError .system, reg', (Registry.opened opens tree).2) ∧
      ∀ name, reg'.holding name =
        if keptName name = keptName n then
          (reg.holding name).setUp level file (Registry.opened opens tree).1
        else reg.holding name :=
  have hlevel : Level.read? levelName = some level := h
  Registry.exists_setUp_holding hlevel n file reg tree

/-- A call that changes levels succeeds when the level is known, and the holdings of the names that
are reached are raised. -/
theorem run_setLevels {above levelName : Text}
    (h : (setLevels above levelName).level? = some level) (reg : Registry) (tree : Tree) :
    ∃ reg', (setLevels above levelName).run (reg, tree) = (.ok (), reg', tree) ∧
      ∀ name, reg'.holding name =
        if reg.Reaches above name then (reg.holding name).raise level else reg.holding name := by
  have hlevel : Level.read? (Text.upper levelName) = some level := h
  obtain ⟨reg', hset⟩ := Registry.exists_setLevels_ok hlevel above reg
  refine ⟨reg', ?_, Registry.holding_setLevels hlevel hset⟩
  simp [run, hset]

/-- A name other than that of the root is reached exactly if it is below, as far as it matters. -/
theorem raise_of_reaches {above : Text} (hroot : keptName name ≠ rootName) (level : Level) :
    (if reg.Reaches above name then (reg.holding name).raise level else reg.holding name) =
      if Registry.isUnder above name then (reg.holding name).raise level else reg.holding name := by
  cases hfind : reg.find? name with
  | some l => simp only [Registry.reaches_iff hroot (by rw [hfind]; rfl)]
  | none =>
    have hnothing : (reg.holding name).raise level = reg.holding name := by
      simp [Registry.holding, hfind, Holding.raise]
    rw [hnothing, ite_self, ite_self]

/-! ### One call -/

theorem isConsistent_run (call : Call) (reg : Registry) (tree : Tree)
    (h : (reg.holding name).IsConsistent) :
    ((call.run (reg, tree)).2.1.holding name).IsConsistent := by
  cases hlevel : call.level? with
  | none =>
    obtain ⟨reg', hrun, hsame⟩ := run_of_unknown hlevel reg tree
    rw [hrun, hsame]
    exact h
  | some level =>
    cases call with
    | setUp n levelName file =>
      obtain ⟨reg', hrun, hholding⟩ := run_setUp hlevel reg tree
      rw [hrun, hholding]
      split
      · exact h.setUp _ _ _
      · exact h
    | setLevels above levelName =>
      obtain ⟨reg', hrun, hholding⟩ := run_setLevels hlevel reg tree
      rw [hrun, hholding]
      split
      · exact h.raise level
      · exact h

/-- **One call** whose level is known, and a name other than that of the root: a name that is not
covered holds what it held, one that is covered has the level if it has handlers then, and
handlers come from setting loggers up only. -/
theorem holding_run (hroot : keptName name ≠ rootName) (hlevel : call.level? = some level)
    (reg : Registry) (tree : Tree) :
    let reg' := (call.run (reg, tree)).2.1
    (call.covers name = false → reg'.holding name = reg.holding name) ∧
      (call.covers name = true → (reg'.holding name).handlers ≠ [] →
        (reg'.holding name).level = some level) ∧
      ((reg'.holding name).handlers ≠ [] ↔
        (reg.holding name).handlers ≠ [] ∨ call.equips name = true) := by
  cases call with
  | setUp n levelName file =>
    obtain ⟨reg', hrun, hholding⟩ := run_setUp hlevel reg tree
    have hequips : equips name (setUp n levelName file) = covers name (setUp n levelName file) := by
      simp [equips, hlevel]
    rw [hrun, hequips]
    dsimp only
    rw [hholding]
    by_cases hname : keptName name = keptName n
    · simp [covers, hname, Holding.level_setUp, Holding.handlers_setUp_ne_nil]
    · simp [covers, hname]
  | setLevels above levelName =>
    obtain ⟨reg', hrun, hholding⟩ := run_setLevels hlevel reg tree
    rw [hrun]
    dsimp only
    rw [hholding, raise_of_reaches hroot]
    by_cases hunder : Registry.isUnder above name
    · simp +contextual [covers, equips, hunder, Holding.level_raise]
    · simp [covers, hunder, equips]

/-! ### Any calls -/

theorem handlers_holding_empty (name : Text) : (({} : Registry).holding name).handlers = [] := by
  unfold Registry.holding Registry.find?
  split <;> rfl

theorem isConsistent_runAll (calls : List Call) (tree : Tree) (name : Text) :
    ((runAll calls ({}, tree)).1.holding name).IsConsistent := by
  induction calls using List.reverseRecOn with
  | nil => exact Holding.isConsistent_of_nil (handlers_holding_empty name)
  | append_singleton calls call ih =>
    rw [runAll_concat]
    exact isConsistent_run call _ _ ih

/-- After any calls, the names other than that of the root that have handlers are those that loggers
have been set up for, and their levels are those of the last calls that cover them. -/
theorem holding_runAll (calls : List Call) (tree : Tree) (hroot : keptName name ≠ rootName) :
    let h := (runAll calls ({}, tree)).1.holding name
    (h.handlers ≠ [] ↔ ∃ call ∈ calls, call.equips name = true) ∧
      (h.handlers ≠ [] → h.level = lastLevel? calls name) := by
  induction calls using List.reverseRecOn with
  | nil =>
    have hnone := handlers_holding_empty name
    simp [runAll, hnone]
  | append_singleton calls call ih =>
    obtain ⟨ihsome, ihlevel⟩ := ih
    rw [runAll_concat, lastLevel?_concat]
    cases hlevel : call.level? with
    | none =>
      obtain ⟨reg', hrun, hsame⟩ :=
        run_of_unknown hlevel (runAll calls ({}, tree)).1 (runAll calls ({}, tree)).2
      have hequips : call.equips name = false := by
        cases call <;> simp [equips, hlevel]
      rw [hrun]
      dsimp only
      rw [hsame]
      refine ⟨ihsome.trans ?_, fun hsome => (ihlevel hsome).trans ?_⟩
      · simp [or_and_right, exists_or, hequips]
      · simp
    | some level =>
      obtain ⟨hother, hgiven, hsome⟩ :=
        holding_run hroot hlevel (runAll calls ({}, tree)).1 (runAll calls ({}, tree)).2
      refine ⟨hsome.trans ?_, fun hhandlers => ?_⟩
      · rw [ihsome]
        simp [or_and_right, exists_or]
      · cases hcovers : call.covers name with
        | true => exact (hgiven hcovers hhandlers).trans (by simp)
        | false =>
          rw [hother hcovers] at hhandlers ⊢
          exact (ihlevel hhandlers).trans (by simp)

end Call

/-! ### Consistency -/

/-- **After any calls** on loggers that are not there yet, with any names and levels, and for any
files: every holding is consistent; one more call whose level is unknown fails and changes none of
them; one more call that changes levels to a known one succeeds and, the root apart, changes those
with handlers at and below its name, and no other; and the names that have handlers are those that
loggers have been set up for, at the level of the last call that covers the name. -/
theorem calls_keep_consistent (calls : List Call) (tree : Tree) :
    let state := Call.runAll calls ({}, tree)
    (∀ name, (state.1.holding name).IsConsistent) ∧
    (∀ call : Call, call.level? = none → ∃ reg',
      call.run state = (.error (.unknownLevel call.levelName), reg', state.2) ∧
      ∀ name, reg'.holding name = state.1.holding name) ∧
    (∀ above levelName level, Level.read? (Text.upper levelName) = some level → ∃ reg',
      (Call.setLevels above levelName).run state = (.ok (), reg', state.2) ∧
      ∀ name, keptName name ≠ rootName → reg'.holding name =
        if Registry.isUnder above name then (state.1.holding name).raise level
        else state.1.holding name) ∧
    ∀ name, keptName name ≠ rootName →
      ((state.1.holding name).handlers ≠ [] ↔ ∃ call ∈ calls, call.equips name = true) ∧
      ((state.1.holding name).handlers ≠ [] →
        (state.1.holding name).level = Call.lastLevel? calls name) := by
  intro state
  refine ⟨Call.isConsistent_runAll calls tree, fun call hlevel => Call.run_of_unknown hlevel _ _, ?_,
    fun name hroot => Call.holding_runAll calls tree hroot⟩
  intro above levelName level hlevel
  have hcall : (Call.setLevels above levelName).level? = some level := hlevel
  obtain ⟨reg', hrun, hholding⟩ := Call.run_setLevels hcall state.1 state.2
  exact ⟨reg', hrun, fun name hroot => (hholding name).trans (Call.raise_of_reaches hroot level)⟩

/-- A name that only begins like another one keeps its level, and a level that is unknown counts for
nothing. -/
theorem calls_keep_consistent_neighbours :
    let calls : List Call := [.setUp "pybm.cli" "info" none, .setUp "pybmx" "warning" none,
      .setLevels "pybm" "debug", .setUp "pybm.cli" "loud" none]
    let reg := (Call.runAll calls ({}, Tree.empty)).1
    (reg.holding "pybm.cli").level = some .debug ∧ (reg.holding "pybmx").level = some .warning := by
  intro calls reg
  have hcli : keptName "pybm.cli" ≠ rootName := by decide
  have hx : keptName "pybmx" ≠ rootName := by decide
  obtain ⟨hsome, hlast⟩ := (calls_keep_consistent calls Tree.empty).2.2.2 "pybm.cli" hcli
  obtain ⟨hsomex, hlastx⟩ := (calls_keep_consistent calls Tree.empty).2.2.2 "pybmx" hx
  refine ⟨(hlast (hsome.2 ⟨_, .head _, ?_⟩)).trans ?_,
    (hlastx (hsomex.2 ⟨_, .tail _ (.head _), ?_⟩)).trans ?_⟩
  all_goals decide +kernel

/-- The root keeps its level when the levels at and below its name are changed. A record of a logger
that was left half made, which hands its records on, is then written once only, and not also by the
handler of the root, as it is when the root is set up at the level. -/
theorem level_of_root_kept :
    let first : List Call := [.setUp "x" "INFO" (some (Path.ofText "d/x.log")),
      .setUp "root" "INFO" none, .setUp "a" "DEBUG" (some (Path.ofText "d"))]
    let last : Call := .setLevels "root" "DEBUG"
    let before := Call.runAll first ({}, Tree.empty)
    let after := last.run before
    let r : Record := { level := .debug, logger := "a", message := "m" }
    Registry.isUnder "root" "root" = true ∧ (before.1.holding "root").handlers ≠ [] ∧
      after.1.isOk = true ∧ (after.2.1.holding "root").level = some .info ∧
      Call.lastLevel? (first ++ [last]) "root" = some .debug ∧
      ((tell "TS" r).run.run after.2).1 = .ok [.errors] ∧
      ((tell "TS" r).run.run ((Call.setUp "root" "DEBUG" none).run after.2).2).1 =
        .ok [.errors, .errors] := by
  decide +kernel

end SnippetBench.Log
