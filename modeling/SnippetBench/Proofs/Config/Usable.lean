import SnippetBench.Proofs.Config.Overrides
import SnippetBench.Proofs.Script.Layout

/-!
# Options are always usable

Whatever a configuration spells, and whatever overrides are laid on it in which order, accepted or
refused, the options are such that scripts can be built with them (`usable_afterOverrides`). Every
reading ends in the checks of the counts, of the runtimes and of the time limit, so that options
that were read are usable (`usable_of_readBench`); overrides are read in the same way, and refused
ones change nothing (`Usable.overridden`).
-/

namespace SnippetBench.Config

open Number (Binary64)

/-- Options with which a benchmark can be run: counts of at least one, at least one runtime, each of
them a text by its type, and a time limit that is a number greater than zero, if there is one. -/
structure Usable (bench : BenchOptions) : Prop where
  samples : 1 ≤ bench.samples
  iterations : 1 ≤ bench.iterations
  runtimes : bench.runtimes ≠ []
  timeout : ∀ x, bench.timeout = some x →
    x = .infinite false ∨ (x.isFinite = true ∧ 0 < x.toRat)

/-! ### Values that were read -/

theorem toRat_zero (negative : Bool) : (Binary64.zero negative).toRat = 0 := by
  cases negative <;> simp [Binary64.zero, Binary64.toRat, Binary64.magnitude, Binary64.isNegative]

/-- A number is greater than zero if it is the positive infinity or finite and greater than zero. In
particular it is a number. -/
theorem zero_lt_iff {x : Binary64} :
    ((0 : Nat) : Binary64) < x ↔ x = .infinite false ∨ (x.isFinite = true ∧ 0 < x.toRat) := by
  show Binary64.lt (Binary64.zero false) x = true ↔ _
  cases x with
  | nan => simp [Binary64.lt, Binary64.le, Binary64.zero, Binary64.isFinite]
  | infinite negative =>
    cases negative <;> simp [Binary64.lt, Binary64.le, Binary64.zero, Binary64.isFinite]
  | finite negative significand exponent =>
    have hzero := toRat_zero false
    unfold Binary64.zero at hzero
    simp only [Binary64.lt, Binary64.le, Binary64.zero, Binary64.isFinite, hzero]
    simp only [Bool.and_eq_true, decide_eq_true_eq, Bool.not_eq_true', decide_eq_false_iff_not,
      Rat.not_le, reduceCtorEq, false_or, true_and]
    exact ⟨fun h => h.2, fun h => ⟨Rat.le_of_lt h, h⟩⟩

theorem exists_readPositive_of_readOptional {d : Data} {x : Binary64}
    (h : readOptional readPositive d = .ok (some x)) : ∃ d', readPositive d' = .ok x := by
  have hd : d ≠ .null := by
    rintro rfl
    cases h
  rw [readOptional_of_ne _ hd] at h
  obtain ⟨y, hy, heq⟩ := map_eq_ok_iff.mp h
  exact ⟨d, hy.trans (congrArg Except.ok (Option.some.inj heq))⟩

/-! ### Options that were read -/

variable {bench : BenchOptions}

theorem usable_default : Usable {} := ⟨by decide, by decide, by decide, by simp⟩

/-- Options that were read are usable. -/
theorem usable_of_readBench {d : Data} (h : readBench d = .ok bench) : Usable bench := by
  cases d with
  | map entries =>
    obtain ⟨-, hsamples, hiterations, hruntimes, -, -, htimeout, -⟩ := readBench_eq_ok h
    refine ⟨?_, ?_, ?_, fun x hx => ?_⟩
    · rcases eq_default_or_exists_read hsamples with heq | ⟨d, hd⟩
      · omega
      · exact one_le_of_readCount hd
    · rcases eq_default_or_exists_read hiterations with heq | ⟨d, hd⟩
      · omega
      · exact one_le_of_readCount hd
    · rcases eq_default_or_exists_read hruntimes with heq | ⟨d, hd⟩
      · rw [heq]
        exact usable_default.runtimes
      · exact ne_nil_of_readNames hd
    · rw [hx] at htimeout
      rcases eq_default_or_exists_read htimeout with heq | ⟨d, hd⟩
      · cases heq
      · obtain ⟨d', hd'⟩ := exists_readPositive_of_readOptional hd
        exact zero_lt_iff.mp (pos_of_readPositive hd')
  | _ => cases h

/-- The bench options of a configuration are the default ones or were read. -/
theorem bench_of_readConfiguration {d : Data} {c : Configuration}
    (h : readConfiguration d = .ok c) : c.bench = {} ∨ ∃ d', readBench d' = .ok c.bench := by
  cases d with
  | map entries =>
    rw [readConfiguration] at h
    split at h
    · cases h
    · dsimp only at h
      generalize readField entries "global" none readGlobal = global at h
      generalize hbench : readField entries "bench" (some {}) readBench = bench at h
      generalize unknownKeys _ entries = unknown at h
      split at h
      · obtain rfl := Except.ok.inj h
        exact eq_default_or_exists_read hbench
      · cases h
  | _ => cases h

/-- The bench options of a configuration are usable. -/
theorem usable_of_readConfiguration {d : Data} {c : Configuration}
    (h : readConfiguration d = .ok c) : Usable c.bench := by
  rcases bench_of_readConfiguration h with heq | ⟨d', hd'⟩
  · rw [heq]
    exact usable_default
  · exact usable_of_readBench hd'

/-! ### Overrides, one after another -/

/-- The options after overrides. They stay as they were if the overrides are refused. -/
def overridden (bench : BenchOptions) (overrides : List (Text × Data)) : BenchOptions :=
  (applyOverrides bench overrides).toOption.getD bench

/-- The options after overrides that are laid on top one after another. -/
def afterOverrides (bench : BenchOptions) (steps : List (List (Text × Data))) : BenchOptions :=
  steps.foldl overridden bench

/-- Options on which overrides were laid with success are usable. -/
theorem usable_of_applyOverrides {bench' : BenchOptions} {overrides : List (Text × Data)}
    (h : applyOverrides bench overrides = .ok bench') : Usable bench' := by
  unfold applyOverrides at h
  split at h
  · cases h
  · exact usable_of_readBench (mapError_eq_ok_iff.mp h)

/-- A step of overrides, accepted or refused, leaves usable options. -/
theorem Usable.overridden (h : Usable bench) (overrides : List (Text × Data)) :
    Usable (overridden bench overrides) := by
  unfold Config.overridden
  cases hstep : applyOverrides bench overrides with
  | ok bench' => exact usable_of_applyOverrides hstep
  | error e => exact h

/-- Any number of steps leaves usable options. -/
theorem Usable.afterOverrides (h : Usable bench) (steps : List (List (Text × Data))) :
    Usable (afterOverrides bench steps) := by
  induction steps generalizing bench with
  | nil => exact h
  | cons overrides steps ih => exact ih (h.overridden overrides)

/-- **Options are always usable**: those of every configuration that was read, and those after every
number of overrides laid on it, accepted or refused. So no script is refused for its counts. -/
theorem usable_afterOverrides (bench : BenchOptions)
    (h : (∃ d, readBench d = .ok bench) ∨ ∃ d c, readConfiguration d = .ok c ∧ c.bench = bench)
    (steps : List (List (Text × Data))) :
    let current := afterOverrides bench steps
    Usable current ∧
      (∀ snippet, ∃ t, Script.wrap snippet current.samples current.iterations = .ok t) ∧
      ∀ (settings : Script.Settings) items, ∃ t, Script.build
        { settings with samples := current.samples, iterations := current.iterations } items =
          .ok t := by
  have hbench : Usable bench := by
    rcases h with ⟨d, hd⟩ | ⟨d, c, hd, rfl⟩
    · exact usable_of_readBench hd
    · exact usable_of_readConfiguration hd
  have hcurrent := hbench.afterOverrides steps
  exact ⟨hcurrent, fun snippet => ⟨_, Script.wrap_eq hcurrent.samples hcurrent.iterations snippet⟩,
    fun _ items => ⟨_, Script.build_eq hcurrent.samples hcurrent.iterations items⟩⟩

theorem usable_afterOverrides_refused :
    let steps : List (List (Text × Data)) :=
      [[("samples", .int 0)], [("timeout_seconds", .text "inf"), ("iterations", .bool true)],
        [("runtimes", .list [])], [("bench", .int 1)]]
    readConfiguration (.map [(.text "global", .map [(.text "config_version", .text "1")]),
        (.text "bench", .map [(.text "samples", .text " +0_5.0 ")])]) =
          .ok { global := { version := "1" }, bench := { samples := 5 } } ∧
      afterOverrides { samples := 5 } steps =
        { samples := 5, timeout := some (.infinite false) } ∧
      Usable (afterOverrides { samples := 5 } steps) ∧
      ∃ t, Script.wrap ⟨"x", []⟩ (afterOverrides { samples := 5 } steps).samples
        (afterOverrides { samples := 5 } steps).iterations = .ok t := by
  have hread : readConfiguration
      (.map [(.text "global", .map [(.text "config_version", .text "1")]),
        (.text "bench", .map [(.text "samples", .text " +0_5.0 ")])]) =
          .ok { global := { version := "1" }, bench := { samples := 5 } } := by decide +kernel
  obtain ⟨husable, hwrap, -⟩ := usable_afterOverrides { samples := 5 } (.inr ⟨_, _, hread, rfl⟩)
    [[("samples", .int 0)], [("timeout_seconds", .text "inf"), ("iterations", .bool true)],
      [("runtimes", .list [])], [("bench", .int 1)]]
  exact ⟨hread, by decide +kernel, husable, hwrap ⟨"x", []⟩⟩

end SnippetBench.Config
