import SnippetBench.Proofs.Log.Tidy

/-!
# Levels of loggers

A logger that writes records has one level with its handlers and passes no records on. Which level
that is may depend on its name: `Leveled allowed reg` says that the loggers of a registry that have
handlers have levels allowed for their names. Setting a logger up allows one name one level
(`Leveled.setUp`), and changing levels below a name moves all names there to the new one
(`Leveled.setLevels`). A record of such a logger is written exactly if it reaches the level of the
logger (`Leveled.exists_tell`).
-/

namespace SnippetBench.Log.Registry

open Files (Path Tree)

variable {reg reg' : Registry} {name : Text} {level : Level} {allowed allowed' : Text → Level → Prop}

/-! ### Changing one logger -/

/-- Changing the logger of a name changes the node under that name only. -/
theorem All.changed {Q Q' : Text → Node → Prop} (h : All Q reg) (hroot : keptName name ≠ rootName)
    {f : Logger → Logger} (hother : ∀ n node, n ≠ name → Q n node → Q' n node)
    (hname : ∀ l, Q name (.logger l) → Q' name (.logger (f l)))
    (hgap : ∀ below, Q name (.gap below) → Q' name (.gap below)) : All Q' (reg.change name f) := by
  intro n node hn
  unfold Registry.change at hn
  rw [if_neg hroot] at hn
  cases hfind : reg.find? name with
  | some l =>
    rw [hfind] at hn
    dsimp only [Registry.put] at hn
    rw [lookup_putNode] at hn
    split at hn
    case isTrue heq =>
      subst heq
      cases hn
      exact hname l (h n _ ((find?_eq_some_iff hroot).1 hfind))
    case isFalse hne => exact hother n node hne (h n node hn)
  | none =>
    rw [hfind] at hn
    by_cases heq : n = name
    · subst heq
      cases node with
      | gap below => exact hgap below (h n _ hn)
      | logger l => simp [(find?_eq_some_iff hroot).2 hn] at hfind
    · exact hother n node heq (h n node hn)

/-! ### Loggers with their levels -/

/-- What stands under a name in a registry whose loggers have levels allowed for their names. -/
def IsLeveled (allowed : Text → Level → Prop) (name : Text) : Node → Prop
  | .gap _ => True
  | .logger l =>
    l.handlers ≠ [] → l.passesOn = false ∧
      ∃ level, allowed name level ∧ l.level = some level ∧ ∀ h ∈ l.handlers, h.level = level

/-- The loggers with handlers have levels allowed for their names. -/
def Leveled (allowed : Text → Level → Prop) (reg : Registry) : Prop := All (IsLeveled allowed) reg

theorem isLeveled_of_handlers {l : Logger} (h : l.handlers = []) :
    IsLeveled allowed name (.logger l) :=
  fun hsome => absurd h hsome

theorem IsLeveled.mono {node : Node} (h : IsLeveled allowed name node)
    (hmono : ∀ lv, allowed name lv → allowed' name lv) : IsLeveled allowed' name node := by
  cases node with
  | gap below => exact trivial
  | logger l =>
    intro hsome
    obtain ⟨hpasses, lv, hallowed, hlevel, hhandlers⟩ := h hsome
    exact ⟨hpasses, lv, hmono lv hallowed, hlevel, hhandlers⟩

theorem Leveled.mono (h : Leveled allowed reg) (hmono : ∀ n lv, allowed n lv → allowed' n lv) :
    Leveled allowed' reg :=
  fun n node hn => (h n node hn).mono (hmono n)

theorem isStable_isLeveled : IsStable (IsLeveled allowed) name :=
  ⟨fun _ _ _ h => h, fun _ _ _ => trivial⟩

theorem Leveled.make (h : Leveled allowed reg) : Leveled allowed (reg.make name) :=
  All.make isStable_isLeveled h (isLeveled_of_handlers rfl)

/-- A logger with handlers at a new level. -/
theorem isLeveled_relevel {l : Logger} (h : IsLeveled allowed name (.logger l))
    (hlevel : l.handlers ≠ [] → allowed' name level) :
    IsLeveled allowed' name (.logger (l.relevel level)) := by
  intro hsome
  have hhandlers : l.handlers ≠ [] := by
    intro hnone
    exact hsome (by simp [Logger.relevel, hnone])
  refine ⟨(h hhandlers).1, level, hlevel hhandlers, rfl, fun handler hhandler => ?_⟩
  obtain ⟨old, -, rfl⟩ := List.mem_map.1 hhandler
  rfl

/-! ### Changing the levels below a name -/

theorem exists_setLevels_ok {levelName : Text}
    (hlevel : Level.read? (Text.upper levelName) = some level) (above : Text) (reg : Registry) :
    ∃ reg', reg.setLevels above levelName = .ok reg' := by
  unfold Registry.setLevels
  rw [hlevel]
  exact ⟨_, rfl⟩

/-- The levels when the loggers of some names have been given a new one. -/
def given (allowed : Text → Level → Prop) (names : List Text) (level : Level) (name : Text)
    (lv : Level) : Prop :=
  (name ∈ names → lv = level ∧ ∃ old, allowed name old) ∧ (name ∉ names → allowed name lv)

theorem exists_of_given {names : List Text} {lv : Level} (h : given allowed names level name lv) :
    ∃ old, allowed name old := by
  by_cases hmem : name ∈ names
  · exact (h.1 hmem).2
  · exact ⟨lv, h.2 hmem⟩

theorem Leveled.setLevel (hroot : keptName name ≠ rootName) {names : List Text}
    (h : Leveled (given allowed names level) reg) :
    Leveled (given allowed (name :: names) level) (reg.setLevel level name) := by
  refine All.changed h.make hroot ?_ ?_ ?_
  · intro n node hne hn
    refine hn.mono fun lv hlv => ?_
    simpa [given, hne] using hlv
  · intro l hl
    split
    case isTrue hnone => exact isLeveled_of_handlers (by simpa using hnone)
    case isFalse hsome =>
      refine isLeveled_relevel hl fun hhandlers => ?_
      obtain ⟨-, lv, hlv, -⟩ := hl hhandlers
      exact ⟨fun _ => ⟨rfl, exists_of_given hlv⟩, fun hnot => absurd (.head _) hnot⟩
  · exact fun _ _ => trivial

theorem Leveled.setLevel_all (names done : List Text)
    (hroot : ∀ name ∈ names, keptName name ≠ rootName)
    (h : Leveled (given allowed done level) reg) :
    Leveled (given allowed (names.reverse ++ done) level)
      (names.foldl (Registry.setLevel level) reg) := by
  induction names generalizing reg done with
  | nil => exact h
  | cons name names ih =>
    have hrest := ih (name :: done) (fun n hn => hroot n (.tail _ hn))
      (h.setLevel (hroot name (.head _)))
    simpa using hrest

/-- The levels when those below a name have been changed. -/
def raised (allowed : Text → Level → Prop) (above : Text) (level : Level) (name : Text)
    (lv : Level) : Prop :=
  if isUnder above name then lv = level ∧ ∃ old, allowed name old else allowed name lv

/-- Changing the levels below a name gives the loggers with handlers there the new level, and leaves
the others theirs. -/
theorem Leveled.setLevels (h : Leveled allowed reg) {above levelName : Text}
    (hroot : ∀ name, isUnder above name → keptName name ≠ rootName)
    (hlevel : Level.read? (Text.upper levelName) = some level)
    (hset : reg.setLevels above levelName = .ok reg') :
    Leveled (raised allowed above level) reg' := by
  let names := (reg.nodes.map Prod.fst).filter (isUnder above)
  -- a logger that is not there yet when the levels are changed gets no handlers
  let there (name : Text) (lv : Level) : Prop := allowed name lv ∧ name ∈ reg.nodes.map Prod.fst
  have hthere : Leveled (given there [] level) reg := by
    intro n node hn
    refine (h n node hn).mono fun lv hlv => ?_
    obtain ⟨before, after, hnodes, -⟩ := List.lookup_eq_some_iff.1 hn
    have hmem : n ∈ reg.nodes.map Prod.fst := by simp [hnodes]
    simpa [given] using ⟨hlv, hmem⟩
  have hall := hthere.setLevel_all names [] fun n hn => hroot n (List.mem_filter.1 hn).2
  unfold Registry.setLevels at hset
  rw [hlevel] at hset
  cases hset
  refine hall.mono fun n lv hlv => ?_
  unfold raised
  by_cases hmem : n ∈ names.reverse ++ []
  · have hfilter : n ∈ names := by simpa using hmem
    have hunder : isUnder above n = true := (List.mem_filter.1 hfilter).2
    obtain ⟨rfl, old, hold, -⟩ := hlv.1 hmem
    rw [if_pos hunder]
    exact ⟨rfl, old, hold⟩
  · obtain ⟨hallowed, hthere⟩ := hlv.2 hmem
    have hunder : ¬ isUnder above n = true := by
      intro hunder
      have hfilter : n ∈ names := List.mem_filter.2 ⟨hthere, hunder⟩
      exact hmem (by simpa using hfilter)
    rw [if_neg hunder]
    exact hallowed

/-! ### Setting a logger up -/

/-- Setting a logger up without a file comes to an end, leaves the files and the loggers that are
there, and the logger is there then. -/
theorem exists_setUp (hkept : keptName name = name) {levelName : Text}
    (hlevel : Level.read? levelName = some level) (reg : Registry) (tree : Tree) :
    ∃ reg', (setUp name levelName none).run.run (reg, tree) = (.ok (), reg', tree) ∧
      Keeps reg reg' ∧ (reg'.find? name).isSome := by
  have hthere : ((reg.make name).find? name).isSome := isSome_find?_make
  obtain ⟨l, hl⟩ := Option.isSome_iff_exists.1 hthere
  rw [setUp_of_read? hlevel hkept none hl]
  split
  · exact ⟨_, rfl, keeps_make.trans ((keeps_change _).trans (keeps_change _)),
      (keeps_change _) name ((keeps_change _) name hthere)⟩
  · exact ⟨_, rfl, keeps_make.trans (keeps_change _), (keeps_change _) name hthere⟩

/-- A logger that writes the records from a level on to some targets, and passes none on. -/
structure WritesTo (least : Level) (targets : List Target) (l : Logger) : Prop where
  level : l.level = some least
  handlers : l.handlers = targets.map (⟨·, least⟩)
  passesOn : l.passesOn = false

/-- The targets of a logger that is set up with a file, or without one. -/
def targetsOf (file : Option Path) : List Target := .errors :: (file.map Target.file).toList

/-- How opening a log file ends, and the files then. -/
def opened (file : Option Path) (tree : Tree) : Except Files.Failure Unit × Tree :=
  match file with
  | none => (.ok (), tree)
  | some p => (openFile p).run.run tree

/-- Equipping a logger opens its file, and nothing else is done with the files. -/
theorem run_equip (reg : Registry) (name : Text) (level : Level) (file : Option Path)
    (tree : Tree) :
    ∃ reg', (reg.equip name level file).run.run (reg, tree) =
      ((opened file tree).1.mapError .system, reg', (opened file tree).2) := by
  cases file with
  | none => exact ⟨_, rfl⟩
  | some p =>
    unfold equip opened
    dsimp only [ExceptT.run_mk, StateT.run]
    rcases (openFile p).run tree with ⟨f | _, tree'⟩
    · exact ⟨_, rfl⟩
    · exact ⟨_, rfl⟩

/-- A logger that is equipped writes to the error stream and to its file. -/
theorem exists_writes_of_equip {l : Logger} (hroot : keptName name ≠ rootName)
    (hl : reg.find? name = some l) (hnone : l.handlers = []) {file : Option Path}
    {tree tree' : Tree}
    (hok : (reg.equip name level file).run.run (reg, tree) = (.ok (), reg', tree')) :
    (∃ l', reg'.find? name = some l' ∧ WritesTo level (targetsOf file) l') ∧
      ∀ Q : Text → Node → Prop, All (fun n node => n ≠ name → Q n node) reg →
        All (fun n node => n ≠ name → Q n node) reg' := by
  have hchanged {reg : Registry} (f : Logger → Logger) (Q : Text → Node → Prop)
      (h : All (fun n node => n ≠ name → Q n node) reg) :
      All (fun n node => n ≠ name → Q n node) (reg.change name f) :=
    All.change h fun _ _ hne => absurd rfl hne
  have hfirst := find?_change_self hroot hl fun l => (l.relevel level).addHandler level .errors
  cases file with
  | none =>
    cases hok
    refine ⟨⟨_, find?_change_self hroot hfirst _, rfl, ?_, rfl⟩,
      fun Q h => hchanged _ Q (hchanged _ Q h)⟩
    simp [Logger.addHandler, Logger.relevel, hnone, targetsOf]
  | some p =>
    unfold equip at hok
    dsimp only [ExceptT.run_mk, StateT.run] at hok
    rcases hopen : (openFile p).run tree with ⟨f | _, tree''⟩
    · rw [hopen] at hok
      cases hok
    · rw [hopen] at hok
      cases hok
      have hsecond := find?_change_self hroot hfirst (·.addHandler level (.file p))
      refine ⟨⟨_, find?_change_self hroot hsecond _, rfl, ?_, rfl⟩,
        fun Q h => hchanged _ Q (hchanged _ Q (hchanged _ Q h))⟩
      simp [Logger.addHandler, Logger.relevel, hnone, targetsOf]

theorem WritesTo.isLeveled {targets : List Target} {l : Logger} (h : WritesTo level targets l)
    (hallowed : allowed name level) : IsLeveled allowed name (.logger l) := by
  intro _
  refine ⟨h.passesOn, level, hallowed, h.level, fun handler hhandler => ?_⟩
  rw [h.handlers] at hhandler
  obtain ⟨target, -, rfl⟩ := List.mem_map.1 hhandler
  rfl

/-- Setting a logger up allows its name its level. -/
theorem Leveled.setUp (h : Leveled allowed reg) (hkept : keptName name = name)
    (hroot : name ≠ rootName) {levelName : Text} (hlevel : Level.read? levelName = some level)
    {file : Option Path} {tree tree' : Tree}
    (hok : (setUp name levelName file).run.run (reg, tree) = (.ok (), reg', tree'))
    (hname : allowed name level) : Leveled allowed reg' := by
  have hroot' : keptName name ≠ rootName := by rwa [hkept]
  have hthere : ((reg.make name).find? name).isSome := isSome_find?_make
  obtain ⟨l, hl⟩ := Option.isSome_iff_exists.1 hthere
  have hmade : Leveled allowed (reg.make name) := h.make
  rw [setUp_of_read? hlevel hkept file hl] at hok
  split at hok
  case isTrue hnone =>
    obtain ⟨⟨l', hl', hwrites⟩, hothers⟩ :=
      exists_writes_of_equip hroot' hl (by simpa using hnone) hok
    exact (hothers _ fun n node hn _ => hmade n node hn).of_others hroot' hl'
      (hwrites.isLeveled hname)
  case isFalse =>
    cases hok
    exact All.changed hmade hroot' (fun _ _ _ hn => hn)
      (fun l hl => isLeveled_relevel hl fun _ => hname) fun _ _ => trivial

/-! ### Telling records -/

/-- A record of a logger that has handlers is written somewhere exactly if it reaches a level that
is allowed for the name of the logger. -/
theorem Leveled.exists_tell (h : Leveled allowed reg) (time : Text) {r : Record} {l : Logger}
    (hroot : keptName r.logger ≠ rootName) (hl : reg.find? r.logger = some l)
    (hsome : l.handlers ≠ []) (hr : r.reserved? = none) (tree : Tree) :
    ∃ level targets tree', allowed r.logger level ∧
      (Log.tell time r).run.run (reg, tree) = (.ok targets, reg, tree') ∧
      (targets ≠ [] ↔ level.severity ≤ r.level.severity) := by
  obtain ⟨hpasses, level, hallowed, hlevel, hhandlers⟩ :=
    h r.logger _ ((find?_eq_some_iff hroot).1 hl) hsome
  have hrun := run_tell_of_level time hroot hl hpasses hsome hlevel hhandlers hr tree
  by_cases hreaches : level.severity ≤ r.level.severity
  · rw [if_pos hreaches] at hrun
    exact ⟨level, _, _, hallowed, hrun, iff_of_true (by simpa using hsome) hreaches⟩
  · rw [if_neg hreaches] at hrun
    exact ⟨level, _, _, hallowed, hrun, iff_of_false (by simp) hreaches⟩

end SnippetBench.Log.Registry
