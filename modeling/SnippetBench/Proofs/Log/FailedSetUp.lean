import SnippetBench.Proofs.Log.Calls

/-!
# Failed settings-up

A logger cannot be set up at a level that is unknown, and not with a file that cannot be opened. The
first failure leaves nothing behind: any later calls end as they would have ended without it, as
states that agree stay so (`Call.Agrees.run`). After the second one there is a handler for the error
stream, and a later call only changes its level: the file of that call is not used, and records are
still passed on.
-/

namespace SnippetBench.Log

open Files (Path Tree)

variable {name levelName : Text} {level : Level} {file : Option Path}

namespace Call

/-! ### States that agree -/

/-- Two states with the same files in which all names but that of the root hold the same, and the
same names have handlers. -/
structure Agrees (state state' : Registry × Tree) : Prop where
  files : state.2 = state'.2
  holding : ∀ name, keptName name ≠ rootName → state.1.holding name = state'.1.holding name
  equipped : ∀ name, (state.1.holding name).handlers = [] ↔ (state'.1.holding name).handlers = []

variable {state state' : Registry × Tree}

/-- A call ends alike in states that agree, and they agree then. -/
theorem Agrees.run (h : Agrees state state') (call : Call) :
    (call.run state).1 = (call.run state').1 ∧ Agrees (call.run state).2 (call.run state').2 := by
  obtain ⟨reg, tree⟩ := state
  obtain ⟨reg', tree'⟩ := state'
  obtain rfl : tree = tree' := h.files
  cases hlevel : call.level? with
  | none =>
    obtain ⟨next, hrun, hsame⟩ := run_of_unknown hlevel reg tree
    obtain ⟨next', hrun', hsame'⟩ := run_of_unknown hlevel reg' tree
    rw [hrun, hrun']
    refine ⟨rfl, rfl, fun name hroot => ?_, fun name => ?_⟩
    · rw [hsame, hsame']
      exact h.holding name hroot
    · rw [hsame, hsame']
      exact h.equipped name
  | some level =>
    cases call with
    | setUp n levelName file =>
      have hopens : (reg.holding n).handlers.isEmpty = (reg'.holding n).handlers.isEmpty := by
        rw [Bool.eq_iff_iff, List.isEmpty_iff, List.isEmpty_iff]
        exact h.equipped n
      obtain ⟨next, hrun, hholding⟩ := run_setUp hlevel reg tree
      obtain ⟨next', hrun', hholding'⟩ := run_setUp hlevel reg' tree
      rw [hrun, hrun', hopens]
      refine ⟨rfl, rfl, fun name hroot => ?_, fun name => ?_⟩
      · rw [hholding, hholding', hopens, h.holding name hroot]
      · rw [hholding, hholding']
        split
        · simp [Holding.handlers_setUp_ne_nil]
        · exact h.equipped name
    | setLevels above levelName =>
      obtain ⟨next, hrun, hholding⟩ := run_setLevels hlevel reg tree
      obtain ⟨next', hrun', hholding'⟩ := run_setLevels hlevel reg' tree
      rw [hrun, hrun']
      refine ⟨rfl, rfl, fun name hroot => ?_, fun name => ?_⟩
      · rw [hholding, hholding', raise_of_reaches hroot, raise_of_reaches hroot, h.holding name hroot]
      · have hraised {reg : Registry} (reached : Prop) [Decidable reached] :
            (if reached then (reg.holding name).raise level else reg.holding name).handlers = [] ↔
              (reg.holding name).handlers = [] := by
          split <;> simp
        rw [hholding, hholding', hraised, hraised]
        exact h.equipped name

theorem Agrees.runAll (h : Agrees state state') (calls : List Call) :
    Agrees (runAll calls state) (runAll calls state') := by
  induction calls generalizing state state' with
  | nil => exact h
  | cons call calls ih => exact ih (h.run call).2

/-- A call whose level is unknown leaves a state that agrees with the one before. -/
theorem agrees_of_unknown {call : Call} (h : call.level? = none) (state : Registry × Tree) :
    Agrees (call.run state).2 state := by
  obtain ⟨reg', hrun, hsame⟩ := run_of_unknown h state.1 state.2
  have hrun' : call.run state = _ := hrun
  rw [hrun']
  exact ⟨rfl, fun name _ => hsame name, fun name => by rw [hsame]⟩

/-- Setting the root up at a level that is unknown leaves everything as it was. -/
theorem run_setUp_root (hroot : keptName name = rootName) (h : Level.read? levelName = none)
    (state : Registry × Tree) : ((setUp name levelName file).run state).2 = state := by
  have hmake : state.1.make (keptName name) = state.1 := by
    unfold Registry.make
    rw [if_pos]
    rw [hroot]
    rfl
  exact congrArg Prod.snd ((Registry.run_setUp_unknown h name file state.1 state.2).trans
    (by rw [hmake]))

/-- Setting a logger up that has no handlers ends as opening its file does. -/
theorem run_setUp_first (h : Level.read? levelName = some level)
    (hnone : (state.1.holding name).handlers = []) (file : Option Path) :
    let opening := Registry.opened file state.2
    ∃ reg', (setUp name levelName file).run state = (opening.1.mapError .system, reg', opening.2) ∧
      reg'.holding name = (state.1.holding name).setUp level file opening.1 := by
  have hlevel : (setUp name levelName file).level? = some level := h
  obtain ⟨reg', hrun, hholding⟩ := run_setUp hlevel state.1 state.2
  rw [if_pos (List.isEmpty_iff.2 hnone)] at hrun hholding
  exact ⟨reg', hrun, (hholding name).trans (if_pos rfl)⟩

/-- A logger without handlers that is set up writes to the error stream and to its file, and passes
nothing on. -/
theorem holding_of_run_ok (h : Level.read? levelName = some level)
    (hnone : (state.1.holding name).handlers = [])
    (hok : ((setUp name levelName file).run state).1 = .ok ()) :
    ((setUp name levelName file).run state).2.1.holding name =
      ⟨some level, (Registry.targetsOf file).map (⟨·, level⟩), false⟩ := by
  obtain ⟨reg', hrun, hholding⟩ := run_setUp_first h hnone file
  rw [hrun] at hok ⊢
  rw [hholding]
  cases hopen : (Registry.opened file state.2).1 with
  | ok => exact Holding.setUp_ok hnone level file
  | error f =>
    rw [hopen] at hok
    cases hok

/-- A logger without handlers that cannot be set up at a known level writes to the error stream. -/
theorem holding_of_run_error (h : Level.read? levelName = some level)
    (hnone : (state.1.holding name).handlers = [])
    (hfails : ((setUp name levelName file).run state).1 ≠ .ok ()) :
    ((setUp name levelName file).run state).2.1.holding name =
      ⟨some level, [⟨.errors, level⟩], (state.1.holding name).passesOn⟩ := by
  obtain ⟨reg', hrun, hholding⟩ := run_setUp_first h hnone file
  rw [hrun] at hfails ⊢
  rw [hholding]
  cases hopen : (Registry.opened file state.2).1 with
  | ok =>
    rw [hopen] at hfails
    exact absurd rfl hfails
  | error f => exact Holding.setUp_error hnone level file f

/-- Setting a logger up again that has handlers succeeds, opens no file, and gives it its level. -/
theorem run_setUp_again (h : Level.read? levelName = some level)
    (hsome : (state.1.holding name).handlers ≠ []) :
    ∃ reg', (setUp name levelName file).run state = (.ok (), reg', state.2) ∧
      reg'.holding name = (state.1.holding name).relevel level := by
  have hlevel : (setUp name levelName file).level? = some level := h
  have hempty : ¬ (state.1.holding name).handlers.isEmpty = true := by simpa using hsome
  obtain ⟨reg', hrun, hholding⟩ := run_setUp hlevel state.1 state.2
  rw [if_neg hempty] at hrun hholding
  refine ⟨reg', hrun, ?_⟩
  rw [hholding, if_pos rfl, Holding.setUp_of_ne_nil hsome]

end Call

/-- **A logger that cannot be set up**, in any registry in which it has no handlers. When its level is
unknown, a later call sets it up as it would have done otherwise, whatever calls come between.
When its file cannot be opened, it has a handler for the error stream. Setting it up again then
succeeds, without a file and passing records on as before. -/
theorem setUp_after_failure (state : Registry × Tree) (name levelName : Text) (file : Option Path)
    (hnone : (state.1.holding name).handlers = [])
    (hfails : ((Call.setUp name levelName file).run state).1 ≠ .ok ()) :
    let failed := ((Call.setUp name levelName file).run state).2
    let passesOn := (state.1.holding name).passesOn
    (Level.read? levelName = none → ∀ calls levelName' file',
      let after := (Call.setUp name levelName' file').run (Call.runAll calls failed)
      let alone := (Call.setUp name levelName' file').run (Call.runAll calls state)
      after.1 = alone.1 ∧ after.2.2 = alone.2.2 ∧ after.2.1.holding name = alone.2.1.holding name) ∧
    ∀ level, Level.read? levelName = some level →
      failed.1.holding name = ⟨some level, [⟨.errors, level⟩], passesOn⟩ ∧
      ∀ levelName' level' file', Level.read? levelName' = some level' →
        let after := (Call.setUp name levelName' file').run failed
        let alone := (Call.setUp name levelName' file').run (state.1, failed.2)
        after.1 = .ok () ∧ after.2.2 = failed.2 ∧
        after.2.1.holding name = ⟨some level', [⟨.errors, level'⟩], passesOn⟩ ∧
        (alone.1 = .ok () →
          alone.2.1.holding name =
            ⟨some level', (Registry.targetsOf file').map (⟨·, level'⟩), false⟩) := by
  intro failed passesOn
  constructor
  · intro hlevel calls levelName' file'
    by_cases hroot : keptName name = rootName
    · have hsame : failed = state := Call.run_setUp_root hroot hlevel state
      rw [hsame]
      exact ⟨rfl, rfl, rfl⟩
    · have hcall : (Call.setUp name levelName file).level? = none := hlevel
      have hagrees : Call.Agrees failed state := Call.agrees_of_unknown hcall state
      obtain ⟨hout, hafter⟩ := (hagrees.runAll calls).run (.setUp name levelName' file')
      exact ⟨hout, hafter.files, hafter.holding name hroot⟩
  · intro level hlevel
    have hholds := Call.holding_of_run_error hlevel hnone hfails
    refine ⟨hholds, fun levelName' level' file' hlevel' => ?_⟩
    have hsome : (failed.1.holding name).handlers ≠ [] := by
      rw [hholds]
      exact List.cons_ne_nil _ _
    obtain ⟨reg', hrun, hagain⟩ := Call.run_setUp_again hlevel' hsome
    rw [hrun]
    refine ⟨rfl, rfl, ?_, fun hok => Call.holding_of_run_ok hlevel' hnone hok⟩
    rw [hagain, hholds]
    rfl

/-- After a level that is unknown, the logger gets the file that it is set up with, and passes no
records on. -/
theorem setUp_after_unknown_level :
    let state : Registry × Tree := ({}, Tree.empty)
    let failed := ((Call.setUp "pybm.runtime" "loud" none).run state).2
    let after := (Call.setUp "pybm.runtime" "info" (some (Path.ofText "logs/run.log"))).run failed
    after.2.1.holding "pybm.runtime" =
      ⟨some .info, [⟨.errors, .info⟩, ⟨.file (Path.ofText "logs/run.log"), .info⟩], false⟩ := by
  intro state failed after
  have hlater := (setUp_after_failure state "pybm.runtime" "loud" none (by decide)
    (by decide +kernel)).1 (by decide +kernel) [] "info" (some (Path.ofText "logs/run.log"))
  exact hlater.2.2.trans (by decide +kernel)

/-- After a file that cannot be opened, as its directory is a file, the logger does not get the file
that it is set up with next, and passes records on. -/
theorem setUp_after_unopened_file :
    let state : Registry × Tree := ({}, Tree.empty.put ["work", "f"] (.file []))
    let failed := (Call.setUp "a" "INFO" (some (Path.ofText "f/log"))).run state
    let next : Call := .setUp "a" "INFO" (some (Path.ofText "a.log"))
    let after := next.run failed.2
    let alone := next.run state
    (state.1.holding "a").handlers = [] ∧ failed.1.isOk = false ∧ after.1.isOk = true ∧
      after.2.1.holding "a" = ⟨some .info, [⟨.errors, .info⟩], true⟩ ∧
      alone.2.1.holding "a" =
        ⟨some .info, [⟨.errors, .info⟩, ⟨.file (Path.ofText "a.log"), .info⟩], false⟩ := by
  decide +kernel

end SnippetBench.Log
