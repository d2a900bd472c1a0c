import SnippetBench.Proofs.Log.Levels

/-!
# What names hold

A name holds what its logger has been given: a level, handlers, and whether it passes records on. A
name without a logger holds what a logger has at first, so making loggers changes no holding
(`holding_make`). Setting a logger up changes the holding of its name and no other
(`exists_setUp_holding`), in a way that depends on the holding, the level, and whether the file can
be opened (`Holding.setUp`). Changing levels below a name raises the holdings of the names there
that are kept (`holding_setLevels`).
-/

namespace SnippetBench.Log

open Files (Path Tree)

/-- What a name holds. -/
structure Holding where
  level : Option Level := none
  handlers : List Handler := []
  passesOn : Bool := true
  deriving DecidableEq, Repr

/-- What a logger has been given. -/
def Logger.holding (l : Logger) : Holding := ⟨l.level, l.handlers, l.passesOn⟩

namespace Holding

variable {level : Level}

/-- The holding with its level and those of its handlers changed. -/
def relevel (level : Level) (h : Holding) : Holding :=
  { h with level := some level, handlers := h.handlers.map fun handler => { handler with level } }

/-- The holding with its levels changed, if it has handlers. -/
def raise (level : Level) (h : Holding) : Holding :=
  if h.handlers.isEmpty then h else h.relevel level

/-- The holding of a logger that is set up with a level and a file, where opening the file ends in
some way. -/
def setUp (level : Level) (file : Option Path) (opening : Except Files.Failure Unit) (h : Holding) :
    Holding :=
  if h.handlers.isEmpty then
    match opening with
    | .ok () => ⟨some level, (Registry.targetsOf file).map (⟨·, level⟩), false⟩
    | .error _ => { h with level := some level, handlers := [⟨.errors, level⟩] }
  else h.relevel level

@[simp]
theorem handlers_relevel_eq_nil {h : Holding} :
    (h.relevel level).handlers = [] ↔ h.handlers = [] := by
  simp [relevel]

@[simp]
theorem handlers_raise_eq_nil {h : Holding} : (h.raise level).handlers = [] ↔ h.handlers = [] := by
  unfold raise
  split
  · rfl
  · exact handlers_relevel_eq_nil

theorem raise_raise (level : Level) (h : Holding) :
    (h.raise level).raise level = h.raise level := by
  cases hempty : h.handlers.isEmpty <;> simp [raise, hempty, relevel]

theorem setUp_ok {h : Holding} (hnone : h.handlers = []) (level : Level) (file : Option Path) :
    h.setUp level file (.ok ()) = ⟨some level, (Registry.targetsOf file).map (⟨·, level⟩), false⟩ :=
  if_pos (List.isEmpty_iff.2 hnone)

theorem setUp_error {h : Holding} (hnone : h.handlers = []) (level : Level) (file : Option Path)
    (f : Files.Failure) :
    h.setUp level file (.error f) = ⟨some level, [⟨.errors, level⟩], h.passesOn⟩ :=
  if_pos (List.isEmpty_iff.2 hnone)

theorem setUp_of_ne_nil {h : Holding} (hsome : h.handlers ≠ []) (level : Level) (file : Option Path)
    (opening : Except Files.Failure Unit) : h.setUp level file opening = h.relevel level :=
  if_neg (by simpa using hsome)

theorem handlers_setUp_ne_nil (level : Level) (file : Option Path)
    (opening : Except Files.Failure Unit) (h : Holding) :
    (h.setUp level file opening).handlers ≠ [] := by
  by_cases hnone : h.handlers = []
  · cases opening with
    | ok => simp [setUp_ok hnone, Registry.targetsOf]
    | error f => simp [setUp_error hnone]
  · simpa [setUp_of_ne_nil hnone] using hnone

end Holding

namespace Registry

variable {reg : Registry} {name other : Text} {level : Level}

/-- What a name holds in a registry. -/
def holding (reg : Registry) (name : Text) : Holding :=
  ((reg.find? name).map Logger.holding).getD {}

/-! ### Names and what is found under them -/

theorem keptName_keptName (name : Text) : keptName (keptName name) = keptName name := by
  unfold keptName
  split
  · rfl
  · rfl

theorem keptName_of_ne_root (h : keptName name ≠ rootName) : keptName name = name := by
  unfold keptName at h ⊢
  split
  case isTrue hempty => exact absurd (if_pos hempty) h
  case isFalse => rfl

theorem eq_of_keptName_eq (h : keptName name ≠ rootName) (heq : keptName other = keptName name) :
    other = name := by
  rw [← keptName_of_ne_root h, ← heq, keptName_of_ne_root (heq ▸ h)]

/-- Two names that are kept as one have one logger. -/
theorem find?_congr (h : keptName name = keptName other) : reg.find? name = reg.find? other := by
  by_cases hroot : keptName other = rootName
  · rw [find?, find?, if_pos hroot, if_pos (h.trans hroot)]
  · rw [eq_of_keptName_eq hroot h]

theorem holding_congr (h : keptName name = keptName other) :
    reg.holding name = reg.holding other := by
  rw [holding, holding, find?_congr h]

theorem find?_put_logger (hname : keptName name ≠ rootName) (l : Logger) (other : Text) :
    (reg.put name (.logger l)).find? other = if other = name then some l else reg.find? other := by
  unfold find?
  dsimp only [put]
  by_cases heq : other = name
  · subst heq
    rw [if_neg hname, lookup_putNode, if_pos rfl, if_pos rfl]
  · rw [lookup_putNode, if_neg heq, if_neg heq]

/-- A gap may be put where no logger stands. -/
theorem find?_put_gap (hname : ∀ l, reg.nodes.lookup name ≠ some (.logger l)) (below : List Text)
    (other : Text) : (reg.put name (.gap below)).find? other = reg.find? other := by
  unfold find?
  dsimp only [put]
  by_cases heq : other = name
  · subst heq
    rw [lookup_putNode, if_pos rfl]
    cases hlookup : reg.nodes.lookup other with
    | none => rfl
    | some node =>
      cases node with
      | gap _ => rfl
      | logger l => exact absurd hlookup (hname l)
  · rw [lookup_putNode, if_neg heq]

theorem find?_change (f : Logger → Logger) : (reg.change name f).find? other =
    if keptName other = keptName name then (reg.find? other).map f else reg.find? other := by
  unfold change
  by_cases hroot : keptName name = rootName
  · rw [if_pos hroot, hroot]
    by_cases hother : keptName other = rootName
    · rw [if_pos hother, find?, if_pos hother, find?, if_pos hother]
      rfl
    · rw [if_neg hother, find?, if_neg hother, find?, if_neg hother]
  · rw [if_neg hroot]
    by_cases hother : keptName other = keptName name
    · obtain rfl := eq_of_keptName_eq hroot hother
      rw [if_pos rfl]
      cases hfind : reg.find? other with
      | some l => exact (find?_put_logger hroot _ _).trans (if_pos rfl)
      | none => exact hfind
    · have hne : other ≠ name := fun heq => hother (congrArg keptName heq)
      rw [if_neg hother]
      cases hfind : reg.find? name with
      | some l => exact (find?_put_logger hroot _ _).trans (if_neg hne)
      | none => rfl

/-- Changing a logger changes the holding of its name, if there is a logger. -/
theorem holding_change {f : Logger → Logger} {g : Holding → Holding}
    (hf : ∀ l, (f l).holding = g l.holding) (hname : (reg.find? name).isSome) :
    (reg.change name f).holding other =
      if keptName other = keptName name then g (reg.holding other) else reg.holding other := by
  unfold holding
  rw [find?_change]
  split
  case isTrue heq =>
    obtain ⟨l, hl⟩ := Option.isSome_iff_exists.1 hname
    rw [find?_congr heq, hl]
    exact hf l
  case isFalse => rfl

/-- A change that gives a logger nothing changes no holding. -/
theorem holding_change_self {f : Logger → Logger} (hf : ∀ l, (f l).holding = l.holding) :
    (reg.change name f).holding other = reg.holding other := by
  unfold holding
  rw [find?_change]
  split
  · cases reg.find? other with
    | none => rfl
    | some l => exact congrArg (fun h => (some h).getD {}) (hf l)
  · rfl

/-! ### Making loggers -/

theorem holding_noteIn (aboves : List Text) :
    (reg.noteIn name aboves).1.holding other = reg.holding other := by
  have hgap {reg : Registry} {above : Text} (h : ∀ l, reg.nodes.lookup above ≠ some (.logger l))
      (below : List Text) : (reg.put above (.gap below)).holding other = reg.holding other := by
    rw [holding, holding, find?_put_gap h]
  induction aboves generalizing reg with
  | nil => rfl
  | cons above others ih =>
    rw [noteIn]
    split
    · rfl
    case h_2 heq => exact ih.trans (hgap (by simp [heq]) _)
    case h_3 heq => exact ih.trans (hgap (by simp [heq]) _)

theorem holding_adopt_all (below : List Text) :
    (below.foldl (adopt name) reg).holding other = reg.holding other := by
  induction below generalizing reg with
  | nil => rfl
  | cons b below ih =>
    refine ih.trans (holding_change_self fun l => ?_)
    split <;> rfl

/-- **Making a logger** changes no holding. -/
theorem holding_make (name other : Text) : (reg.make name).holding other = reg.holding other := by
  unfold make
  split
  · rfl
  case isFalse hnew =>
    have hroot : keptName name ≠ rootName := by
      intro hroot
      rw [find?, if_pos hroot] at hnew
      exact hnew rfl
    have hlast (above : Text) (reg : Registry) :
        (reg.change name fun l => { l with above }).holding other = reg.holding other :=
      holding_change_self fun _ => rfl
    dsimp only
    rw [hlast, holding_noteIn, holding_adopt_all, holding, holding, find?_put_logger hroot]
    split
    case isTrue heq =>
      subst heq
      rw [Option.not_isSome_iff_eq_none.1 hnew]
      rfl
    case isFalse => rfl

/-! ### Changing levels -/

theorem holding_setLevel (level : Level) (name other : Text) :
    (reg.setLevel level name).holding other =
      if keptName other = keptName name then (reg.holding other).raise level
      else reg.holding other := by
  unfold setLevel
  have hraise : ∀ l : Logger, (if l.handlers.isEmpty then l else l.relevel level).holding =
      l.holding.raise level := by
    intro l
    have hempty : l.holding.handlers.isEmpty = l.handlers.isEmpty := rfl
    unfold Holding.raise
    rw [hempty]
    split <;> rfl
  rw [holding_change hraise isSome_find?_make, holding_make]

theorem holding_setLevel_all (level : Level) (names : List Text) (other : Text) :
    (names.foldl (setLevel level) reg).holding other =
      if ∃ name ∈ names, keptName other = keptName name then (reg.holding other).raise level
      else reg.holding other := by
  induction names generalizing reg with
  | nil => simp
  | cons name names ih =>
    rw [List.foldl_cons, ih, holding_setLevel]
    by_cases hname : keptName other = keptName name
    · simp [hname, Holding.raise_raise]
    · simp [hname]

/-- A name is kept in a registry, under itself or as one that is kept alike, at or below another. -/
def Reaches (reg : Registry) (above name : Text) : Prop :=
  ∃ n ∈ reg.nodes.map Prod.fst, isUnder above n = true ∧ keptName name = keptName n

instance (reg : Registry) (above name : Text) : Decidable (reg.Reaches above name) :=
  inferInstanceAs (Decidable (∃ n ∈ reg.nodes.map Prod.fst,
    isUnder above n = true ∧ keptName name = keptName n))

/-- **Changing levels below a name** raises the holdings of the names that are reached. -/
theorem holding_setLevels {reg' : Registry} {above levelName : Text}
    (hlevel : Level.read? (Text.upper levelName) = some level)
    (h : reg.setLevels above levelName = .ok reg') (name : Text) :
    reg'.holding name =
      if reg.Reaches above name then (reg.holding name).raise level else reg.holding name := by
  unfold setLevels at h
  rw [hlevel] at h
  cases h
  rw [holding_setLevel_all]
  simp only [Reaches, List.mem_filter, and_assoc]
  rfl

/-- A name that holds something, other than that of the root, is reached if it is below. -/
theorem reaches_iff {above : Text} (hroot : keptName name ≠ rootName)
    (hsome : (reg.find? name).isSome) : reg.Reaches above name ↔ isUnder above name = true := by
  constructor
  · rintro ⟨n, -, hunder, heq⟩
    rwa [eq_of_keptName_eq hroot heq.symm] at hunder
  · intro hunder
    obtain ⟨l, hl⟩ := Option.isSome_iff_exists.1 hsome
    obtain ⟨before, after, hnodes, -⟩ :=
      List.lookup_eq_some_iff.1 ((find?_eq_some_iff hroot).1 hl)
    exact ⟨name, by simp [hnodes], hunder, rfl⟩

/-! ### Setting loggers up -/

/-- What a logger is set up to hold. -/
theorem holding_equip (hsome : (reg.find? name).isSome) (hnone : (reg.holding name).handlers = [])
    (level : Level) (file : Option Path) (tree : Tree) (other : Text) :
    ((reg.equip name level file).run.run (reg, tree)).2.1.holding other =
      if keptName other = keptName name then
        (reg.holding other).setUp level file (opened file tree).1
      else reg.holding other := by
  let first (h : Holding) : Holding :=
    { h with level := some level, handlers := (h.relevel level).handlers ++ [⟨.errors, level⟩] }
  have hfirst : ∀ l : Logger, ((l.relevel level).addHandler level .errors).holding =
      first l.holding := fun _ => rfl
  have hother : keptName other = keptName name → (reg.holding other).handlers = [] := by
    intro heq
    rw [holding_congr heq, hnone]
  cases file with
  | none =>
    show ((reg.change name _).change name _).holding other = _
    rw [holding_change (g := fun h => { h with passesOn := false }) (fun _ => rfl)
      (keeps_change _ name hsome), holding_change hfirst hsome]
    split
    case isTrue heq => simp [Holding.setUp, hother heq, opened, targetsOf, first, Holding.relevel]
    case isFalse => rfl
  | some p =>
    unfold equip opened
    dsimp only [ExceptT.run_mk, StateT.run]
    rcases (openFile p).run tree with ⟨f | _, tree'⟩
    · dsimp only
      rw [holding_change hfirst hsome]
      split
      case isTrue heq => simp [Holding.setUp, hother heq, first, Holding.relevel]
      case isFalse => rfl
    · dsimp only
      rw [holding_change (g := fun h => { h with passesOn := false }) (fun _ => rfl)
        (keeps_change _ _ (keeps_change _ name hsome)),
        holding_change (g := fun h => { h with handlers := h.handlers ++ [⟨.file p, level⟩] })
          (fun _ => rfl) (keeps_change _ name hsome), holding_change hfirst hsome]
      split
      case isTrue heq => simp [Holding.setUp, hother heq, targetsOf, first, Holding.relevel]
      case isFalse => rfl

/-- A logger that cannot be set up at a level is made. -/
theorem run_setUp_unknown {levelName : Text} (hlevel : Level.read? levelName = none)
    (name : Text) (file : Option Path) (reg : Registry) (tree : Tree) :
    (setUp name levelName file).run.run (reg, tree) =
      (.error (.unknownLevel levelName), reg.make (keptName name), tree) := by
  unfold setUp
  rw [hlevel]
  rfl

theorem setUp_keptName (name levelName : Text) (file : Option Path) :
    setUp (keptName name) levelName file = setUp name levelName file := by
  unfold setUp
  rw [keptName_keptName]

/-- **Setting a logger up** opens its file if it has no handlers, does nothing else with the files,
and changes the holding of its name and no other. -/
theorem exists_setUp_holding {levelName : Text} (hlevel : Level.read? levelName = some level)
    (name : Text) (file : Option Path) (reg : Registry) (tree : Tree) :
    let opens := if (reg.holding name).handlers.isEmpty then file else none
    ∃ reg', (setUp name levelName file).run.run (reg, tree) =
        ((opened opens tree).1.mapError .system, reg', (opened opens tree).2) ∧
      ∀ other, reg'.holding other =
        if keptName other = keptName name then
          (reg.holding other).setUp level file (opened opens tree).1
        else reg.holding other := by
  intro opens
  have hthere : ((reg.make (keptName name)).find? (keptName name)).isSome := isSome_find?_make
  obtain ⟨l, hl⟩ := Option.isSome_iff_exists.1 hthere
  have hholds : reg.holding name = l.holding := by
    rw [holding_congr (keptName_keptName name).symm, ← holding_make (keptName name), holding, hl]
    rfl
  have hkept (other : Text) : keptName other = keptName (keptName name) ↔
      keptName other = keptName name := by
    rw [keptName_keptName]
  rw [← setUp_keptName, setUp_of_read? hlevel (keptName_keptName name) file hl]
  cases hempty : l.handlers.isEmpty with
  | true =>
    have hopens : opens = file := if_pos (by rw [hholds]; exact hempty)
    have hnone : ((reg.make (keptName name)).holding (keptName name)).handlers = [] := by
      rw [holding, hl]
      exact List.isEmpty_iff.1 hempty
    obtain ⟨reg', hequip⟩ := run_equip (reg.make (keptName name)) (keptName name) level file tree
    have hholding := holding_equip hthere hnone level file tree
    rw [hequip] at hholding
    rw [if_pos rfl, hopens]
    refine ⟨reg', hequip, fun other => ?_⟩
    simpa only [hkept, holding_make] using hholding other
  | false =>
    have hopens : opens = none := if_neg (by rw [hholds]; simpa [Logger.holding] using hempty)
    rw [if_neg Bool.false_ne_true, hopens]
    refine ⟨_, rfl, fun other => ?_⟩
    rw [holding_change (g := Holding.relevel level) (fun _ => rfl) hthere, holding_make]
    simp only [hkept]
    split
    case isTrue heq =>
      rw [holding_congr heq, hholds]
      exact (Holding.setUp_of_ne_nil (by simpa [Logger.holding] using hempty) _ _ _).symm
    case isFalse => rfl

/-- A name that is allowed no level has no handlers. -/
theorem Leveled.handlers_eq_nil {allowed : Text → Level → Prop} (h : Leveled allowed reg)
    (hroot : keptName name ≠ rootName) (hnot : ∀ lv, ¬ allowed name lv) :
    (reg.holding name).handlers = [] := by
  unfold holding
  cases hfind : reg.find? name with
  | none => rfl
  | some l =>
    cases hhandlers : l.handlers with
    | nil => exact hhandlers
    | cons handler others =>
      have hsome : l.handlers ≠ [] := by simp [hhandlers]
      obtain ⟨-, lv, hallowed, -⟩ := h name _ ((find?_eq_some_iff hroot).1 hfind) hsome
      exact absurd hallowed (hnot lv)

theorem exists_writes_of_holding {targets : List Target}
    (h : reg.holding name = ⟨some level, targets.map (⟨·, level⟩), false⟩) :
    ∃ l, reg.find? name = some l ∧ WritesTo level targets l := by
  unfold holding at h
  cases hfind : reg.find? name with
  | none =>
    rw [hfind] at h
    cases h
  | some l =>
    rw [hfind] at h
    exact ⟨l, rfl, congrArg Holding.level h, congrArg Holding.handlers h,
      congrArg Holding.passesOn h⟩

/-- Setting a logger up that has no handlers opens its file, and does nothing else with the files.
When the file can be opened, the logger writes to it and to the error stream then. -/
theorem exists_setUp_writes {levelName : Text} (hlevel : Level.read? levelName = some level)
    (hnone : (reg.holding name).handlers = []) (file : Option Path) (tree : Tree) :
    ∃ reg', (setUp name levelName file).run.run (reg, tree) =
        ((opened file tree).1.mapError .system, reg', (opened file tree).2) ∧
      ((opened file tree).1 = .ok () →
        ∃ l, reg'.find? name = some l ∧ WritesTo level (targetsOf file) l) := by
  obtain ⟨reg', hrun, hholding⟩ := exists_setUp_holding hlevel name file reg tree
  rw [if_pos (List.isEmpty_iff.2 hnone)] at hrun hholding
  refine ⟨reg', hrun, fun hopened => exists_writes_of_holding ?_⟩
  rw [hholding, if_pos rfl, hopened, Holding.setUp_ok hnone]

end Registry

end SnippetBench.Log
