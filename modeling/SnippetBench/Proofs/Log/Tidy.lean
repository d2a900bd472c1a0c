import SnippetBench.Log.Registry
import SnippetBench.Proofs.Except

/-!
# Loggers that keep to themselves

The loggers of the program are leaves: a leaf has handlers and passes no records on, and but for one
of them none of its handlers writes a file. Loggers without handlers and gaps are under inner names
only, the names that leaves stand below. A registry of that kind is tidy (`Tidy`), and it stays so
when leaves are set up, when levels are changed and when records are told. The records of a leaf
that writes no file leave the files as they are (`tell_of_tidy`).
-/

namespace SnippetBench.Log.Registry

open Files (Path Tree)

variable {reg : Registry} {name other : Text} {node : Node}

/-! ### Nodes and loggers -/

theorem lookup_putNode (nodes : List (Text × Node)) :
    (putNode name node nodes).lookup other =
      if other = name then some node else nodes.lookup other := by
  induction nodes with
  | nil =>
    by_cases h : other = name
    · simp [putNode, h]
    · simp [putNode, h, List.lookup_cons, beq_false_of_ne h]
  | cons e rest ih =>
    obtain ⟨n, old⟩ := e
    rw [putNode]
    by_cases hn : n = name
    · subst hn
      by_cases h : other = n
      · simp [h]
      · simp [List.lookup_cons, h, beq_false_of_ne h]
    · rw [if_neg hn]
      by_cases h : other = n
      · subst h
        simp [hn]
      · simp [List.lookup_cons, beq_false_of_ne h, ih]

theorem find?_eq_some_iff (hname : keptName name ≠ rootName) {l : Logger} :
    reg.find? name = some l ↔ reg.nodes.lookup name = some (.logger l) := by
  rw [find?, if_neg hname]
  split <;> simp_all

/-- What holds of the nodes under all names. -/
def All (Q : Text → Node → Prop) (reg : Registry) : Prop :=
  ∀ name node, reg.nodes.lookup name = some node → Q name node

theorem all_empty {Q : Text → Node → Prop} : All Q {} :=
  fun _ _ hnode => by cases hnode

/-- What holds of the node under a name and of all others holds of all. -/
theorem All.of_others {Q : Text → Node → Prop} (h : All (fun n node => n ≠ name → Q n node) reg)
    (hroot : keptName name ≠ rootName) {l : Logger} (hl : reg.find? name = some l)
    (hname : Q name (.logger l)) : All Q reg := by
  intro n node hn
  by_cases heq : n = name
  · subst heq
    cases ((find?_eq_some_iff hroot).1 hl).symm.trans hn
    exact hname
  · exact h n node hn heq

theorem All.put {Q : Text → Node → Prop} (h : All Q reg) (hnode : Q name node) :
    All Q (reg.put name node) := by
  intro n other hn
  rw [Registry.put, lookup_putNode] at hn
  split at hn
  case isTrue heq =>
    cases hn
    exact heq ▸ hnode
  case isFalse => exact h n other hn

theorem All.change {Q : Text → Node → Prop} (h : All Q reg) {f : Logger → Logger}
    (hf : ∀ l, Q name (.logger l) → Q name (.logger (f l))) : All Q (reg.change name f) := by
  unfold Registry.change
  split
  · exact h
  case isFalse hname =>
    split
    case h_1 l hl => exact h.put (hf l (h name _ ((find?_eq_some_iff hname).1 hl)))
    case h_2 => exact h

/-- Loggers that are there are there in another registry. -/
def Keeps (reg reg' : Registry) : Prop := ∀ name, (reg.find? name).isSome → (reg'.find? name).isSome

theorem Keeps.trans {reg' reg'' : Registry} (h : Keeps reg reg') (h' : Keeps reg' reg'') :
    Keeps reg reg'' := fun name hname => h' name (h name hname)

theorem keeps_put_logger (l : Logger) : Keeps reg (reg.put name (.logger l)) := by
  intro n hn
  unfold find? at hn ⊢
  split
  · rfl
  · rw [Registry.put, lookup_putNode]
    by_cases heq : n = name
    · simp [heq]
    · simpa [heq, *] using hn

theorem keeps_put_gap (hname : ∀ l, reg.nodes.lookup name ≠ some (.logger l)) (below : List Text) :
    Keeps reg (reg.put name (.gap below)) := by
  intro n hn
  unfold find? at hn ⊢
  split
  · rfl
  case isFalse hroot =>
    rw [Registry.put, lookup_putNode]
    by_cases heq : n = name
    · subst heq
      rw [if_neg hroot] at hn
      split at hn
      case h_1 l hl => exact absurd hl (hname l)
      case h_2 => cases hn
    · simpa [heq, *] using hn

theorem keeps_change (f : Logger → Logger) : Keeps reg (reg.change name f) := by
  unfold Registry.change
  split
  · intro n hn
    unfold find? at hn ⊢
    split
    · rfl
    · simpa [*] using hn
  · split
    · exact keeps_put_logger _
    · exact fun _ h => h

/-! ### Making loggers -/

/-- A property of nodes that does not depend on what stands above a logger, and that gaps under the
names above a name have. -/
structure IsStable (Q : Text → Node → Prop) (name : Text) : Prop where
  above : ∀ n l above, Q n (.logger l) → Q n (.logger { l with above })
  gap : ∀ n ∈ namesAbove name, ∀ below, Q n (.gap below)

theorem All.noteIn {Q : Text → Node → Prop} (aboves : List Text)
    (hgap : ∀ n ∈ aboves, ∀ below, Q n (.gap below)) (h : All Q reg) :
    All Q (reg.noteIn name aboves).1 := by
  induction aboves generalizing reg with
  | nil => exact h
  | cons above others ih =>
    have hothers := fun n hn => hgap n (.tail _ hn)
    rw [Registry.noteIn]
    split
    · exact h
    · exact ih hothers (h.put (hgap above (.head _) _))
    · exact ih hothers (h.put (hgap above (.head _) _))

theorem keeps_noteIn (aboves : List Text) : Keeps reg (reg.noteIn name aboves).1 := by
  induction aboves generalizing reg with
  | nil => exact fun _ h => h
  | cons above others ih =>
    rw [Registry.noteIn]
    split
    · exact fun _ h => h
    case h_2 heq => exact (keeps_put_gap (by simp [heq]) _).trans ih
    case h_3 heq => exact (keeps_put_gap (by simp [heq]) _).trans ih

theorem All.adopt {Q : Text → Node → Prop} (hQ : ∀ n l above, Q n (.logger l) →
    Q n (.logger { l with above })) (h : All Q reg) (below : Text) :
    All Q (reg.adopt name below) := by
  refine h.change fun l hl => ?_
  split
  · exact hl
  · exact hQ _ _ _ hl

theorem All.adopt_all {Q : Text → Node → Prop} (hQ : ∀ n l above, Q n (.logger l) →
    Q n (.logger { l with above })) (below : List Text) (h : All Q reg) :
    All Q (below.foldl (Registry.adopt name) reg) := by
  induction below generalizing reg with
  | nil => exact h
  | cons b below ih => exact ih (h.adopt hQ b)

theorem keeps_adopt_all (below : List Text) :
    Keeps reg (below.foldl (Registry.adopt name) reg) := by
  induction below generalizing reg with
  | nil => exact fun _ h => h
  | cons b below ih => exact (keeps_change _).trans ih

theorem All.make {Q : Text → Node → Prop} (hQ : IsStable Q name) (h : All Q reg)
    (hname : Q name (.logger { name })) : All Q (reg.make name) := by
  unfold Registry.make
  split
  · exact h
  · exact (((h.put hname).adopt_all hQ.above _).noteIn _ hQ.gap).change
      fun l hl => hQ.above _ _ _ hl

theorem make_of_isSome (h : (reg.find? name).isSome) : reg.make name = reg := by
  rw [Registry.make, if_pos h]

/-- Making a logger is putting it there and then only adding to what is there. -/
theorem keeps_put_make (h : ¬ (reg.find? name).isSome) :
    Keeps (reg.put name (.logger { name })) (reg.make name) := by
  unfold Registry.make
  rw [if_neg h]
  exact (keeps_adopt_all _).trans ((keeps_noteIn _).trans (keeps_change _))

theorem keeps_make : Keeps reg (reg.make name) := by
  by_cases h : (reg.find? name).isSome
  · rw [make_of_isSome h]
    exact fun _ h => h
  · exact (keeps_put_logger _).trans (keeps_put_make h)

theorem isSome_find?_put (l : Logger) : ((reg.put name (.logger l)).find? name).isSome := by
  unfold find?
  split
  · rfl
  · simp [Registry.put, lookup_putNode]

theorem isSome_find?_make : ((reg.make name).find? name).isSome := by
  by_cases h : (reg.find? name).isSome
  · rwa [make_of_isSome h]
  · exact keeps_put_make h name (isSome_find?_put _)

/-! ### Tidy registries -/

section Tidy

variable {inner : List Text} {own : Text} {tree : Tree}

/-- What stands under a name in a tidy registry; `own` is the name of the logger that may write a
file. -/
def IsTidy (inner : List Text) (own : Text) (name : Text) : Node → Prop
  | .gap _ => name ∈ inner
  | .logger l =>
    (l.handlers = [] → name ∈ inner) ∧
      (name ≠ own → l.handlers ≠ [] → l.passesOn = false ∧ ∀ h ∈ l.handlers, h.target = .errors)

/-- A registry of leaves and of inner names. -/
def Tidy (inner : List Text) (own : Text) (reg : Registry) : Prop := All (IsTidy inner own) reg

theorem isTidy_relevel {l : Logger} (h : IsTidy inner own name (.logger l)) (level : Level) :
    IsTidy inner own name (.logger (l.relevel level)) := by
  refine ⟨fun hnone => h.1 (by simpa [Logger.relevel] using hnone), fun hown hsome => ?_⟩
  obtain ⟨hpasses, htargets⟩ := h.2 hown (by simpa [Logger.relevel] using hsome)
  refine ⟨hpasses, fun handler hhandler => ?_⟩
  obtain ⟨old, hold, rfl⟩ := List.mem_map.1 hhandler
  exact htargets old hold

/-- An inner name has only inner names above it. -/
def IsClosed (inner : List Text) : Prop := ∀ n ∈ inner, ∀ above ∈ namesAbove n, above ∈ inner

theorem isStable_isTidy (habove : ∀ n ∈ namesAbove name, n ∈ inner) :
    IsStable (IsTidy inner own) name :=
  ⟨fun _ _ _ h => h, fun n hn _ => habove n hn⟩

theorem Tidy.setLevel (hinner : IsClosed inner) (h : Tidy inner own reg)
    (hname : name ∈ inner ∨ (reg.find? name).isSome) (level : Level) :
    Tidy inner own (reg.setLevel level name) := by
  have hmade : Tidy inner own (reg.make name) := by
    rcases hname with hname | hname
    · exact All.make (isStable_isTidy (hinner name hname)) h
        ⟨fun _ => hname, fun _ hsome => absurd rfl hsome⟩
    · rwa [make_of_isSome hname]
  refine All.change hmade fun l hl => ?_
  split
  · exact hl
  · exact isTidy_relevel hl level

theorem keeps_setLevel (level : Level) : Keeps reg (reg.setLevel level name) :=
  keeps_make.trans (keeps_change _)

theorem Tidy.setLevel_all (hinner : IsClosed inner) (level : Level) (names : List Text)
    (hnames : ∀ name ∈ names, name ∈ inner ∨ (reg.find? name).isSome) (h : Tidy inner own reg) :
    Tidy inner own (names.foldl (Registry.setLevel level) reg) ∧
      Keeps reg (names.foldl (Registry.setLevel level) reg) := by
  induction names generalizing reg with
  | nil => exact ⟨h, fun _ h => h⟩
  | cons n names ih =>
    have hkeeps : Keeps reg (reg.setLevel level n) := keeps_setLevel level
    have hrest : ∀ name ∈ names, name ∈ inner ∨ ((reg.setLevel level n).find? name).isSome :=
      fun name hname => (hnames name (.tail _ hname)).imp_right (hkeeps name)
    obtain ⟨htidy, hkept⟩ := ih hrest (h.setLevel hinner (hnames n (.head _)) level)
    exact ⟨htidy, hkeeps.trans hkept⟩

/-- A name in a tidy registry is an inner one or that of a logger. -/
theorem Tidy.inner_or_isSome (h : Tidy inner own reg) (hname : name ∈ reg.nodes.map Prod.fst) :
    name ∈ inner ∨ (reg.find? name).isSome := by
  unfold find?
  split
  · exact .inr rfl
  cases hnode : reg.nodes.lookup name with
  | none =>
    obtain ⟨e, he, rfl⟩ := List.mem_map.1 hname
    exact absurd (List.lookup_eq_none_iff.1 hnode e he) (by simp)
  | some node =>
    cases node with
    | gap below => exact .inl (h name _ hnode)
    | logger l => exact .inr rfl

theorem Tidy.setLevels (hinner : IsClosed inner) (h : Tidy inner own reg) {above levelName : Text}
    {reg' : Registry} (hset : reg.setLevels above levelName = .ok reg') :
    Tidy inner own reg' ∧ Keeps reg reg' := by
  unfold Registry.setLevels at hset
  split at hset
  · cases hset
  · cases hset
    exact h.setLevel_all hinner _ _ fun name hname =>
      h.inner_or_isSome (List.mem_filter.1 hname).1

/-! ### Setting leaves up -/

/-- A name for a logger that is neither the root nor an inner one. -/
structure IsLeaf (inner : List Text) (name : Text) : Prop where
  kept : keptName name = name
  notRoot : name ≠ rootName
  notInner : name ∉ inner
  above : ∀ n ∈ namesAbove name, n ∈ inner

theorem isLeaf_iff : IsLeaf inner name ↔ keptName name = name ∧ name ≠ rootName ∧
    name ∉ inner ∧ ∀ n ∈ namesAbove name, n ∈ inner :=
  ⟨fun h => ⟨h.kept, h.notRoot, h.notInner, h.above⟩,
    fun ⟨kept, notRoot, notInner, above⟩ => ⟨kept, notRoot, notInner, above⟩⟩

theorem IsLeaf.keptName_ne (h : IsLeaf inner name) : keptName name ≠ rootName := by
  rw [h.kept]
  exact h.notRoot

theorem find?_change_self (hname : keptName name ≠ rootName) {l : Logger}
    (h : reg.find? name = some l) (f : Logger → Logger) :
    (reg.change name f).find? name = some (f l) := by
  unfold Registry.change
  rw [if_neg hname, h, find?_eq_some_iff hname]
  dsimp only [Registry.put]
  rw [lookup_putNode, if_pos rfl]

/-- All nodes but the one under a name are tidy. -/
def OthersTidy (inner : List Text) (own name : Text) (reg : Registry) : Prop :=
  All (fun n node => n ≠ name → IsTidy inner own n node) reg

theorem OthersTidy.change (h : OthersTidy inner own name reg) (f : Logger → Logger) :
    OthersTidy inner own name (reg.change name f) :=
  All.change h fun _ _ hne => absurd rfl hne

theorem OthersTidy.tidy (h : OthersTidy inner own name reg) (hname : keptName name ≠ rootName)
    {l : Logger} (hl : reg.find? name = some l) (hlogger : IsTidy inner own name (.logger l)) :
    Tidy inner own reg :=
  h.of_others hname hl hlogger

/-- A leaf that is made leaves everything else tidy. -/
theorem Tidy.make_leaf (hleaf : IsLeaf inner name) (h : Tidy inner own reg) :
    OthersTidy inner own name (reg.make name) := by
  have hstable : IsStable (fun n node => n ≠ name → IsTidy inner own n node) name :=
    ⟨fun n l above hl hne => hl hne, fun n hn _ _ => hleaf.above n hn⟩
  exact All.make hstable (fun n node hn _ => h n node hn) fun hne => absurd rfl hne

/-- A logger without handlers is given some. Only the one that may write a file is given a file. -/
theorem tidy_equip (hname : keptName name ≠ rootName) {l : Logger} (hl : reg.find? name = some l)
    (hnone : l.handlers = []) (h : OthersTidy inner own name reg) (level : Level)
    {file : Option Path} (hfile : file = none ∨ name = own) (tree : Tree) :
    let out := (reg.equip name level file).run.run (reg, tree)
    Tidy inner own out.2.1 ∧ Keeps reg out.2.1 ∧
      (file = none → out.1 = .ok () ∧ out.2.2 = tree) := by
  have hfirst := find?_change_self hname hl fun l => (l.relevel level).addHandler level .errors
  have hothers := h.change fun l => (l.relevel level).addHandler level .errors
  intro out
  cases file with
  | none =>
    refine ⟨(hothers.change _).tidy hname (find?_change_self hname hfirst _) ?_,
      (keeps_change _).trans (keeps_change _), fun _ => ⟨rfl, rfl⟩⟩
    simp [IsTidy, Logger.addHandler, Logger.relevel, hnone]
  | some p =>
    obtain rfl : name = own := by simpa using hfile
    have htidy {l : Logger} (hl : l.handlers ≠ []) : IsTidy inner name name (.logger l) :=
      ⟨fun hnone => absurd hnone hl, fun hne => absurd rfl hne⟩
    simp only [out]
    unfold equip
    dsimp only [ExceptT.run_mk, StateT.run]
    cases hopen : (openFile p).run tree with
    | mk result tree' =>
      cases result with
      | ok _ =>
        have hsecond := find?_change_self hname hfirst (·.addHandler level (.file p))
        refine ⟨((hothers.change _).change _).tidy hname (find?_change_self hname hsecond _)
          (htidy ?_), ((keeps_change _).trans (keeps_change _)).trans (keeps_change _), by simp⟩
        simp [Logger.addHandler]
      | error f =>
        refine ⟨hothers.tidy hname hfirst (htidy ?_), keeps_change _, by simp⟩
        simp [Logger.addHandler]

/-- A logger has no handlers when it is made. -/
theorem handlers_of_make (hname : keptName name ≠ rootName) (h : ¬ (reg.find? name).isSome)
    {l : Logger} (hl : (reg.make name).find? name = some l) : l.handlers = [] := by
  have hstable : IsStable (fun n node => n = name → ∀ l, node = .logger l → l.handlers = []) name :=
    ⟨fun n l above hl hn _ heq => by cases heq; exact hl hn l rfl,
      fun _ _ _ _ _ heq => by cases heq⟩
  have hnone : All (fun n node => n = name → ∀ l, node = .logger l → l.handlers = []) reg := by
    rintro n node hnode rfl l rfl
    exact absurd (by rw [(find?_eq_some_iff hname).2 hnode]; rfl) h
  exact All.make hstable hnone (fun _ l heq => by cases heq; rfl) name _
    ((find?_eq_some_iff hname).1 hl) rfl l rfl

/-- How a leaf is set up at a known level. -/
theorem setUp_of_read? {levelName : Text} {level : Level}
    (hlevel : Level.read? levelName = some level) (hkept : keptName name = name)
    (file : Option Path) {l : Logger} (hl : (reg.make name).find? name = some l) (tree : Tree) :
    (setUp name levelName file).run.run (reg, tree) =
      if l.handlers.isEmpty then
        ((reg.make name).equip name level file).run.run (reg.make name, tree)
      else (.ok (), (reg.make name).change name (·.relevel level), tree) := by
  unfold setUp
  rw [hlevel]
  dsimp only
  rw [run_modify_bind, run_get_bind]
  dsimp only
  rw [hkept, hl]
  dsimp only
  split <;> rfl

/-- Setting a leaf up keeps the registry tidy, and the leaf is there then. A leaf without a file is
set up without touching the files. -/
theorem tidy_setUp (hleaf : IsLeaf inner name) (h : Tidy inner own reg) {levelName : Text}
    {file : Option Path} (hfile : file = none ∨ name = own) (tree : Tree) :
    let out := (setUp name levelName file).run.run (reg, tree)
    (∀ level, Level.read? levelName = some level →
      Tidy inner own out.2.1 ∧ Keeps reg out.2.1 ∧ (out.2.1.find? name).isSome ∧
        (file = none → out.1 = .ok () ∧ out.2.2 = tree)) := by
  intro out level hlevel
  have hmade : ((reg.make name).find? name).isSome := isSome_find?_make
  obtain ⟨l, hl⟩ := Option.isSome_iff_exists.1 hmade
  have hothers := h.make_leaf hleaf
  simp only [out]
  rw [setUp_of_read? hlevel hleaf.kept file hl]
  split
  case isTrue hnone =>
    obtain ⟨htidy, hkeeps, hplain⟩ := tidy_equip hleaf.keptName_ne hl (by simpa using hnone)
      hothers level hfile tree
    exact ⟨htidy, keeps_make.trans hkeeps, hkeeps name isSome_find?_make, hplain⟩
  case isFalse hsome =>
    have hmade : Tidy inner own (reg.make name) := by
      by_cases hthere : (reg.find? name).isSome
      · rwa [make_of_isSome hthere]
      · exact absurd (handlers_of_make hleaf.keptName_ne hthere hl) (by simpa using hsome)
    refine ⟨All.change hmade fun l hl => isTidy_relevel hl level, keeps_make.trans (keeps_change _),
      keeps_change _ name isSome_find?_make, fun _ => ⟨rfl, rfl⟩⟩

/-- A logger that writes the records from a level on to the error stream, and passes none on. -/
structure WritesErrors (least : Level) (l : Logger) : Prop where
  level : l.level = some least
  handlers : l.handlers = [⟨.errors, least⟩]
  passesOn : l.passesOn = false

/-- A leaf that is new writes to the error stream once it is set up. -/
theorem writesErrors_setUp (hleaf : IsLeaf inner name) (hnew : ¬ (reg.find? name).isSome)
    {levelName : Text} {level : Level} (hlevel : Level.read? levelName = some level) (tree : Tree) :
    ∃ l, ((setUp name levelName none).run.run (reg, tree)).2.1.find? name = some l ∧
      WritesErrors level l := by
  have hmade : ((reg.make name).find? name).isSome := isSome_find?_make
  obtain ⟨l, hl⟩ := Option.isSome_iff_exists.1 hmade
  have hnone : l.handlers = [] := handlers_of_make hleaf.keptName_ne hnew hl
  have hequipped := find?_change_self hleaf.keptName_ne hl fun l =>
    (l.relevel level).addHandler level .errors
  rw [setUp_of_read? hlevel hleaf.kept none hl, if_pos (by rw [hnone]; rfl)]
  refine ⟨_, find?_change_self hleaf.keptName_ne hequipped _, rfl, ?_, rfl⟩
  rw [Logger.addHandler, Logger.relevel, hnone]
  rfl

/-- Only a level that is known can be given to a logger. -/
theorem exists_level_of_setUp {levelName : Text} {file : Option Path}
    (h : ((setUp name levelName file).run.run (reg, tree)).1 = .ok ()) :
    ∃ level, Level.read? levelName = some level := by
  cases hlevel : Level.read? levelName with
  | some level => exact ⟨level, rfl⟩
  | none =>
    unfold setUp at h
    rw [hlevel] at h
    cases h

/-- A leaf that is set up is there then, and the registry is still tidy. -/
theorem tidy_of_setUp (hleaf : IsLeaf inner name) (h : Tidy inner own reg) {levelName : Text}
    {file : Option Path} (hfile : file = none ∨ name = own) {after : Registry × Tree}
    (hok : (setUp name levelName file).run.run (reg, tree) = (.ok (), after)) :
    Tidy inner own after.1 ∧ Keeps reg after.1 ∧ (after.1.find? name).isSome := by
  obtain ⟨level, hlevel⟩ := exists_level_of_setUp (congrArg Prod.fst hok)
  obtain ⟨htidy, hkeeps, hthere, -⟩ := tidy_setUp hleaf h hfile tree level hlevel
  rw [hok] at htidy hkeeps hthere
  exact ⟨htidy, hkeeps, hthere⟩

/-! ### Telling records -/

theorem record_errors (time : Text) (r : Record) (targets : List Target)
    (h : ∀ target ∈ targets, target = .errors) (tree : Tree) :
    ((record time r targets).run tree).2 = tree := by
  induction targets with
  | nil => rfl
  | cons target targets ih =>
    obtain rfl := h target (.head _)
    have hstep : record time r (.errors :: targets) = record time r targets := by
      unfold record
      rw [List.forIn_cons]
      rfl
    rw [hstep]
    exact ih fun t ht => h t (.tail _ ht)

/-- A record comes to no other logger when its own passes none on. -/
theorem reached_chain (hname : keptName name ≠ rootName) {l : Logger}
    (hl : reg.find? name = some l) (hpasses : l.passesOn = false) :
    reached (reg.chain name) = [l] := by
  rw [chain, upward, hl]
  dsimp only
  rw [if_neg hname, reached, hpasses]
  rfl

/-- A leaf of a tidy registry has handlers. -/
theorem Tidy.handlers_ne_nil (h : Tidy inner own reg) (hleaf : IsLeaf inner name) {l : Logger}
    (hl : reg.find? name = some l) : l.handlers ≠ [] :=
  fun hnone => hleaf.notInner ((h name _ ((find?_eq_some_iff hleaf.keptName_ne).1 hl)).1 hnone)

/-- The records of a leaf that writes no file go to the error stream only. -/
theorem targets_of_tidy (h : Tidy inner own reg) {r : Record} (hleaf : IsLeaf inner r.logger)
    (hown : r.logger ≠ own) (hfind : (reg.find? r.logger).isSome) :
    ∀ target ∈ reg.targets r, target = .errors := by
  obtain ⟨l, hl⟩ := Option.isSome_iff_exists.1 hfind
  obtain ⟨-, hhandlers⟩ := h r.logger _ ((find?_eq_some_iff hleaf.keptName_ne).1 hl)
  have hsome := h.handlers_ne_nil hleaf hl
  obtain ⟨hpasses, htargets⟩ := hhandlers hown hsome
  intro target htarget
  rw [targets, reached_chain hleaf.keptName_ne hl hpasses, List.flatMap_singleton] at htarget
  split at htarget
  case h_1 hnone => exact absurd hnone hsome
  case h_2 =>
    obtain ⟨handler, hmem, rfl⟩ := List.mem_map.1 htarget
    exact htargets handler (List.mem_filter.1 hmem).1

/-- A logger that is there is not made again when it tells a record. -/
theorem registry_tell (time : Text) {r : Record} (hfind : (reg.find? r.logger).isSome)
    (tree : Tree) : ((tell time r).run.run (reg, tree)).2.1 = reg := by
  unfold tell
  simp only [ExceptT.run_mk, StateT.run, make_of_isSome hfind]
  split
  · rfl
  · split <;> rfl

/-- The records of a leaf that writes no file leave the files as they are. -/
theorem tell_of_tidy (time : Text) (h : Tidy inner own reg) {r : Record}
    (hleaf : IsLeaf inner r.logger) (hown : r.logger ≠ own)
    (hfind : (reg.find? r.logger).isSome) (tree : Tree) :
    ((tell time r).run.run (reg, tree)).2 = (reg, tree) := by
  refine Prod.ext (registry_tell time hfind tree) ?_
  unfold tell
  simp only [ExceptT.run_mk, StateT.run, make_of_isSome hfind]
  split
  · rfl
  · split
    · rfl
    · exact record_errors time r _ (targets_of_tidy h hleaf hown hfind) tree

/-- A record of a logger whose handlers have its level goes to all of them if it reaches the level,
and to none otherwise. -/
theorem run_tell_of_level (time : Text) {r : Record} {level : Level} {l : Logger}
    (hroot : keptName r.logger ≠ rootName) (hl : reg.find? r.logger = some l)
    (hpasses : l.passesOn = false) (hsome : l.handlers ≠ []) (hlevel : l.level = some level)
    (hhandlers : ∀ h ∈ l.handlers, h.level = level) (hr : r.reserved? = none) (tree : Tree) :
    (Log.tell time r).run.run (reg, tree) =
      if level.severity ≤ r.level.severity then
        (.ok (l.handlers.map (·.target)), reg,
          ((record time r (l.handlers.map (·.target))).run tree).2)
      else (.ok [], reg, tree) := by
  have hlevelOf : reg.levelOf r.logger = level := by
    rw [levelOf, chain, upward, hl]
    dsimp only
    rw [if_neg hroot, List.findSome?_cons, hlevel]
    rfl
  have henabled : reg.isEnabled r = decide (level.severity ≤ r.level.severity) := by
    rw [isEnabled, hlevelOf]
  have hthere : (reg.find? r.logger).isSome := by rw [hl]; rfl
  unfold Log.tell
  simp only [ExceptT.run_mk, StateT.run, make_of_isSome hthere, henabled, hr]
  by_cases h : level.severity ≤ r.level.severity
  · have htargets : reg.targets r = l.handlers.map (·.target) := by
      have hall : l.handlers.filter (fun h => decide (h.level.severity ≤ r.level.severity)) =
          l.handlers := List.filter_eq_self.2 fun handler hhandler => by
        rw [hhandlers handler hhandler]
        simpa using h
      rw [targets, reached_chain hroot hl hpasses, List.flatMap_singleton]
      split
      case h_1 hnone => exact absurd hnone hsome
      case h_2 => rw [hall]
    simp only [h, decide_true, Bool.not_true, Bool.false_eq_true, if_false, if_true, htargets]
  · simp only [h, decide_false, Bool.not_false, if_true, if_false]

/-- A record of a logger that writes to the error stream goes there exactly if its level counts. -/
theorem tell_of_writesErrors (time : Text) {r : Record} {level : Level} {l : Logger}
    (hname : keptName r.logger ≠ rootName) (hl : reg.find? r.logger = some l)
    (hwrites : WritesErrors level l) (hr : r.reserved? = none) (tree : Tree) :
    (tell time r).run.run (reg, tree) =
      (.ok (if level.severity ≤ r.level.severity then [.errors] else []), reg, tree) := by
  have hsome : l.handlers ≠ [] := by simp [hwrites.handlers]
  have hhandlers : ∀ h ∈ l.handlers, h.level = level := by simp [hwrites.handlers]
  rw [run_tell_of_level time hname hl hwrites.passesOn hsome hwrites.level hhandlers hr]
  split
  · rw [hwrites.handlers]
    rfl
  · rfl

end Tidy

end SnippetBench.Log.Registry
