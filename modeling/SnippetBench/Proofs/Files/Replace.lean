import SnippetBench.Files.Replace
import SnippetBench.Proofs.Except
import SnippetBench.Proofs.Files.Tree
import SnippetBench.Proofs.Text.Join

/-!
# Putting a file into a directory

Where the directory of a path is there, replacing the content of the file puts the file where the
path leads, or fails and leaves the tree as it was: the temporary file is gone in the end, and no
directory is made (`run_replace_of_target`). Whether the file can be replaced, and why not, is the
same in all trees that are the same but for locations other than those of temporary files.
-/

namespace SnippetBench.Files

open SnippetBench.Files.Tree

/-! ### The directory of a path -/

/-- The directory above a path is there. -/
structure InDirectory (tree : Tree) (p : Path) (dir : Location) : Prop where
  walk : tree.walk (tree.start p.root) p.names.dropLast = .ok dir
  isDirectory : tree.find? dir = some .directory
  follows : refusal? p.parent.toText = none

variable {tree tree' : Tree} {p : Path} {dir place : Location}

theorem walk_append (place : Location) (names others : List Text) :
    tree.walk place (names ++ others) =
      (tree.walk place names >>= fun place => tree.walk place others) := by
  induction names generalizing place with
  | nil => rfl
  | cons name names ih =>
    rw [List.cons_append, Tree.walk, Tree.walk]
    cases tree.find? place with
    | none => rfl
    | some entry =>
      cases entry with
      | file bytes => rfl
      | directory =>
        dsimp only
        split
        · exact ih _
        split
        · exact ih _
        split
        · rfl
        · exact ih _

/-- The location that a name leads to from a directory. -/
theorem walk_singleton_ok {name : Text} (h : tree.walk place [name] = .ok dir) :
    tree.find? place = some .directory := by
  rw [Tree.walk] at h
  cases hfind : tree.find? place with
  | none => simp [hfind] at h
  | some entry =>
    cases entry with
    | file bytes => simp [hfind] at h
    | directory => rfl

theorem encode_append (t u : Text) :
    Text.Utf8.encode (t ++ u) = Text.Utf8.encode t ++ Text.Utf8.encode u := by
  simp [Text.Utf8.encode]

/-- The text of the path above is the start of the text of a path, unless it is the dot. -/
theorem toText_parent (hnames : p.names ≠ []) :
    p.parent.toText = ['.'] ∨ p.parent.toText <+: p.toText := by
  obtain ⟨root, names⟩ := p
  obtain ⟨init, last, rfl⟩ : ∃ init last, names = init ++ [last] :=
    ⟨names.dropLast, names.getLast hnames, (List.dropLast_append_getLast hnames).symm⟩
  cases init with
  | nil => cases root <;> simp [Path.parent, Path.toText, Root.toText, Text.join]
  | cons first init =>
    right
    have hjoin : Text.join ['/'] (first :: init ++ [last]) =
        Text.join ['/'] (first :: init) ++ '/' :: last := by
      rw [List.cons_append, Text.join_cons, Text.join_cons, List.flatMap_append]
      simp
    simp only [Path.parent, Path.toText, List.dropLast_concat]
    rw [if_neg (by simp), if_neg (by simp), hjoin, ← List.append_assoc]
    exact List.prefix_append _ _

theorem refusal?_parent (hnames : p.names ≠ []) (h : refusal? p.toText = none) :
    refusal? p.parent.toText = none := by
  rcases toText_parent hnames with hdot | ⟨rest, hrest⟩
  · rw [hdot]
    decide
  · unfold refusal? at h ⊢
    rw [← hrest, encode_append] at h
    simp only [List.length_append] at h
    grind

/-- The directory of a document is there. -/
theorem exists_inDirectory (hnames : p.names ≠ []) (h : tree.locate p = .ok place) :
    ∃ dir, InDirectory tree p dir := by
  obtain ⟨hfollows, hwalk⟩ := locate_eq_ok_iff.1 h
  have hsplit : p.names = p.names.dropLast ++ [p.names.getLast hnames] :=
    (List.dropLast_append_getLast hnames).symm
  rw [hsplit, walk_append] at hwalk
  cases hdir : tree.walk (tree.start p.root) p.names.dropLast with
  | error f => simp [hdir, bind, Except.bind] at hwalk
  | ok dir =>
    rw [hdir] at hwalk
    exact ⟨dir, hdir, walk_singleton_ok hwalk, refusal?_parent hnames hfollows⟩

/-- Trees that are the same but for some locations have the same directories above a path. -/
theorem InDirectory.of_sameBut {P : Location → Prop} (h : InDirectory tree p dir)
    (hsame : SameBut P tree tree') : InDirectory tree' p dir := by
  have hwalk := hsame.walk (tree.start p.root) p.names.dropLast
  refine ⟨?_, (hsame.directory dir).2 h.isDirectory, h.follows⟩
  rw [hsame.start_eq]
  rw [h.walk] at hwalk
  generalize tree'.walk (tree.start p.root) p.names.dropLast = result at hwalk ⊢
  cases hwalk
  rfl

/-- Where a name in a directory leads does not depend on what stands there. -/
theorem InDirectory.locate_eq {P : Location → Prop} (h : InDirectory tree p dir)
    (hnames : p.names ≠ []) (hsame : SameBut P tree tree') : tree'.locate p = tree.locate p := by
  have h' := h.of_sameBut hsame
  have hsplit : p.names = p.names.dropLast ++ [p.names.getLast hnames] :=
    (List.dropLast_append_getLast hnames).symm
  unfold locate
  split
  · rfl
  · rw [hsplit, walk_append, walk_append, h.walk, h'.walk]
    show tree'.walk dir _ = tree.walk dir _
    simp only [Tree.walk, h.isDirectory, h'.isDirectory]

theorem InDirectory.locate_parent (h : InDirectory tree p dir) :
    tree.locate p.parent = .ok dir := by
  unfold locate
  rw [h.follows]
  exact h.walk

theorem InDirectory.withName (h : InDirectory tree p dir) (name : Text) :
    InDirectory tree (p.withName name) dir := by
  obtain ⟨hwalk, hdirectory, hfollows⟩ := h
  have hparent : (p.withName name).parent = p.parent := by
    simp [Path.parent, Path.withName]
  exact ⟨by simpa [Path.withName] using hwalk, hdirectory, by rwa [hparent]⟩

/-- A path with a name in a directory is followed from there. -/
theorem InDirectory.walk_of_locate (h : InDirectory tree p dir) {name : Text}
    (hlocate : tree.locate (p.withName name) = .ok place) : tree.walk dir [name] = .ok place := by
  have hdir : tree.walk (tree.start p.root) p.names.dropLast = .ok dir := h.walk
  have hwalk := (locate_eq_ok_iff.1 hlocate).2
  simpa [Path.withName, walk_append, hdir, bind, Except.bind] using hwalk

theorem InDirectory.eq_of_locate (h : InDirectory tree p dir) {name : Text}
    (hdot : name ≠ ['.'] ∧ name ≠ ['.', '.'])
    (hlocate : tree.locate (p.withName name) = .ok place) : place = dir ++ [name] := by
  have hwalk := h.walk_of_locate hlocate
  simp only [Tree.walk, h.isDirectory, hdot.1, hdot.2, if_false] at hwalk
  split at hwalk
  · cases hwalk
  · cases hwalk
    rfl

/-- The refusal of a stage, if it is refused. -/
def Refusals.check (refusals : Refusals) (stage : Stage) : Except Failure Unit :=
  match refusals.why? stage with
  | .some f => .error f
  | .none => .ok ()

namespace Action

variable {α β : Type}

/-! ### Running actions -/

theorem run_tryCatch_ok {act : Action α} {handler : Failure → Action α} {a : α}
    (h : act.run.run tree = (.ok a, tree')) :
    (tryCatch act handler).run.run tree = (.ok a, tree') := by
  rw [ExceptT.run_tryCatch, StateT.run_bind, h]
  rfl

theorem run_tryCatch_error {act : Action α} {handler : Failure → Action α} {failure : Failure}
    (h : act.run.run tree = (.error failure, tree')) :
    (tryCatch act handler).run.run tree = (handler failure).run.run tree' := by
  rw [ExceptT.run_tryCatch, StateT.run_bind, h]
  rfl

theorem run_attempt_bind (refusals : Refusals) (stage : Stage) (act : Action β) :
    (attempt refusals stage >>= fun _ => act).run.run tree =
      match refusals.check stage with
      | .error f => (.error f, tree)
      | .ok () => act.run.run tree := by
  unfold attempt Refusals.check
  cases refusals.why? stage <;> rfl

theorem run_ask (question : Tree → Except Failure α) :
    (ask question).run.run tree = (question tree, tree) := by
  unfold ask
  rw [run_get_bind]
  cases question tree <;> rfl

/-- Nothing is made on a way that leads to something that is there. -/
theorem run_ensureFrom_append {names : List Text} {goal : Location} {entry : Entry}
    (h : tree.walk place names = .ok goal) (hgoal : tree.find? goal = some entry)
    (rest : List Text) :
    (ensureFrom place (names ++ rest)).run.run tree = (ensureFrom goal rest).run.run tree := by
  induction names generalizing place with
  | nil =>
    cases h
    rfl
  | cons name names ih =>
    rw [← List.singleton_append, walk_append] at h
    cases hnext : tree.walk place [name] with
    | error f => simp [hnext, bind, Except.bind] at h
    | ok next =>
      rw [hnext] at h
      have hthere : (tree.find? next).isNone = false := by
        cases names with
        | nil =>
          cases h
          rw [hgoal]
          rfl
        | cons name' names =>
          have h : tree.walk next (name' :: names) = .ok goal := h
          rw [Tree.walk] at h
          cases hfind : tree.find? next with
          | none => simp [hfind] at h
          | some entry => rfl
      rw [List.cons_append, ensureFrom, run_bind_ok ((run_ask _).trans (by rw [hnext])),
        run_get_bind, hthere]
      exact ih h

/-- No directory can be made below a file. -/
theorem exists_ensureFrom_of_file {bytes : List UInt8} (h : tree.find? place = some (.file bytes))
    (names : List Text) : ∃ f, (ensureFrom place names).run.run tree = (.error f, tree) := by
  cases names with
  | nil =>
    rw [ensureFrom, run_get_bind, h]
    exact ⟨_, rfl⟩
  | cons name names =>
    have hask : (ask fun tree => tree.walk place [name]).run.run tree =
        (.error .notDirectory, tree) := by
      rw [run_ask, Tree.walk, h]
    rw [ensureFrom, run_bind_error hask]
    exact ⟨_, rfl⟩

theorem run_ensureFrom {names : List Text} (h : tree.walk place names = .ok dir)
    (hdir : tree.find? dir = some .directory) :
    (ensureFrom place names).run.run tree = (.ok (), tree) := by
  have hrun := run_ensureFrom_append h hdir []
  rw [List.append_nil] at hrun
  rw [hrun, ensureFrom, run_get_bind, hdir]
  rfl

theorem run_ensureDirectories (h : InDirectory tree p dir) :
    (ensureDirectories p.parent).run.run tree = (.ok (), tree) := by
  unfold ensureDirectories
  rw [h.follows, run_get_bind]
  exact run_ensureFrom h.walk h.isDirectory

/-! ### Files that are there -/

section File

variable {bytes : List UInt8} (hlocate : tree.locate p = .ok place)
  (hfile : tree.find? place = some (.file bytes))

include hlocate hfile

theorem run_readBytes : (readBytes p).run.run tree = (.ok bytes, tree) := by
  have hentry : tree.entryAt p = .ok (.file bytes) := by
    unfold entryAt
    rw [hlocate]
    simp only [bind, Except.bind, hfile]
  unfold readBytes
  rw [run_bind_ok ((run_ask _).trans (by rw [hentry]))]
  rfl

theorem run_changeBytes (change : List UInt8 → List UInt8) :
    (changeBytes p change).run.run tree = (.ok (), tree.put place (.file (change bytes))) := by
  unfold changeBytes
  rw [run_bind_ok ((run_ask _).trans (by rw [hlocate])), run_get_bind, hfile]
  rfl

theorem contains_of_file : tree.contains p = .ok true := by
  unfold Tree.contains holds entryAt
  rw [hlocate]
  simp only [bind, Except.bind, hfile]

theorem run_remove : (remove p).run.run tree = (.ok (), tree.erase place) := by
  unfold remove
  rw [run_bind_ok ((run_ask _).trans (by rw [hlocate])), run_get_bind, hfile]
  rfl

theorem run_discard : (discard p).run.run tree = (.ok (), tree.erase place) := by
  unfold discard
  rw [run_bind_ok ((run_ask _).trans (by rw [contains_of_file hlocate hfile])), if_pos rfl]
  exact run_remove hlocate hfile

theorem run_delete : (delete p).run.run tree = (.ok true, tree.erase place) := by
  unfold delete
  rw [run_bind_ok ((run_ask _).trans (by rw [contains_of_file hlocate hfile])), if_pos rfl,
    run_bind_ok (run_remove hlocate hfile)]
  rfl

end File

/-- Where a file can be put in place of another, or why not. -/
def targetOf (tree : Tree) (target : Path) : Except Failure Location :=
  match tree.locate target with
  | .error f => .error f
  | .ok place =>
    if !endsInName target then .error .busy
    else if tree.find? place = some .directory then .error .isDirectory
    else .ok place

theorem run_move {source target : Path} {origin : Location}
    (hsource : tree.locate source = .ok origin) {bytes : List UInt8}
    (hfile : tree.find? origin = some (.file bytes)) :
    (move source target).run.run tree =
      match targetOf tree target with
      | .error f => (.error f, tree)
      | .ok place => (.ok (), (tree.erase origin).put place (.file bytes)) := by
  unfold move targetOf
  rw [run_bind_ok ((run_ask _).trans (by rw [hsource]))]
  cases htarget : tree.locate target with
  | error f => rw [run_bind_error ((run_ask _).trans (by rw [htarget]))]
  | ok place =>
    rw [run_bind_ok ((run_ask _).trans (by rw [htarget]))]
    dsimp only
    cases hname : (!endsInName target) with
    | true => rfl
    | false =>
      simp only [Bool.false_eq_true, if_false]
      rw [run_get_bind, run_get_bind, hfile]
      rcases tree.find? place with _ | entry
      · rfl
      · cases entry <;> rfl

/-! ### Replacing -/

theorem run_createTemporary (h : InDirectory tree p dir) :
    (createTemporary p.parent).run.run tree =
      match freeName? tree dir with
      | none => (.error .alreadyThere, tree)
      | some name =>
        match tree.locate (p.withName name) with
        | .error f => (.error f, tree)
        | .ok place => (.ok (p.withName name), tree.put place (.file [])) := by
  unfold createTemporary
  rw [run_bind_ok ((run_ask _).trans (by rw [h.locate_parent])), run_get_bind]
  cases freeName? tree dir with
  | none => rfl
  | some name =>
    dsimp only
    change ((ask fun tree => tree.locate (p.withName name)) >>= _).run.run tree = _
    cases hlocate : tree.locate (p.withName name) with
    | error f => exact run_bind_error ((run_ask _).trans (by rw [hlocate]))
    | ok place =>
      rw [run_bind_ok ((run_ask _).trans (by rw [hlocate]))]
      rfl

/-- Where a file comes to stand from a temporary file, when the stages from writing on are done, or
why it does not. -/
def moveTarget (refusals : Refusals) (tree : Tree) (target : Path) : Except Failure Location := do
  refusals.check .write
  refusals.check .flush
  refusals.check .close
  refusals.check .move
  targetOf tree target

/-- Filling a temporary file and moving it. -/
theorem run_fill {temporary : Path} (hlocate : tree.locate temporary = .ok place)
    {old : List UInt8} (hfile : tree.find? place = some (.file old)) (refusals : Refusals)
    (bytes : List UInt8) (target : Path) :
    ∃ part, (fill refusals temporary target bytes).run.run tree =
      match moveTarget refusals (tree.put place (.file bytes)) target with
      | .error f => (.error f, tree.put place (.file part))
      | .ok goal =>
        (.ok (), ((tree.put place (.file bytes)).erase place).put goal (.file bytes)) := by
  have hplace : tree.find? place ≠ some .directory := by simp [hfile]
  have hne : place ≠ [] := fun h => hplace (h ▸ find?_nil)
  have hthere (content : List UInt8) :
      (tree.put place (.file content)).locate temporary = .ok place ∧
        (tree.put place (.file content)).find? place = some (.file content) :=
    ⟨(sameBut_put hplace content).locate_eq_ok hlocate, by rw [find?_put hne, if_pos rfl]⟩
  obtain ⟨hpartly, hpart⟩ := hthere (bytes.take refusals.reached)
  have hfilled := run_changeBytes hpartly hpart fun _ => bytes
  rw [put_put] at hfilled
  unfold fill writeBytes moveTarget
  rw [run_bind_ok (run_changeBytes hlocate hfile fun _ => bytes.take refusals.reached),
    run_attempt_bind]
  cases refusals.check .write with
  | error f => exact ⟨bytes.take refusals.reached, rfl⟩
  | ok =>
    dsimp only
    rw [run_attempt_bind]
    cases refusals.check .flush with
    | error f => exact ⟨bytes.take refusals.reached, rfl⟩
    | ok =>
      dsimp only
      rw [run_bind_ok hfilled, run_attempt_bind]
      cases refusals.check .close with
      | error f => exact ⟨bytes, rfl⟩
      | ok =>
        dsimp only
        rw [run_attempt_bind]
        cases refusals.check .move with
        | error f => exact ⟨bytes, rfl⟩
        | ok => exact ⟨bytes, run_move (hthere bytes).1 (hthere bytes).2⟩

/-- Whether and where a file can be put beside a path is the same in trees that are the same but for
some locations. -/
theorem targetOf_congr {P : Location → Prop} (h : InDirectory tree p dir)
    (hnames : p.names ≠ []) (hsame : SameBut P tree tree') :
    targetOf tree' p = targetOf tree p := by
  unfold targetOf
  rw [h.locate_eq hnames hsame]
  cases tree.locate p with
  | error f => rfl
  | ok place => simp only [hsame.directory place]

theorem targetOf_eq_ok {target : Path} {goal : Location} (h : targetOf tree target = .ok goal) :
    tree.locate target = .ok goal ∧ tree.find? goal ≠ some .directory := by
  unfold targetOf at h
  cases hlocate : tree.locate target with
  | error f => simp [hlocate] at h
  | ok place =>
    simp only [hlocate] at h
    split at h
    · cases h
    split at h
    · cases h
    case isFalse hdirectory =>
      cases h
      exact ⟨rfl, hdirectory⟩

/-- What replacing the content of a file comes to in a tree: when it fails, nothing has changed, and
otherwise the file is where the path leads, and nothing else has changed. -/
structure Replaced (target : Path) (bytes : List UInt8) (result : Except Failure Unit)
    (tree tree' : Tree) : Prop where
  refused : ∀ f, result = .error f → ∀ P, SameBut P tree tree'
  put : result = .ok () → ∃ goal, tree.locate target = .ok goal ∧
    tree.find? goal ≠ some .directory ∧ tree'.find? goal = some (.file bytes) ∧
      SameBut (· = goal) tree tree'

/-- Why the content of a file cannot be replaced, if it cannot. -/
def refusalOf (tree : Tree) (target : Path) (dir : Location) : Except Failure Unit :=
  match freeName? tree dir with
  | none => .error .alreadyThere
  | some name =>
    match tree.locate (target.withName name) with
    | .error f => .error f
    | .ok _ => (targetOf tree target).map fun _ => ()

theorem freeName?_spec {name : Text} (h : freeName? tree dir = some name) :
    ∃ n, name = temporaryName n ∧ tree.find? (dir ++ [name]) = none := by
  unfold freeName? at h
  obtain ⟨n, -, hn⟩ := List.exists_of_findSome?_eq_some h
  split at hn
  case isTrue hfree =>
    cases hn
    exact ⟨n, rfl, Option.isNone_iff_eq_none.1 hfree⟩
  case isFalse => cases hn

theorem temporaryName_ne (n : Nat) : temporaryName n ≠ ['.'] ∧ temporaryName n ≠ ['.', '.'] := by
  have htake : (temporaryName n).take 2 = ['.', 'p'] := rfl
  constructor <;> intro h <;> rw [h] at htake <;> simp at htake

/-- Filling a temporary file that was created where nothing stood, and moving it, or else taking it
away again. -/
theorem run_fill_or_discard {target temporary : Path} (htemporary : tree.locate temporary = .ok place)
    (hne : place ≠ []) (hnone : tree.find? place = none) (refusals : Refusals)
    {bytes : List UInt8}
    (htarget : targetOf (tree.put place (.file bytes)) target = targetOf tree target) :
    (tryCatch (fill refusals temporary target bytes) fun f => do
      discard temporary
      throw f).run.run (tree.put place (.file [])) =
      match moveTarget refusals tree target with
      | .error f => (.error f, tree)
      | .ok goal => (.ok (), tree.put goal (.file bytes)) := by
  have hthere (content : List UInt8) :
      (tree.put place (.file content)).locate temporary = .ok place ∧
        (tree.put place (.file content)).find? place = some (.file content) :=
    ⟨(sameBut_put (by simp [hnone]) content).locate_eq_ok htemporary,
      by rw [find?_put hne, if_pos rfl]⟩
  -- nothing stood at the location, so what is taken away there leaves the very tree from before
  have hgone (content : List UInt8) : (tree.put place (.file content)).erase place = tree := by
    rw [erase_put, erase_eq_self hne hnone]
  obtain ⟨part, hfill⟩ := run_fill (hthere []).1 (hthere []).2 refusals bytes target
  have hsame : moveTarget refusals (tree.put place (.file bytes)) target =
      moveTarget refusals tree target := by
    unfold moveTarget
    rw [htarget]
  rw [put_put, put_put, hgone, hsame] at hfill
  cases hgoal : moveTarget refusals tree target with
  | error f =>
    rw [hgoal] at hfill
    rw [run_tryCatch_error hfill, run_bind_ok (run_discard (hthere part).1 (hthere part).2), hgone]
    rfl
  | ok goal =>
    rw [hgoal] at hfill
    rw [run_tryCatch_ok hfill]

/-- Where a temporary file is created, or why it is not. -/
def temporaryOf (tree : Tree) (target : Path) (dir : Location) : Except Failure Location :=
  match freeName? tree dir with
  | none => .error .alreadyThere
  | some name => tree.locate (target.withName name)

/-- Where a file comes to stand when its content is replaced, or why it is not replaced. -/
def destination (refusals : Refusals) (tree : Tree) (target : Path) (dir : Location) :
    Except Failure Location := do
  refusals.check .create
  let _ ← temporaryOf tree target dir
  moveTarget refusals tree target

section Target

variable {target : Path} (h : InDirectory tree target dir)
  (htarget : ∀ P tree', SameBut P tree tree' → targetOf tree' target = targetOf tree target)

include h htarget

theorem run_replaceIn (refusals : Refusals) (text : Text) :
    (replaceIn refusals target text).run.run tree =
      match destination refusals tree target dir with
      | .error f => (.error f, tree)
      | .ok goal => (.ok (), tree.put goal (.file (Text.Utf8.encode text))) := by
  have hcreate := run_createTemporary h
  unfold replaceIn destination temporaryOf
  rw [run_attempt_bind]
  cases refusals.check .create with
  | error f => rfl
  | ok =>
    dsimp only
    cases hfree : freeName? tree dir with
    | none =>
      rw [hfree] at hcreate
      rw [run_bind_error hcreate]
      rfl
    | some name =>
      rw [hfree] at hcreate
      dsimp only at hcreate ⊢
      cases htemporary : tree.locate (target.withName name) with
      | error f =>
        rw [htemporary] at hcreate
        rw [run_bind_error hcreate]
        rfl
      | ok place =>
        rw [htemporary] at hcreate
        obtain ⟨n, rfl, hnone⟩ := freeName?_spec hfree
        obtain rfl := h.eq_of_locate (temporaryName_ne n) htemporary
        rw [run_bind_ok hcreate, run_fill_or_discard htemporary (by simp) hnone refusals
          (htarget _ _ (sameBut_put (by simp [hnone]) _))]
        rfl

/-- **Replacing the content of a file whose directory is there**, if what stands at other locations
does not matter for the target. -/
theorem run_replace_of_target (refusals : Refusals) (text : Text) :
    (replace target text refusals).run.run tree =
      match destination refusals tree target dir with
      | .error f => (.error f, tree)
      | .ok goal => (.ok (), tree.put goal (.file (Text.Utf8.encode text))) := by
  unfold replace
  rw [run_bind_ok (run_ensureDirectories h)]
  exact run_replaceIn h htarget refusals text

end Target

theorem destination_none (tree : Tree) (target : Path) (dir : Location) :
    (destination .none tree target dir).map (fun _ => ()) = refusalOf tree target dir := by
  unfold destination temporaryOf refusalOf
  cases freeName? tree dir with
  | none => rfl
  | some name =>
    dsimp only
    cases tree.locate (target.withName name) <;> rfl

theorem targetOf_of_destination {refusals : Refusals} {target : Path} {goal : Location}
    (h : destination refusals tree target dir = .ok goal) : targetOf tree target = .ok goal := by
  unfold destination moveTarget at h
  simp only [bind_eq_ok_iff] at h
  obtain ⟨-, -, -, -, -, -, -, -, -, -, -, -, hgoal⟩ := h
  exact hgoal

/-- Replacing the content of a file when the system refuses nothing. -/
theorem run_replace {target : Path} (h : InDirectory tree target dir) (hnames : target.names ≠ [])
    (text : Text) :
    let out := (replace target text).run.run tree
    out.1 = refusalOf tree target dir ∧
      Replaced target (Text.Utf8.encode text) (refusalOf tree target dir) tree out.2 := by
  intro out
  have hout := run_replace_of_target h (fun P tree' hsame => targetOf_congr h hnames hsame) .none text
  simp only [out, hout, ← destination_none]
  cases hgoal : destination .none tree target dir with
  | error f => exact ⟨rfl, fun f _ P => .refl, nofun⟩
  | ok goal =>
    obtain ⟨hlocate, hdirectory⟩ := targetOf_eq_ok (targetOf_of_destination hgoal)
    have hne : goal ≠ [] := fun heq => hdirectory (heq ▸ find?_nil)
    refine ⟨rfl, nofun, fun _ => ⟨goal, hlocate, hdirectory, ?_, sameBut_put hdirectory _⟩⟩
    show (tree.put goal _).find? goal = _
    rw [find?_put hne, if_pos rfl]

/-- Whether the content of a file can be replaced is the same in trees that differ only where no
temporary file stands. -/
theorem refusalOf_congr {P : Location → Prop} {target : Path} (h : InDirectory tree target dir)
    (hnames : target.names ≠ []) (hsame : SameBut P tree tree')
    (hP : ∀ n, ¬ P (dir ++ [temporaryName n])) :
    refusalOf tree' target dir = refusalOf tree target dir := by
  have hfree : freeName? tree' dir = freeName? tree dir := by
    unfold freeName?
    congr 1
    funext n
    rw [hsame.find _ (hP n)]
  have htemporary (name : Text) :
      tree'.locate (target.withName name) = tree.locate (target.withName name) :=
    (h.withName name).locate_eq (by simp [Path.withName]) hsame
  unfold refusalOf
  rw [hfree, targetOf_congr h hnames hsame]
  simp only [htemporary]

end Action

end SnippetBench.Files
