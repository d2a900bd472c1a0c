import SnippetBench.Proofs.Files.Growth

/-!
# What stands elsewhere

Two trees are alike but at some locations if the same stands at all others (`AlikeBut`), where
directories count as well. Making the directories to which a path leads, and adding bytes to the file
to which it leads, leaves a tree alike but at the locations on the way of the path
(`alikeBut_ensureDirectories`, `alikeBut_appendBytes`).
-/

namespace SnippetBench.Files

namespace Tree

variable {tree tree' tree'' : Tree} {P Q : Location → Prop} {place : Location} {p : Path}

/-- The same stands in two trees at all but some locations. -/
def AlikeBut (P : Location → Prop) (tree tree' : Tree) : Prop :=
  ∀ place, ¬ P place → tree'.find? place = tree.find? place

theorem AlikeBut.refl : AlikeBut P tree tree := fun _ _ => rfl

theorem AlikeBut.trans (h : AlikeBut P tree tree') (h' : AlikeBut P tree' tree'') :
    AlikeBut P tree tree'' :=
  fun place hplace => (h' place hplace).trans (h place hplace)

theorem AlikeBut.mono (hsub : ∀ place, P place → Q place) (h : AlikeBut P tree tree') :
    AlikeBut Q tree tree' :=
  fun place hplace => h place fun hP => hplace (hsub place hP)

theorem alikeBut_put {entry : Entry} (hne : place ≠ []) (hplace : P place) :
    AlikeBut P tree (tree.put place entry) := by
  intro other hother
  rw [find?_put hne, if_neg]
  rintro rfl
  exact hother hplace

/-- A location is on the way of a path: the path, or the names with which it begins, lead there. -/
def OnWay (tree : Tree) (p : Path) (place : Location) : Prop :=
  ∃ names, names <+: p.names ∧ tree.walk (tree.start p.root) names = .ok place

theorem OnWay.of_grows (h : tree.OnWay p place) (hgrows : Grows P tree tree') :
    tree'.OnWay p place := by
  obtain ⟨names, hnames, hwalk⟩ := h
  exact ⟨names, hnames, by rw [hgrows.start_eq, hgrows.walk_eq_ok hwalk]⟩

theorem OnWay.of_parent (h : tree.OnWay p.parent place) : tree.OnWay p place :=
  have ⟨names, hnames, hwalk⟩ := h
  ⟨names, hnames.trans (List.dropLast_prefix _), hwalk⟩

theorem onWay_of_locate (h : tree.locate p = .ok place) : tree.OnWay p place :=
  ⟨p.names, List.prefix_refl _, (locate_eq_ok_iff.1 h).2⟩

end Tree

namespace Action

open Files.Tree (AlikeBut Grows OnWay)

theorem alikeBut_ensureFrom (start : Location) (names : List Text) (tree : Tree) :
    let after := ((ensureFrom start names).run.run tree).2
    AlikeBut (fun place => ∃ way, way <+: names ∧ after.walk start way = .ok place) tree after := by
  induction names generalizing start tree with
  | nil =>
    intro after
    have hsame : after = tree := by
      show ((ensureFrom start []).run.run tree).2 = tree
      rw [ensureFrom, run_get_bind]
      split <;> rfl
    rw [hsame]
    exact .refl
  | cons name names ih =>
    have hgrows : Grows (fun _ => True) tree ((ensureFrom start (name :: names)).run.run tree).2 :=
      grows_ensureFrom _ _ _
    rw [ensureFrom] at hgrows ⊢
    cases hnext : tree.walk start [name] with
    | error f =>
      rw [run_bind_error ((run_ask _).trans (by rw [hnext]))]
      exact .refl
    | ok next =>
      rw [run_bind_ok ((run_ask _).trans (by rw [hnext])), run_get_bind] at hgrows ⊢
      -- the way from the next location is the rest of the way from the first one
      have hway {after : Tree} (hafter : after.walk start [name] = .ok next) {place : Location}
          (h : ∃ way, way <+: names ∧ after.walk next way = .ok place) :
          ∃ way, way <+: name :: names ∧ after.walk start way = .ok place := by
        obtain ⟨way, hprefix, hwalk⟩ := h
        refine ⟨name :: way, (List.cons_prefix_cons).2 ⟨rfl, hprefix⟩, ?_⟩
        rw [← List.singleton_append, walk_append, hafter]
        exact hwalk
      have hfirst := hgrows.walk_eq_ok hnext
      by_cases hnone : (tree.find? next).isNone = true
      · rw [if_pos hnone, run_modify_bind] at hfirst ⊢
        have hne : next ≠ [] := by
          rintro rfl
          simp [Tree.find?_nil] at hnone
        exact (Tree.alikeBut_put hne (hway hfirst ⟨[], List.nil_prefix, rfl⟩)).trans
          ((ih next _).mono fun _ => hway hfirst)
      · rw [if_neg hnone] at hfirst ⊢
        exact (ih next tree).mono fun _ => hway hfirst

theorem alikeBut_ensureDirectories (p : Path) (tree : Tree) :
    let after := ((ensureDirectories p).run.run tree).2
    AlikeBut (after.OnWay p) tree after := by
  have hgrows : Grows (fun _ => True) tree ((ensureDirectories p).run.run tree).2 :=
    grows_ensureDirectories _ _
  intro after
  have hstart := hgrows.start_eq p.root
  unfold OnWay
  rw [hstart]
  show AlikeBut _ tree ((ensureDirectories p).run.run tree).2
  unfold after ensureDirectories
  split
  · exact .refl
  · rw [run_get_bind]
    exact alikeBut_ensureFrom _ _ _

theorem alikeBut_appendBytes (p : Path) (more : List UInt8) (tree : Tree) :
    let after := ((appendBytes p more).run.run tree).2
    AlikeBut (after.OnWay p) tree after := by
  have hgrows : Grows (fun _ => True) tree ((appendBytes p more).run.run tree).2 :=
    grows_appendBytes fun _ _ _ => trivial
  unfold appendBytes changeBytes at hgrows ⊢
  cases hlocate : tree.locate p with
  | error f =>
    rw [run_bind_error ((run_ask _).trans (by rw [hlocate]))]
    exact .refl
  | ok place =>
    rw [run_bind_ok ((run_ask _).trans (by rw [hlocate])), run_get_bind] at hgrows ⊢
    have hway := Tree.onWay_of_locate (hgrows.locate_eq_ok hlocate)
    cases hfind : tree.find? place with
    | none =>
      have hne : place ≠ [] := fun heq => by simp [heq, Tree.find?_nil] at hfind
      rw [hfind] at hway
      exact Tree.alikeBut_put hne hway
    | some entry =>
      cases entry with
      | directory => exact .refl
      | file bytes =>
        have hne : place ≠ [] := fun heq => by simp [heq, Tree.find?_nil] at hfind
        rw [hfind] at hway
        exact Tree.alikeBut_put hne hway

end Action

end SnippetBench.Files
