import SnippetBench.Proofs.Files.Replace

/-!
# Trees that grow

A tree grows when something is put where nothing stood, or when bytes are added at the end of a file
(`Grows`). Whatever stood in it is still there then, and paths lead where they led. Directories are
made and files are appended to in this way (`grows_ensureDirectories`, `grows_appendBytes`).
-/

namespace SnippetBench.Files

namespace Tree

variable {tree tree' tree'' : Tree} {P Q : Location → Prop} {place : Location} {entry : Entry}

/-- All that stands in a tree still stands in another one; only files at some locations may have
bytes added at their end. -/
structure Grows (P : Location → Prop) (tree tree' : Tree) : Prop where
  home : tree'.home = tree.home
  directory : ∀ place, tree.find? place = some .directory → tree'.find? place = some .directory
  file : ∀ place bytes, tree.find? place = some (.file bytes) →
    ∃ more, tree'.find? place = some (.file (bytes ++ more)) ∧ (more ≠ [] → P place)

theorem Grows.refl : Grows P tree tree :=
  ⟨rfl, fun _ h => h, fun _ _ h => ⟨[], by rwa [List.append_nil], fun hne => absurd rfl hne⟩⟩

theorem Grows.trans (h : Grows P tree tree') (h' : Grows P tree' tree'') : Grows P tree tree'' := by
  refine ⟨h'.home.trans h.home, fun place hplace => h'.directory place (h.directory place hplace),
    fun place bytes hfile => ?_⟩
  obtain ⟨more, hmore, hP⟩ := h.file place bytes hfile
  obtain ⟨more', hmore', hP'⟩ := h'.file place _ hmore
  refine ⟨more ++ more', by rwa [List.append_assoc] at hmore', fun hne => ?_⟩
  by_cases hnil : more = []
  · exact hP' fun hnil' => hne (by rw [hnil, hnil', List.append_nil])
  · exact hP hnil

theorem Grows.mono (hsub : ∀ place, P place → Q place) (h : Grows P tree tree') : Grows Q tree tree' :=
  ⟨h.home, h.directory, fun place bytes hfile =>
    have ⟨more, hmore, hP⟩ := h.file place bytes hfile
    ⟨more, hmore, fun hne => hsub place (hP hne)⟩⟩

/-- Something comes to stand where nothing stood. -/
theorem grows_put_new (hplace : tree.find? place = none) (entry : Entry) :
    Grows P tree (tree.put place entry) := by
  have hne : place ≠ [] := fun heq => by simp [heq, find?_nil] at hplace
  have hkept {other : Location} {old : Entry} (hold : tree.find? other = some old) :
      (tree.put place entry).find? other = some old := by
    rw [find?_put hne, if_neg, hold]
    rintro rfl
    simp [hplace] at hold
  exact ⟨rfl, fun _ hold => hkept hold,
    fun _ _ hold => ⟨[], by rw [List.append_nil, hkept hold], fun hnil => absurd rfl hnil⟩⟩

/-- Bytes are added at the end of a file. -/
theorem grows_put_file {bytes more : List UInt8} (hfile : tree.find? place = some (.file bytes))
    (hP : more ≠ [] → P place) : Grows P tree (tree.put place (.file (bytes ++ more))) := by
  have hne : place ≠ [] := fun heq => by simp [heq, find?_nil] at hfile
  refine ⟨rfl, fun other hother => ?_, fun other old hold => ?_⟩
  · rw [find?_put hne, if_neg, hother]
    rintro rfl
    simp [hfile] at hother
  · by_cases heq : other = place
    · subst heq
      cases hfile.symm.trans hold
      exact ⟨more, by rw [find?_put hne, if_pos rfl], hP⟩
    · exact ⟨[], by rw [find?_put hne, if_neg heq, hold, List.append_nil], fun hnil => absurd rfl hnil⟩

/-! ### Paths -/

theorem Grows.walk_eq_ok (h : Grows P tree tree') {names : List Text} {goal : Location}
    (hwalk : tree.walk place names = .ok goal) : tree'.walk place names = .ok goal := by
  induction names generalizing place with
  | nil => exact hwalk
  | cons name names ih =>
    rw [Tree.walk] at hwalk ⊢
    cases hfind : tree.find? place with
    | none => simp [hfind] at hwalk
    | some entry =>
      cases entry with
      | file bytes => simp [hfind] at hwalk
      | directory =>
        rw [hfind] at hwalk
        rw [h.directory place hfind]
        dsimp only at hwalk ⊢
        by_cases hdot : name = ['.']
        · rw [if_pos hdot] at hwalk ⊢
          exact ih hwalk
        by_cases hdots : name = ['.', '.']
        · rw [if_neg hdot, if_pos hdots] at hwalk ⊢
          exact ih hwalk
        rw [if_neg hdot, if_neg hdots] at hwalk ⊢
        split at hwalk
        case isTrue => cases hwalk
        case isFalse hlong =>
          rw [if_neg hlong]
          exact ih hwalk

theorem Grows.start_eq (h : Grows P tree tree') (root : Root) : tree'.start root = tree.start root := by
  cases root <;> simp [start, h.home]

theorem Grows.locate_eq_ok (h : Grows P tree tree') {p : Path}
    (hlocate : tree.locate p = .ok place) : tree'.locate p = .ok place := by
  obtain ⟨hfollows, hwalk⟩ := locate_eq_ok_iff.1 hlocate
  rw [← h.start_eq] at hwalk
  exact locate_eq_ok_iff.2 ⟨hfollows, h.walk_eq_ok hwalk⟩

end Tree

namespace Action

open Files.Tree (Grows)

variable {tree : Tree} {P : Location → Prop}

/-! ### Actions -/

theorem grows_ensureFrom (place : Location) (names : List Text) (tree : Tree) :
    Grows P tree ((ensureFrom place names).run.run tree).2 := by
  induction names generalizing place tree with
  | nil =>
    rw [ensureFrom, run_get_bind]
    split <;> exact .refl
  | cons name names ih =>
    rw [ensureFrom]
    cases hnext : tree.walk place [name] with
    | error f =>
      rw [run_bind_error ((run_ask _).trans (by rw [hnext]))]
      exact .refl
    | ok next =>
      rw [run_bind_ok ((run_ask _).trans (by rw [hnext])), run_get_bind]
      by_cases hnone : (tree.find? next).isNone = true
      · rw [if_pos hnone, run_modify_bind]
        exact (Tree.grows_put_new (Option.isNone_iff_eq_none.1 hnone) .directory).trans (ih _ _)
      · rw [if_neg hnone]
        exact ih _ _

theorem grows_ensureDirectories (p : Path) (tree : Tree) :
    Grows P tree ((ensureDirectories p).run.run tree).2 := by
  unfold ensureDirectories
  split
  · exact .refl
  · rw [run_get_bind]
    exact grows_ensureFrom _ _ _

theorem grows_appendBytes {p : Path} {more : List UInt8}
    (hP : more ≠ [] → ∀ place, tree.locate p = .ok place → P place) :
    Grows P tree ((appendBytes p more).run.run tree).2 := by
  unfold appendBytes changeBytes
  cases hlocate : tree.locate p with
  | error f =>
    rw [run_bind_error ((run_ask _).trans (by rw [hlocate]))]
    exact .refl
  | ok place =>
    rw [run_bind_ok ((run_ask _).trans (by rw [hlocate])), run_get_bind]
    cases hfind : tree.find? place with
    | none => exact Tree.grows_put_new hfind _
    | some entry =>
      cases entry with
      | directory => exact .refl
      | file bytes => exact Tree.grows_put_file hfind fun hne => hP hne place hlocate

end Action

end SnippetBench.Files
