import SnippetBench.Files.Access
import SnippetBench.Proofs.Except

/-!
# Trees that differ in a few files

Two trees are the same but for some locations (`SameBut`) if they have the same directories and hold
the same elsewhere. Paths lead to the same locations in both, and where a path leads nowhere in one,
it leads nowhere in the other. So a text is read from both alike, unless it stands at one of these
locations (`textAt_eq`).
-/

namespace SnippetBench.Files

namespace Tree

variable {tree tree' : Tree} {place other : Location} {entry : Entry}

/-! ### What stands at a location -/

theorem sameLocation_self (place : Location) : sameLocation place place = true :=
  (sameLocation_iff place place).2 rfl

theorem sameLocation_of_ne (h : place ≠ other) : sameLocation place other = false :=
  Bool.eq_false_iff.2 fun heq => h ((sameLocation_iff place other).1 heq)

theorem find?_eq (hother : other ≠ []) :
    tree.find? other = (tree.entries.find? fun (p, _) => sameLocation p other).map Prod.snd := by
  rw [find?, if_neg (by simpa using hother)]

theorem find?_nil : tree.find? [] = some .directory := rfl

theorem find?_putEntry (entries : List (Location × Entry)) :
    ((putEntry place entry entries).find? fun (p, _) => sameLocation p other).map Prod.snd =
      if other = place then some entry
      else (entries.find? fun (p, _) => sameLocation p other).map Prod.snd := by
  induction entries with
  | nil =>
    by_cases h : other = place
    · simp [putEntry, h, sameLocation_self]
    · simp [putEntry, h, sameLocation_of_ne (Ne.symm h)]
  | cons e rest ih =>
    obtain ⟨p, old⟩ := e
    rw [putEntry]
    by_cases hp : p = place
    · subst hp
      rw [if_pos (sameLocation_self p)]
      by_cases h : other = p
      · simp [h, sameLocation_self]
      · simp [h, sameLocation_of_ne (Ne.symm h)]
    · rw [if_neg (by simp [sameLocation_of_ne hp])]
      by_cases h : p = other
      · subst h
        simp [sameLocation_self, hp]
      · simpa [List.find?_cons, sameLocation_of_ne h] using ih

theorem find?_put (hplace : place ≠ []) :
    (tree.put place entry).find? other =
      if other = place then some entry else tree.find? other := by
  by_cases hother : other = []
  · subst hother
    rw [if_neg (Ne.symm hplace)]
    rfl
  · rw [find?_eq hother, find?_eq hother]
    exact find?_putEntry tree.entries

theorem find?_erase (hplace : place ≠ []) :
    (tree.erase place).find? other = if other = place then none else tree.find? other := by
  by_cases hother : other = []
  · subst hother
    rw [if_neg (Ne.symm hplace)]
    rfl
  · rw [find?_eq hother, find?_eq hother]
    by_cases h : other = place
    · subst h
      rw [if_pos rfl, Option.map_eq_none_iff, List.find?_eq_none]
      intro e he
      have hne := (List.mem_filter.1 he).2
      simpa [sameLocation_iff] using hne
    · rw [if_neg h, Tree.erase, List.find?_filter]
      congr 2
      funext e
      by_cases he : e.1 = other
      · simp [he, h, sameLocation_self]
      · simp [sameLocation_of_ne he]

/-! ### Putting and erasing at one location -/

theorem putEntry_putEntry (place : Location) (entry entry' : Entry)
    (entries : List (Location × Entry)) :
    putEntry place entry' (putEntry place entry entries) = putEntry place entry' entries := by
  induction entries with
  | nil => simp [putEntry, sameLocation_self]
  | cons e rest ih =>
    obtain ⟨p, old⟩ := e
    by_cases hp : p = place
    · simp [putEntry, hp, sameLocation_self]
    · simp [putEntry, sameLocation_of_ne hp, ih]

theorem filter_putEntry (place : Location) (entry : Entry) (entries : List (Location × Entry)) :
    (putEntry place entry entries).filter (fun (p, _) => p ≠ place) =
      entries.filter fun (p, _) => p ≠ place := by
  induction entries with
  | nil => simp [putEntry]
  | cons e rest ih =>
    obtain ⟨p, old⟩ := e
    by_cases hp : p = place
    · simp [putEntry, hp, sameLocation_self]
    · simp only [putEntry, sameLocation_of_ne hp, Bool.false_eq_true, if_false, List.filter_cons, ih]

theorem put_put (tree : Tree) (place : Location) (entry entry' : Entry) :
    (tree.put place entry).put place entry' = tree.put place entry' := by
  unfold put
  dsimp only
  rw [putEntry_putEntry]

theorem erase_put (tree : Tree) (place : Location) (entry : Entry) :
    (tree.put place entry).erase place = tree.erase place := by
  unfold put erase
  dsimp only
  rw [filter_putEntry]

theorem erase_eq_self (hplace : place ≠ []) (h : tree.find? place = none) : tree.erase place = tree := by
  rw [find?_eq hplace, Option.map_eq_none_iff, List.find?_eq_none] at h
  unfold erase
  rw [List.filter_eq_self.2]
  intro e he
  have hne := h e he
  simpa [sameLocation_iff] using hne

/-! ### The same but for some locations -/

/-- Two trees are the same but for some locations, at which no directories stand in one of them
only. -/
structure SameBut (P : Location → Prop) (tree tree' : Tree) : Prop where
  home : tree'.home = tree.home
  directory : ∀ place, tree'.find? place = some .directory ↔ tree.find? place = some .directory
  find : ∀ place, ¬ P place → tree'.find? place = tree.find? place

variable {P Q : Location → Prop}

theorem SameBut.refl : SameBut P tree tree := ⟨rfl, fun _ => Iff.rfl, fun _ _ => rfl⟩

theorem SameBut.symm (h : SameBut P tree tree') : SameBut P tree' tree :=
  ⟨h.home.symm, fun place => (h.directory place).symm, fun place hp => (h.find place hp).symm⟩

theorem SameBut.trans {tree'' : Tree} (h : SameBut P tree tree') (h' : SameBut P tree' tree'') :
    SameBut P tree tree'' :=
  ⟨h'.home.trans h.home, fun place => (h'.directory place).trans (h.directory place),
    fun place hp => (h'.find place hp).trans (h.find place hp)⟩

theorem SameBut.mono (hsub : ∀ place, P place → Q place) (h : SameBut P tree tree') :
    SameBut Q tree tree' :=
  ⟨h.home, h.directory, fun place hq => h.find place fun hp => hq (hsub place hp)⟩

/-- A file may come to stand where no directory is. -/
theorem sameBut_put (hplace : tree.find? place ≠ some .directory) (bytes : List UInt8) :
    SameBut (· = place) tree (tree.put place (.file bytes)) := by
  have hne : place ≠ [] := fun h => hplace (h ▸ find?_nil)
  refine ⟨rfl, fun other => ?_, fun other hother => ?_⟩
  · rw [find?_put hne]
    split
    case isTrue heq => simp [heq, hplace]
    case isFalse => exact Iff.rfl
  · rw [find?_put hne, if_neg hother]

/-- What is no directory may be erased. -/
theorem sameBut_erase (hplace : tree.find? place ≠ some .directory) :
    SameBut (· = place) tree (tree.erase place) := by
  have hne : place ≠ [] := fun h => hplace (h ▸ find?_nil)
  refine ⟨rfl, fun other => ?_, fun other hother => ?_⟩
  · rw [find?_erase hne]
    split
    case isTrue heq => simp [heq, hplace]
    case isFalse => exact Iff.rfl
  · rw [find?_erase hne, if_neg hother]

/-! ### Paths -/

/-- Two results that are the same, or both say that nothing is there. -/
inductive Agree : Except Failure Location → Except Failure Location → Prop
  | same (result) : Agree result result
  | absent {f f' : Failure} (h : f.isAbsence = true) (h' : f'.isAbsence = true) :
      Agree (.error f) (.error f')

theorem SameBut.walk (h : SameBut P tree tree') (place : Location) (names : List Text) :
    Agree (tree.walk place names) (tree'.walk place names) := by
  induction names generalizing place with
  | nil => exact .same _
  | cons name names ih =>
    have hdirectory := h.directory place
    rw [Tree.walk, Tree.walk]
    cases hfind : tree.find? place with
    | none =>
      cases hfind' : tree'.find? place with
      | none => exact .same _
      | some entry =>
        cases entry with
        | file bytes => exact .absent rfl rfl
        | directory => simp [hfind, hfind'] at hdirectory
    | some entry =>
      cases entry with
      | file bytes =>
        cases hfind' : tree'.find? place with
        | none => exact .absent rfl rfl
        | some entry =>
          cases entry with
          | file bytes => exact .same _
          | directory => simp [hfind, hfind'] at hdirectory
      | directory =>
        rw [hdirectory.2 hfind]
        dsimp only
        split
        · exact ih _
        split
        · exact ih _
        split
        · exact .same _
        · exact ih _

theorem SameBut.start_eq (h : SameBut P tree tree') (root : Root) :
    tree'.start root = tree.start root := by
  cases root <;> simp [start, h.home]

theorem SameBut.locate (h : SameBut P tree tree') (p : Path) :
    Agree (tree.locate p) (tree'.locate p) := by
  unfold Tree.locate
  rw [h.start_eq]
  split
  · exact .same _
  · exact h.walk _ _

theorem SameBut.locate_eq_ok (h : SameBut P tree tree') {p : Path}
    (hlocate : tree.locate p = .ok place) : tree'.locate p = .ok place := by
  have hagree := h.locate p
  rw [hlocate] at hagree
  generalize tree'.locate p = result at hagree ⊢
  cases hagree
  rfl

/-- A text is read alike unless it stands where the trees differ. -/
theorem SameBut.textAt_eq (h : SameBut P tree tree') {p : Path}
    (hp : ∀ place, tree.locate p = .ok place → ¬ P place) : tree'.textAt p = tree.textAt p := by
  have hagree := h.locate p
  unfold textAt entryAt
  cases hlocate : tree.locate p with
  | ok place =>
    rw [h.locate_eq_ok hlocate]
    simp only [bind, Except.bind, h.find place (hp place hlocate)]
  | error f =>
    rw [hlocate] at hagree
    generalize tree'.locate p = result at hagree ⊢
    cases hagree with
    | same => rfl
    | absent habsent habsent' => simp [bind, Except.bind, habsent, habsent']

/-- A path leads somewhere if it is not refused and its names lead there. -/
theorem locate_eq_ok_iff {p : Path} : tree.locate p = .ok place ↔
    refusal? p.toText = none ∧ tree.walk (tree.start p.root) p.names = .ok place := by
  unfold Tree.locate
  split <;> simp_all

theorem entryAt_eq_ok_iff {p : Path} :
    tree.entryAt p = .ok entry ↔ ∃ place, tree.locate p = .ok place ∧ tree.find? place = some entry := by
  unfold entryAt
  cases hlocate : tree.locate p with
  | error f => simp [bind, Except.bind]
  | ok place => cases hfind : tree.find? place <;> simp [bind, Except.bind, hfind]

/-- What stands where a path leads is still there unless the trees differ there. -/
theorem SameBut.entryAt_eq_ok (h : SameBut P tree tree') {p : Path}
    (hp : ∀ place, tree.locate p = .ok place → ¬ P place) (hentry : tree.entryAt p = .ok entry) :
    tree'.entryAt p = .ok entry := by
  obtain ⟨place, hlocate, hfind⟩ := entryAt_eq_ok_iff.1 hentry
  exact entryAt_eq_ok_iff.2
    ⟨place, h.locate_eq_ok hlocate, (h.find place (hp place hlocate)).trans hfind⟩

/-- A text is read where its bytes stand. -/
theorem textAt_eq_ok_iff {p : Path} {text : Text} :
    tree.textAt p = .ok text ↔
      ∃ bytes, tree.entryAt p = .ok (.file bytes) ∧ textOfBytes bytes = .ok text := by
  unfold textAt
  cases hentry : tree.entryAt p with
  | error f => simp
  | ok entry =>
    cases entry with
    | directory => simp
    | file bytes => simp [mapError_eq_ok_iff]

/-- A text that is read stands somewhere. -/
theorem exists_locate_of_textAt {p : Path} {text : Text} (h : tree.textAt p = .ok text) :
    ∃ place, tree.locate p = .ok place := by
  obtain ⟨bytes, hentry, -⟩ := textAt_eq_ok_iff.1 h
  obtain ⟨place, hlocate, -⟩ := entryAt_eq_ok_iff.1 hentry
  exact ⟨place, hlocate⟩

end Tree

end SnippetBench.Files
