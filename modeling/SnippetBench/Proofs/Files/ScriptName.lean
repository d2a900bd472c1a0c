import SnippetBench.Proofs.Files.Replace
import Mathlib.Data.List.Basic
import Mathlib.Data.List.TakeWhile

/-!
# Names of scripts

A script never has the name of a temporary file (`scriptName_ne_temporaryName`): before its last dot
the name of a script ends with the tag of scripts, and that of a temporary file with a digit. Its
name is longer than that of its document, so that it never stands where the document does
(`exists_place_of_script?`).
-/

namespace SnippetBench.Files.Path

/-- What stands behind the last of some character. -/
theorem takeWhile_reverse_append_cons {c : Char} {back : Text} (hback : c ∉ back) (front : Text) :
    (front ++ c :: back).reverse.takeWhile (· ≠ c) = back.reverse := by
  rw [List.reverse_append, List.reverse_cons, List.append_assoc,
    List.takeWhile_append_of_pos (by
      intro d hd
      have hne : d ≠ c := fun heq => hback (by simpa [heq] using hd)
      simpa using hne)]
  simp

/-- A text is cut in one way at the last of some character. -/
theorem append_cons_inj {c : Char} {front front' back back' : Text} (hback : c ∉ back)
    (hback' : c ∉ back') (h : front ++ c :: back = front' ++ c :: back') :
    front = front' ∧ back = back' := by
  have hreverse := takeWhile_reverse_append_cons hback front
  rw [h, takeWhile_reverse_append_cons hback'] at hreverse
  obtain rfl := List.reverse_inj.1 hreverse
  exact ⟨List.append_cancel_right h, rfl⟩

/-- A suffix is empty or a dot with no other dot behind it. -/
theorem splitSuffix_snd (name : Text) :
    (splitSuffix name).2 = [] ∨ ∃ tail, '.' ∉ tail ∧ (splitSuffix name).2 = '.' :: tail := by
  unfold splitSuffix
  dsimp only
  split
  · exact .inl rfl
  · refine .inr ⟨_, fun hdot => ?_, rfl⟩
    have hne := List.mem_takeWhile_imp (List.mem_reverse.1 hdot)
    simp at hne

theorem temporaryName_eq (n : Nat) :
    ∃ digits, 'm' ∉ digits ∧ Action.temporaryName n = ".pybm_tmp" ++ '_' :: digits ++ ".tmp" := by
  refine ⟨Text.padStart 8 '0' (Text.ofNat n), fun hm => ?_, rfl⟩
  rcases List.mem_append.1 hm with hzero | hdigit
  · exact absurd (List.eq_of_mem_replicate hzero) (by decide)
  · exact absurd (Nat.isDigit_of_mem_toDigits (by decide) (by decide) hdigit) (by decide)

/-- A script does not have the name of a temporary file. -/
theorem scriptName_ne_temporaryName (name : Text) (n : Nat) :
    scriptName name ≠ Action.temporaryName n := by
  intro h
  obtain ⟨digits, hdigits, htemporary⟩ := temporaryName_eq n
  rw [htemporary] at h
  have hlast : (".pybm_tmp" ++ '_' :: digits).getLast? ≠ some 'm' := by
    intro hm
    rw [List.getLast?_append_of_ne_nil _ (by simp)] at hm
    rcases List.mem_cons.1 (List.mem_of_getLast? hm) with heq | hmem
    · exact absurd heq (by decide)
    · exact hdigits hmem
  have htag (stem : Text) : (stem ++ scriptTag).getLast? = some 'm' := by
    rw [List.getLast?_append_of_ne_nil _ (by decide)]
    rfl
  unfold scriptName at h
  dsimp only at h
  rcases splitSuffix_snd name with hnone | ⟨tail, htail, hsuffix⟩
  · rw [hnone, List.append_nil] at h
    have hp := htag (splitSuffix name).1
    rw [h, List.getLast?_append_of_ne_nil _ (by decide)] at hp
    exact absurd hp (by decide)
  · rw [hsuffix] at h
    have hstem := (append_cons_inj htail (by decide) h).1
    exact hlast (hstem ▸ htag _)

/-! ### The place of a script -/

theorem length_splitSuffix (name : Text) :
    (splitSuffix name).1.length + (splitSuffix name).2.length = name.length := by
  unfold splitSuffix
  dsimp only
  split
  · simp
  case isFalse h =>
    have htail := (List.takeWhile_prefix (l := name.reverse) (· ≠ '.')).length_le
    simp only [Bool.or_eq_true, decide_eq_true_eq, not_or, Nat.not_le, List.length_take,
      List.length_reverse] at h htail
    simp only [List.length_dropLast, List.length_take, List.length_reverse, List.length_cons]
    omega

theorem length_scriptName (name : Text) : (scriptName name).length = name.length + 5 := by
  have hsplit := length_splitSuffix name
  unfold scriptName
  dsimp only
  have htag : scriptTag.length = 5 := rfl
  simp only [List.length_append, htag]
  omega

variable {tree : Tree} {p script : Path} {dir place : Location}

theorem scriptName_ne_dots (name : Text) :
    scriptName name ≠ ['.'] ∧ scriptName name ≠ ['.', '.'] := by
  have hlength := length_scriptName name
  constructor
  all_goals
    intro heq
    rw [heq] at hlength
    simp at hlength
    try omega

/-- A name in a directory does not lead to the place of its script. -/
theorem walk_ne_place (hdir : tree.find? dir = some .directory) (name : Text) :
    tree.walk dir [name] ≠ .ok (dir ++ [scriptName name]) := by
  intro hwalk
  have hlength := length_scriptName name
  simp only [Tree.walk, hdir] at hwalk
  split at hwalk
  · simpa using congrArg List.length (Except.ok.inj hwalk)
  · split at hwalk
    · have hshort := congrArg List.length (Except.ok.inj hwalk)
      simp only [List.length_dropLast, List.length_append, List.length_singleton] at hshort
      omega
    · split at hwalk
      · cases hwalk
      · have hname := congrArg List.length
          (List.singleton_inj.1 (List.append_cancel_left (Except.ok.inj hwalk)))
        omega

theorem withName_withName (p : Path) (first name : Text) :
    (p.withName first).withName name = p.withName name := by
  simp [withName]

theorem withName_of_name? {name : Text} (h : p.name? = some name) : p.withName name = p := by
  have hnames : p.names ≠ [] := fun hnone => by simp [name?, hnone] at h
  obtain ⟨root, names⟩ := p
  obtain rfl : names.getLast hnames = name := by
    simpa [name?, List.getLast?_eq_getLast_of_ne_nil hnames] using h
  simp [withName, List.dropLast_append_getLast hnames]

/-- A script stands in a directory under its own name, and its document stands elsewhere. -/
theorem exists_place_of_script? (hscript : p.script? = some script)
    (hlocate : tree.locate script = .ok place) :
    (∃ dir name, place = dir ++ [scriptName name]) ∧ tree.locate p ≠ .ok place := by
  obtain ⟨name, hname, rfl⟩ := Option.map_eq_some_iff.1 hscript
  obtain ⟨dir, hdir⟩ := exists_inDirectory (p := p.withName (scriptName name))
    (by simp [withName]) hlocate
  replace hdir : InDirectory tree p dir := by
    have hself := hdir.withName name
    rwa [withName_withName, withName_of_name? hname] at hself
  obtain rfl := hdir.eq_of_locate (scriptName_ne_dots name) hlocate
  refine ⟨⟨dir, name, rfl⟩, fun hdocument => ?_⟩
  rw [← withName_of_name? hname] at hdocument
  exact walk_ne_place hdir.isDirectory name (hdir.walk_of_locate hdocument)

/-- The script of a document belongs into the directory of the document. -/
theorem exists_inDirectory_of_script? (hscript : p.script? = some script)
    (hlocate : tree.locate p = .ok place) :
    (∃ dir, InDirectory tree script dir) ∧ script.names ≠ [] := by
  obtain ⟨name, hlast, rfl⟩ := Option.map_eq_some_iff.1 hscript
  have hnames : p.names ≠ [] := fun h => by simp [name?, h] at hlast
  obtain ⟨dir, hdir⟩ := exists_inDirectory hnames hlocate
  exact ⟨⟨dir, hdir.withName (scriptName name)⟩, by simp [withName]⟩

/-- A document that can be read has a directory for its script. -/
theorem exists_inDirectory_of_textAt {text : Text} (hscript : p.script? = some script)
    (htext : tree.textAt p = .ok text) :
    ∃ dir, InDirectory tree script dir ∧ script.names ≠ [] := by
  obtain ⟨place, hlocate⟩ := Tree.exists_locate_of_textAt htext
  obtain ⟨⟨dir, hdir⟩, hnames⟩ := exists_inDirectory_of_script? hscript hlocate
  exact ⟨dir, hdir, hnames⟩

end SnippetBench.Files.Path
