import SnippetBench.Proofs.Files.PathText
import SnippetBench.Proofs.Files.ScriptName

/-!
# Scripts of different documents

The name of a script is that of its document with the tag before the suffix, if there is a suffix, and
at the end otherwise (`scriptName_of_hasSuffix`, `scriptName_of_not_hasSuffix`). The two rules never
give the same name: a name without a suffix would have to be a stem with the tag behind it, and such
a name has a suffix (`append_tag_ne`). So different names have different scripts
(`scriptName_injective`), and so have documents at different paths (`scripts_differ`).
-/

namespace SnippetBench.Files.Path

/-- A name has a stem and a suffix: there are characters before its last dot, and behind it. -/
structure HasSuffix (name stem tail : Text) : Prop where
  name_eq : name = stem ++ '.' :: tail
  stem_ne : stem ≠ []
  tail_ne : tail ≠ []
  last : '.' ∉ tail

variable {name name' stem tail : Text}

/-! ### Names -/

theorem splitSuffix_append_cons (htail : '.' ∉ tail) (stem : Text) :
    splitSuffix (stem ++ '.' :: tail) =
      if tail = [] ∨ stem = [] then (stem ++ '.' :: tail, []) else (stem, '.' :: tail) := by
  have hfront : (stem ++ '.' :: tail).take ((stem ++ '.' :: tail).length - tail.length) =
      stem ++ ['.'] := by
    rw [List.append_cons, List.length_append, Nat.add_sub_cancel, List.take_left]
  unfold splitSuffix
  rw [takeWhile_reverse_append_cons htail, List.reverse_reverse]
  dsimp only
  rw [hfront, List.dropLast_concat, List.length_append, List.length_singleton]
  by_cases htail : tail = []
  · simp [htail]
  · by_cases hstem : stem = []
    · simp [hstem]
    · rw [if_neg (by simp [htail, hstem]), if_neg (by simp [htail, hstem])]

theorem splitSuffix_of_notMem (h : '.' ∉ name) : splitSuffix name = (name, []) := by
  have htake : name.reverse.takeWhile (· ≠ '.') = name.reverse :=
    List.takeWhile_eq_self_iff.2 fun c hc => by
      have hne : c ≠ '.' := fun heq => h (heq ▸ List.mem_reverse.1 hc)
      simpa using hne
  unfold splitSuffix
  rw [htake, List.reverse_reverse]
  simp

theorem scriptName_of_hasSuffix (h : HasSuffix name stem tail) :
    scriptName name = stem ++ scriptTag ++ '.' :: tail := by
  have hsplit := splitSuffix_append_cons h.last stem
  rw [if_neg (by simp [h.stem_ne, h.tail_ne]), ← h.name_eq] at hsplit
  unfold scriptName
  rw [hsplit]

theorem scriptName_of_not_hasSuffix (h : ∀ stem tail, ¬ HasSuffix name stem tail) :
    scriptName name = name ++ scriptTag := by
  have hsplit : splitSuffix name = (name, []) := by
    by_cases hdot : '.' ∈ name
    · obtain ⟨tail, stem, hreverse, htail⟩ := List.eq_append_cons_of_mem (List.mem_reverse.2 hdot)
      have hname : name = stem.reverse ++ '.' :: tail.reverse := by
        rw [← List.reverse_reverse name, hreverse]
        simp
      have hlast : '.' ∉ tail.reverse := fun hmem => htail (List.mem_reverse.1 hmem)
      have hcut := splitSuffix_append_cons hlast stem.reverse
      rw [← hname] at hcut
      rw [hcut, if_pos]
      by_contra hne
      rw [not_or] at hne
      exact h _ _ ⟨hname, hne.2, hne.1, hlast⟩
    · exact splitSuffix_of_notMem hdot
  unfold scriptName
  rw [hsplit]
  exact List.append_nil _

/-- The suffix of a document is that of its script. -/
theorem HasSuffix.script (h : HasSuffix name stem tail) :
    HasSuffix (scriptName name) (stem ++ scriptTag) tail :=
  ⟨scriptName_of_hasSuffix h, by simp [h.stem_ne], h.tail_ne, h.last⟩

/-- A name that is made longer by the tag is no script of a name with a suffix. -/
theorem append_tag_ne (hname : ∀ stem tail, ¬ HasSuffix name stem tail) (hstem : stem ≠ [])
    (htail : '.' ∉ tail) : name ++ scriptTag ≠ stem ++ scriptTag ++ '.' :: tail := by
  intro heq
  have htag : scriptTag = '.' :: ("pybm" : Text) := rfl
  -- both are cut before the last dot: the tag is then a suffix of the name
  obtain ⟨rfl, -⟩ : name = stem ++ scriptTag ∧ _ := append_cons_inj (by decide) htail heq
  exact hname stem "pybm" ⟨by rw [htag], hstem, by decide, by decide⟩

/-- **Different names have different scripts.** -/
theorem scriptName_injective : Function.Injective scriptName := by
  intro name name' heq
  by_cases hname : ∃ stem tail, HasSuffix name stem tail
  · obtain ⟨stem, tail, h⟩ := hname
    rw [scriptName_of_hasSuffix h] at heq
    by_cases hname' : ∃ stem tail, HasSuffix name' stem tail
    · obtain ⟨stem', tail', h'⟩ := hname'
      rw [scriptName_of_hasSuffix h'] at heq
      obtain ⟨hstems, htails⟩ := append_cons_inj h.last h'.last heq
      rw [h.name_eq, h'.name_eq, List.append_cancel_right hstems, htails]
    · simp only [not_exists] at hname'
      rw [scriptName_of_not_hasSuffix hname'] at heq
      exact absurd heq.symm (append_tag_ne hname' h.stem_ne h.last)
  · simp only [not_exists] at hname
    rw [scriptName_of_not_hasSuffix hname] at heq
    by_cases hname' : ∃ stem tail, HasSuffix name' stem tail
    · obtain ⟨stem', tail', h'⟩ := hname'
      rw [scriptName_of_hasSuffix h'] at heq
      exact absurd heq (append_tag_ne hname h'.stem_ne h'.last)
    · simp only [not_exists] at hname'
      rw [scriptName_of_not_hasSuffix hname'] at heq
      exact List.append_cancel_right heq

/-! ### Paths -/

variable {p q : Path}

theorem mem_scriptName {c : Char} (h : c ∈ scriptName name) : c ∈ name ∨ c ∈ scriptTag := by
  by_cases hname : ∃ stem tail, HasSuffix name stem tail
  · obtain ⟨stem, tail, hsuffix⟩ := hname
    rw [scriptName_of_hasSuffix hsuffix] at h
    rw [hsuffix.name_eq]
    simp only [List.mem_append] at h ⊢
    tauto
  · simp only [not_exists] at hname
    rw [scriptName_of_not_hasSuffix hname] at h
    exact List.mem_append.1 h

theorem mem_names_of_name? (h : p.name? = some name) : name ∈ p.names := List.mem_of_getLast? h

/-- A path with the name of a script in place of its last name can be read again. -/
theorem IsRead.withName_scriptName (h : IsRead p) (hname : p.name? = some name) :
    IsRead (p.withName (scriptName name)) := by
  intro other hother
  rcases List.mem_append.1 hother with hmem | hmem
  · exact h other (List.dropLast_subset _ hmem)
  · obtain rfl := List.mem_singleton.1 hmem
    have hlength := length_scriptName name
    refine ⟨fun hnil => by simp [hnil] at hlength, (scriptName_ne_dots name).1, fun hslash => ?_⟩
    rcases mem_scriptName hslash with hin | hin
    · exact (h name (mem_names_of_name? hname)).2.2 hin
    · exact absurd hin (by decide)

/-- Paths with other last names are the same if their directories are, and the names. -/
theorem withName_eq_iff {first second : Text} :
    p.withName first = q.withName second ↔ p.parent = q.parent ∧ first = second := by
  obtain ⟨root, names⟩ := p
  obtain ⟨root', names'⟩ := q
  simp only [withName, parent, Path.mk.injEq]
  constructor
  · rintro ⟨hroot, hnames⟩
    obtain ⟨hinit, hlast⟩ := List.append_inj' hnames rfl
    exact ⟨⟨hroot, hinit⟩, List.singleton_inj.1 hlast⟩
  · rintro ⟨⟨hroot, hinit⟩, hlast⟩
    exact ⟨hroot, by rw [hinit, hlast]⟩

theorem script?_of_name? (h : p.name? = some name) :
    p.script? = some (p.withName (scriptName name)) := by
  rw [script?, h, Option.map_some]

/-- Documents with the same script are the same. -/
theorem eq_of_script?_eq (hp : p.name? = some name) (h : p.script? = q.script?) : p = q := by
  rw [script?_of_name? hp] at h
  obtain ⟨name', hq, hscript⟩ := Option.map_eq_some_iff.1 h.symm
  obtain ⟨hparent, hnames⟩ := withName_eq_iff.1 hscript
  rw [← withName_of_name? hp, ← withName_of_name? hq, withName_eq_iff]
  exact ⟨hparent.symm, (scriptName_injective hnames).symm⟩

/-- **Scripts of different documents differ.** A document with a name has a script. It stands in the
same directory under another name, with the same suffix if there is one. Two documents have the same
script only if they are the same, and only then are the texts of the paths of their scripts the
same. -/
theorem scripts_differ (hp : IsRead p) (hq : IsRead q) (hname : p.name? = some name)
    (hname' : q.name? = some name') :
    ∃ script script', p.script? = some script ∧ q.script? = some script' ∧
      script.parent = p.parent ∧ script ≠ p ∧ script.toText ≠ p.toText ∧
      (∀ stem tail, HasSuffix name stem tail →
        ∃ longer, script.name? = some longer ∧ HasSuffix longer (stem ++ scriptTag) tail) ∧
      (script = script' ↔ p = q) ∧ (script.toText = script'.toText ↔ p = q) := by
  have hread := hp.withName_scriptName hname
  have hread' := hq.withName_scriptName hname'
  have htext {r s : Path} (hr : IsRead r) (hs : IsRead s) : r.toText = s.toText ↔ r = s :=
    ⟨fun h => by rw [← ofText_toText hr, h, ofText_toText hs], congrArg toText⟩
  have hne : p.withName (scriptName name) ≠ p := by
    intro heq
    rw [← withName_of_name? hname, withName_withName] at heq
    have hlength := congrArg List.length (withName_eq_iff.1 heq).2
    rw [length_scriptName] at hlength
    omega
  have hsame : p.withName (scriptName name) = q.withName (scriptName name') ↔ p = q := by
    refine ⟨fun h => eq_of_script?_eq hname ?_, ?_⟩
    · rw [script?_of_name? hname, script?_of_name? hname', h]
    · rintro rfl
      rw [Option.some.inj (hname.symm.trans hname')]
  refine ⟨_, _, script?_of_name? hname, script?_of_name? hname', by simp [parent, withName], hne,
    mt (htext hread hp).1 hne, fun stem tail hsuffix => ⟨scriptName name, ?_, hsuffix.script⟩, hsame,
    (htext hread hread').trans hsame⟩
  simp [name?, withName]

/-- A hidden file without a suffix, and another document at the path of its script. -/
theorem scripts_differ_hidden :
    let p := ofText "./docs//.x.pybm"
    let q := ofText "docs/.x"
    p.name? = some ".x.pybm" ∧ q.name? = some ".x" ∧ HasSuffix ".x.pybm" ".x" "pybm" ∧
      ∃ script script' longer, p.script? = some script ∧ q.script? = some script' ∧
        script.parent = p.parent ∧ script ≠ p ∧ script.name? = some longer ∧
        HasSuffix longer (".x" ++ scriptTag) "pybm" ∧ script'.toText = p.toText ∧
        script.toText ≠ script'.toText := by
  intro p q
  have hsuffix : HasSuffix ".x.pybm" ".x" "pybm" := ⟨rfl, by decide, by decide, by decide⟩
  obtain ⟨script, script', hscript, hscript', hparent, hne, -, hkept, -, htexts⟩ :=
    @scripts_differ ".x.pybm" ".x" p q (isRead_ofText _) (isRead_ofText _) rfl rfl
  obtain ⟨longer, hlonger, hstem⟩ := hkept _ _ hsuffix
  have hown : q.script? = some p := by decide
  obtain rfl : p = script' := Option.some.inj (hown.symm.trans hscript')
  exact ⟨rfl, rfl, hsuffix, script, p, longer, hscript, hscript', hparent, hne, hlonger, hstem, rfl,
    mt htexts.1 (by decide)⟩

end SnippetBench.Files.Path
