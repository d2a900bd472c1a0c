import SnippetBench.Cli.Program
import SnippetBench.Proofs.Cli.Classification
import SnippetBench.Proofs.Cli.Words

/-!
# Where a common option stands

The options that every command has may stand before the command or behind it.
`readInvocation_moved` says what that makes of them: behind the command an option counts among the
settings of the command, and before the command it is read and forgotten, so that moving it there
does the same as leaving it out. A dry run that is asked for before the command is none
(`perform_dryRun_moved`).

A written option (`Writes`) is an argument, or two when its value follows in an argument of its own.
It comes out as words that set something, and those can be left out of any command line.
-/

namespace SnippetBench.Cli

open Files (Tree)

variable {form : Form} {arguments : List Text} {x : Setting}

/-! ### Written options -/

/-- Arguments that are an option, with its value if it takes one, and what it sets. -/
inductive Writes (form : Form) : List Text → Setting → Prop
  | alone {t name : Text} {s : Switch} {x : Setting}
      (hwords : classifyAll form [t] = .ok [(t, .option (.known s name none))])
      (htakes : s.key.takesValue = false) (hvalue : setting form s [] = .ok x) : Writes form [t] x
  | attached {t name value : Text} {s : Switch} {x : Setting}
      (hwords : classifyAll form [t] = .ok [(t, .option (.known s name (some value)))])
      (htakes : s.key.takesValue = true) (hvalue : setting form s value = .ok x) : Writes form [t] x
  | apart {t name value : Text} {s : Switch} {x : Setting}
      (hwords : classifyAll form [t, value] =
        .ok [(t, .option (.known s name none)), (value, .operand)])
      (htakes : s.key.takesValue = true) (hvalue : setting form s value = .ok x) :
      Writes form [t, value] x

/-- A written option comes out as words that set it. -/
theorem Writes.exists_words (h : Writes form arguments x) :
    ∃ t m value, classifyAll form arguments = .ok ((t, .option m) :: value) ∧
      Sets form ((t, .option m) :: value) [x] := by
  have hnone : flagSettings form [] = .ok [] := rfl
  cases h with
  | @alone t name s x hwords htakes hvalue =>
    have hflags : flagSettings form [s] = .ok [x] := by
      rw [flagSettings, List.mapM_cons, hvalue]
      rfl
    exact ⟨_, _, _, hwords, sets_flags rfl htakes hflags⟩
  | @attached t name value s x hwords htakes hvalue =>
    have hcluster : clusterOf form s name (some value) = .ok ⟨[], .valued s value⟩ := by
      rw [clusterOf, cluster.eq_def, if_pos htakes]
    exact ⟨_, _, _, hwords, sets_valued hcluster hnone hvalue⟩
  | apart hwords htakes hvalue => exact ⟨_, _, _, hwords, sets_apart rfl htakes hnone hvalue⟩

theorem Writes.dashes_notMem (h : Writes form arguments x) : ['-', '-'] ∉ arguments := by
  cases h with
  | alone hwords | attached hwords | apart hwords => exact (dashes_notMem_iff hwords).1 (by simp)

/-- What is read behind a written option is read as without the option. -/
theorem Form.read_append_of_writes (h : Writes form arguments x) (rest : List Text) :
    form.read (arguments ++ rest) = (form.read rest).map (·.after [x] []) := by
  obtain ⟨t, m, value, hwords, hsets⟩ := h.exists_words
  unfold Form.read
  rw [classifyAll_append h.dashes_notMem, hwords]
  cases classifyAll form rest with
  | error e => rfl
  | ok words =>
    have hread := hsets .awaited words
    simp only [bind, Except.bind, pure, Except.pure, mapError_ok]
    rw [hread, show (Phase.awaited).behindOption = .awaited from rfl]
    cases readWords form .awaited words with
    | error e => rfl
    | ok found =>
      simp only [Except.map, Found.after]
      split <;> rfl

theorem Form.read_eq_ok_iff {found : Found} :
    form.read arguments = .ok found ↔
      ∃ words, classifyAll form arguments = .ok words ∧
        readWords form .awaited words = .ok found ∧
        ¬ (form.operands = .paths ∧ found.paths.isEmpty = true) := by
  unfold Form.read
  simp only [bind_eq_ok_iff, mapError_eq_ok_iff]
  constructor
  · rintro ⟨words, hwords, g, hg, h⟩
    split at h
    · cases h
    case isFalse hpaths =>
      cases h
      exact ⟨words, hwords, hg, hpaths⟩
  · rintro ⟨words, hwords, hfound, hpaths⟩
    refine ⟨words, hwords, found, hfound, ?_⟩
    rw [if_neg hpaths]
    rfl

/-- An option can be left out of a command line with nothing left over; only the setting is missing
then. -/
theorem Form.read_without (hform : form.operands ≠ .command) (h : Writes form arguments x)
    {front back : List Text} (hfront : ['-', '-'] ∉ front) {found : Found}
    (hread : form.read (front ++ (arguments ++ back)) = .ok found) (hleft : found.leftOver = []) :
    ∃ before after, found.settings = before ++ x :: after ∧
      form.read (front ++ back) = .ok { found with settings := before ++ after } := by
  obtain ⟨t, m, value, hwords, hsets⟩ := h.exists_words
  obtain ⟨words, hclassified, hfound, hpaths⟩ := Form.read_eq_ok_iff.1 hread
  obtain ⟨v, w, hv, hw, rfl⟩ := (classifyAll_append_ok hfront).1 hclassified
  obtain ⟨_, u, hpiece, hu, rfl⟩ := (classifyAll_append_ok h.dashes_notMem).1 hw
  cases hwords.symm.trans hpiece
  obtain ⟨before, after, hsettings, hwithout⟩ :=
    readWords_without hform hsets v ((dashes_notMem_iff hv).2 hfront) .awaited hfound hleft
  have hrest := (classifyAll_append_ok hfront).2 ⟨v, u, hv, hu, rfl⟩
  exact ⟨before, after, hsettings, Form.read_eq_ok_iff.2 ⟨_, hrest, hwithout, hpaths⟩⟩

/-! ### Before the command and behind it -/

/-- Of a command line that begins with a command, only the command is read at first. -/
theorem read_programForm {name : Text} (hcommand : (name, form) ∈ commandForms)
    {behind : List Text} {outer : Found} :
    programForm.read (name :: behind) = .ok outer ↔
      (∃ words, classifyAll programForm behind = .ok words) ∧
        outer = { command := some (name, behind) } := by
  obtain ⟨hclassify, hname⟩ :
      classify programForm name = .ok .operand ∧ name ≠ ['-', '-'] := by
    simp only [commandForms, List.mem_cons, List.not_mem_nil, or_false, Prod.mk.injEq] at hcommand
    rcases hcommand with ⟨rfl, -⟩ | ⟨rfl, -⟩ | ⟨rfl, -⟩ <;> exact ⟨rfl, by decide⟩
  have hread (words) : readWords programForm .awaited ((name, .operand) :: words) =
      .ok (Found.ofCommand name words) := by
    rw [readWords.eq_def]
    rfl
  simp only [Form.read_eq_ok_iff, classifyAll_cons_ok hname, hclassify]
  constructor
  · rintro ⟨_, ⟨w, rest, ⟨⟩, hrest, rfl⟩, hfound, -⟩
    rw [hread, Found.ofCommand, map_fst_of_classifyAll hrest] at hfound
    cases hfound
    exact ⟨⟨rest, hrest⟩, rfl⟩
  · rintro ⟨⟨words, hwords⟩, rfl⟩
    refine ⟨_, ⟨_, words, rfl, hwords, rfl⟩, ?_, by rintro ⟨h, -⟩; cases h⟩
    rw [hread, Found.ofCommand, map_fst_of_classifyAll hwords]

/-- A command line that begins with a command is read by the form of the command. -/
theorem readInvocation_command {name : Text} (hcommand : (name, form) ∈ commandForms)
    {behind : List Text} {i : Invocation} :
    readInvocation (name :: behind) = .ok i ↔
      (∃ words, classifyAll programForm behind = .ok words) ∧
        ∃ found, form.read behind = .ok found ∧ found.leftOver = [] ∧
          i = ⟨commonOf found.settings, commandOf name found⟩ := by
  have hlookup : commandForms.lookup name = some form := by
    simp only [commandForms, List.mem_cons, List.not_mem_nil, or_false, Prod.mk.injEq] at hcommand
    rcases hcommand with ⟨rfl, rfl⟩ | ⟨rfl, rfl⟩ | ⟨rfl, rfl⟩ <;> rfl
  unfold readInvocation
  rw [bind_eq_ok_iff]
  constructor
  · rintro ⟨outer, houter, h⟩
    obtain ⟨hwords, rfl⟩ := (read_programForm hcommand).1 houter
    refine ⟨hwords, ?_⟩
    simp only [hlookup, List.nil_append] at h
    obtain ⟨found, hfound, h⟩ := bind_eq_ok_iff.1 h
    split at h
    · cases h
    case isFalse hleft =>
      cases h
      exact ⟨found, hfound, by simpa using hleft, rfl⟩
  · rintro ⟨hwords, found, hfound, hleft, rfl⟩
    refine ⟨_, (read_programForm hcommand).2 ⟨hwords, rfl⟩, ?_⟩
    simp only [hlookup, List.nil_append]
    rw [bind_eq_ok_iff]
    refine ⟨found, hfound, ?_⟩
    rw [hleft]
    rfl

/-- An option before the command is read and forgotten. -/
theorem readInvocation_append (h : Writes programForm arguments x) (rest : List Text) :
    readInvocation (arguments ++ rest) = readInvocation rest := by
  unfold readInvocation
  rw [Form.read_append_of_writes h]
  cases programForm.read rest with
  | error e => rfl
  | ok outer => simp only [Except.map, Found.after, List.nil_append, bind, Except.bind]

/-- Options before the command are read and forgotten. -/
theorem readInvocation_flatten {options : List (List Text)}
    (h : ∀ option ∈ options, ∃ x, Writes programForm option x) (rest : List Text) :
    readInvocation (options.flatten ++ rest) = readInvocation rest := by
  induction options with
  | nil => rfl
  | cons option options ih =>
    obtain ⟨x, hx⟩ := h option (.head _)
    rw [List.flatten_cons, List.append_assoc, readInvocation_append hx]
    exact ih fun o ho => h o (.tail _ ho)

/-! ### Moving an option before the command -/

/-- A setting that every command has. -/
def Setting.IsCommon : Setting → Prop
  | config _ | level _ | dryRun => True
  | _ => False

/-- What can be written before the command is a common option. -/
theorem Writes.isCommon (h : Writes programForm arguments x) : x.IsCommon := by
  obtain ⟨t, s, name, attached, value, rest, ts, harguments, hwords, hvalue⟩ :
      ∃ t s name attached value rest ts, arguments = t :: ts ∧
        classifyAll programForm (t :: ts) =
          .ok ((t, .option (.known s name attached)) :: rest) ∧
        setting programForm s value = .ok x := by
    cases h with
    | alone hwords _ hvalue | attached hwords _ hvalue | apart hwords _ hvalue =>
      exact ⟨_, _, _, _, _, _, _, rfl, hwords, hvalue⟩
  have hs := mem_switches_of_classifyAll hwords
  simp only [programForm, commonSwitches, List.cons_append, List.nil_append, List.mem_cons,
    List.not_mem_nil, or_false] at hs
  rcases hs with rfl | rfl | rfl | rfl | rfl
  · cases hvalue
  · cases hvalue
    exact trivial
  · simp only [setting, mapError_eq_ok_iff, map_eq_ok_iff] at hvalue
    obtain ⟨l, -, rfl⟩ := hvalue
    exact trivial
  · cases hvalue
    exact trivial
  · cases hvalue

theorem runOptionsOf_without (hx : x.IsCommon) (paths : List Text) (before after : List Setting) :
    runOptionsOf paths (before ++ x :: after) = runOptionsOf paths (before ++ after) := by
  unfold runOptionsOf
  rw [List.foldl_append, List.foldl_append, List.foldl_cons]
  cases x <;> first | exact hx.elim | rfl

/-- A common option makes no difference to the command. -/
theorem commandOf_without (hx : x.IsCommon) (name : Text) {found : Found}
    {before after : List Setting} (hsettings : found.settings = before ++ x :: after) :
    commandOf name found = commandOf name { found with settings := before ++ after } := by
  have hmarkdown : (before ++ x :: after).contains Setting.markdown =
      (before ++ after).contains Setting.markdown := by
    cases x <;> first | exact hx.elim | simp
  unfold commandOf
  rw [hsettings, runOptionsOf_without hx, hmarkdown]

/-- **Moved before the command, an option is lost.** Let a command line that begins with options and
a command be accepted, with an option behind the command that can be written before it as well.
Moved there, the option leaves a command line that is accepted too; it is read, and the program
does, as if neither that option nor those before it were there, and so the setting is missing among
the common options. -/
theorem readInvocation_moved {name : Text} (hcommand : (name, form) ∈ commandForms)
    {options : List (List Text)} (hoptions : ∀ option ∈ options, ∃ y, Writes programForm option y)
    {front back : List Text} (hfront : ['-', '-'] ∉ front) (hbehind : Writes form arguments x)
    (hbefore : Writes programForm arguments x) {i : Invocation}
    (h : readInvocation (options.flatten ++ name :: (front ++ (arguments ++ back))) = .ok i) :
    ∃ before after,
      i.common = commonOf (before ++ x :: after) ∧
      readInvocation (options.flatten ++ (arguments ++ name :: (front ++ back))) =
        .ok ⟨commonOf (before ++ after), i.command⟩ ∧
      ∀ w tree, perform w tree (options.flatten ++ (arguments ++ name :: (front ++ back))) =
        perform w tree (name :: (front ++ back)) := by
  have hform : form.operands ≠ .command := by
    simp only [commandForms, List.mem_cons, List.not_mem_nil, or_false, Prod.mk.injEq] at hcommand
    rcases hcommand with ⟨-, rfl⟩ | ⟨-, rfl⟩ | ⟨-, rfl⟩ <;> decide
  have hmoved : readInvocation (options.flatten ++ (arguments ++ name :: (front ++ back))) =
      readInvocation (name :: (front ++ back)) := by
    rw [readInvocation_flatten hoptions, readInvocation_append hbefore]
  rw [readInvocation_flatten hoptions, readInvocation_command hcommand] at h
  obtain ⟨⟨words, hwords⟩, found, hfound, hleft, rfl⟩ := h
  obtain ⟨before, after, hsettings, hread⟩ := Form.read_without hform hbehind hfront hfound hleft
  refine ⟨before, after, by rw [hsettings], ?_, fun w tree => ?_⟩
  · -- the program form can classify what is left
    obtain ⟨v, w, hv, hw, rfl⟩ := (classifyAll_append_ok hfront).1 hwords
    obtain ⟨_, u, -, hu, rfl⟩ := (classifyAll_append_ok hbefore.dashes_notMem).1 hw
    have hclassified := (classifyAll_append_ok hfront).2 ⟨v, u, hv, hu, rfl⟩
    rw [hmoved, readInvocation_command hcommand]
    exact ⟨⟨_, hclassified⟩, _, hread, hleft,
      by rw [commandOf_without hbefore.isCommon name hsettings]⟩
  · unfold perform
    rw [hmoved]

/-- A dry run with two options, moved before the command. -/
theorem readInvocation_moved_dryRun :
    ∃ before after,
      CommonOptions.mk (some "c.yaml") none true = commonOf (before ++ .dryRun :: after) ∧
      readInvocation ["--log-level", "INFO", "--dry-run", "run", "--config=c.yaml", "a.py"] =
        .ok ⟨commonOf (before ++ after), .run { paths := ["a.py"] }⟩ ∧
      ∀ w tree,
        perform w tree ["--log-level", "INFO", "--dry-run", "run", "--config=c.yaml", "a.py"] =
          perform w tree ["run", "--config=c.yaml", "a.py"] := by
  have hlevel : Writes programForm ["--log-level", "INFO"] (.level .info) :=
    .apart rfl rfl (by rfl)
  have hbehind : Writes runForm ["--dry-run"] .dryRun := .alone rfl rfl rfl
  have hbefore : Writes programForm ["--dry-run"] .dryRun := .alone rfl rfl rfl
  have hoptions : ∀ option ∈ [(["--log-level", "INFO"] : List Text)],
      ∃ y, Writes programForm option y := by
    intro option hoption
    cases List.mem_singleton.1 hoption
    exact ⟨_, hlevel⟩
  have hread : readInvocation
      ["--log-level", "INFO", "run", "--config=c.yaml", "--dry-run", "a.py"] =
      .ok ⟨⟨some "c.yaml", none, true⟩, .run { paths := ["a.py"] }⟩ :=
    toOption_eq_some_iff.1 (by decide +kernel)
  have hfront : (['-', '-'] : Text) ∉ [("--config=c.yaml" : Text)] := by decide
  exact readInvocation_moved (.head _) hoptions hfront hbehind hbefore hread

/-- A world in which every runtime tells a version and runs scripts without printing. -/
def quietWorld : World :=
  { host := fun _ => .ok ⟨⟨[0x31, 0x2e, 0x32, 0x2e, 0x33], [], some 0⟩, fun _ => ⟨[], some 0⟩⟩
    surroundings := ⟨[3, 12], "3.12.0", "CPython", "Linux", "/usr/bin/python3"⟩
    time := "2026-01-01T00:00:00.000000+00:00" }

/-- A dry run that is asked for before the command is none: an empty document has its script started
then, and not when the option stands behind the command. -/
theorem perform_dryRun_moved :
    let tree := Tree.empty.put ["work", "a.py"] (.file [])
    (perform quietWorld tree ["run", "--dry-run", "a.py"]).session.started = [] ∧
      (perform quietWorld tree ["--dry-run", "run", "a.py"]).session.started ≠ [] ∧
      readInvocation ["--dry-run", "run", "a.py"] ≠ readInvocation ["run", "--dry-run", "a.py"] := by
  have hread : (readInvocation ["--dry-run", "run", "a.py"]).toOption ≠
      (readInvocation ["run", "--dry-run", "a.py"]).toOption := by decide +kernel
  exact ⟨by decide +kernel, by decide +kernel, fun h => hread (congrArg Except.toOption h)⟩

end SnippetBench.Cli
