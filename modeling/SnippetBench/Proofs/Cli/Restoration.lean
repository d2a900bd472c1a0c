import SnippetBench.Proofs.Cli.LogFile
import SnippetBench.Proofs.Script.Lifetime

/-!
# The files after a benchmark run

A benchmark run that keeps no scripts puts scripts beside its documents and takes them away again.
Each stage of the run leaves the files as they were, but for what stood where it put its script
(`Stage.loses`), and so does the whole run (`Course.loses`). So a run loses no file but those that
stand where scripts of its documents belong, and changes none but its log file
(`files_left_by_run`).
-/

namespace SnippetBench.Cli

open Files (Action Location Path Tree)
open Files.Tree (Grows Loses SameBut)

variable {w : World} {documents : Path → Prop} {names : List Text} {s t : Session}

/-! ### Stages and runs -/

/-- A script of some documents belongs to a location. -/
def IsScriptPlace (documents : Path → Prop) (tree : Tree) (place : Location) : Prop :=
  ∃ p script, documents p ∧ p.script? = some script ∧ tree.locate script = .ok place

/-- Where a script belongs is the same in trees that differ in some files. -/
theorem IsScriptPlace.of_sameBut {P : Location → Prop} {tree tree' : Tree} {place : Location}
    (h : IsScriptPlace documents tree place) (hsame : SameBut P tree tree') :
    IsScriptPlace documents tree' place :=
  have ⟨p, script, hp, hscript, hplace⟩ := h
  ⟨p, script, hp, hscript, hsame.locate_eq_ok hplace⟩

/-- **A stage loses at most what stood where a script belongs.** -/
theorem Stage.loses (h : Stage w documents false s t) (hs : Orderly names s) :
    Loses (IsScriptPlace documents s.tree) s.tree t.tree := by
  cases h with
  | step h =>
    rw [(h.settled hs).2]
    exact .refl
  | refused _ htext hscript henter =>
    obtain ⟨dir, hdir, hnames⟩ := Path.exists_inDirectory_of_textAt hscript htext
    exact .of_sameBut (Script.sameBut_of_refused hdir hnames henter)
  | @lifetime t p script _ _ tree hp htext hscript henter hsteps =>
    obtain ⟨dir, hdir, hnames⟩ := Path.exists_inDirectory_of_textAt hscript htext
    obtain ⟨goal, hgoal, hloses, -⟩ := Script.exists_goal_of_lifetime hdir hnames henter
    have hplaced : Orderly names { s with tree } := ⟨hs.tidy, hs.there⟩
    have htree : t.tree = tree := (hsteps.settled hplaced).2
    dsimp only
    rw [htree]
    exact hloses.mono fun place (heq : place = goal) => ⟨p, script, hp, hscript, heq ▸ hgoal⟩

/-- **A run loses at most what stood where scripts belong.** -/
theorem Course.loses (h : Course w documents false s t) (hs : Orderly names s) :
    Loses (IsScriptPlace documents s.tree) s.tree t.tree := by
  induction h with
  | refl => exact .refl
  | tail hfirst hstage ih =>
    have horderly := Follows.orderly (admits_stage w documents false) hfirst hs
    exact ih.trans ((hstage.loses horderly).mono fun place hplace =>
      hplace.of_sameBut ih.same.symm)

variable {common : CommonOptions} {options : RunOptions} {config : Option Config.Configuration}
  {tree : Tree}

/-- No scripts are kept, whatever is configured. -/
def KeepsNoScripts (w : World) (common : CommonOptions) (options : RunOptions) (tree : Tree) :
    Prop :=
  ∀ config bench, Reads w tree common.config config →
    Config.applyOverrides ((config.map (·.bench)).getD {}) options.overrides = .ok bench →
      bench.keep = false

/-- A run that has begun. -/
theorem loses_run (hkeep : KeepsNoScripts w common options tree)
    (h : GoesOn (prepare w common "run") { tree } config s) :
    Loses (IsScriptPlace (benchmarked common options) s.tree) s.tree
      ((run w common options).run.run { tree }).2.tree := by
  obtain ⟨-, hs⟩ := settled_prepare (by decide +kernel) h
  have hreads := (begun_of_goesOn (.run options) h).1.reads
  have hcourse : Course w (benchmarked common options) false s
      ((run w common options).run.run { tree }).2 :=
    course_run h fun bench hbench => hkeep config bench hreads hbench
  exact hcourse.loses hs.orderly

/-- A run that does not begin. -/
theorem grows_run (h : ∀ config s, ¬ GoesOn (prepare w common "run") { tree } config s) :
    Grows (fun _ => False) tree ((run w common options).run.run { tree }).2.tree := by
  rw [session_run_of_not_begun h]
  exact grows_prepare (.run options) h

/-- A file is still there after a run, perhaps with records added at its end if it is the log file;
or else it stood where a script of a document belongs. -/
theorem kept_or_lost (hkeep : KeepsNoScripts w common options tree) {place : Location}
    {bytes : List UInt8} (hfile : tree.find? place = some (.file bytes)) :
    let final := ((run w common options).run.run { tree }).2.tree
    (∃ more, final.find? place = some (.file (bytes ++ more)) ∧
        (more ≠ [] → ∃ config, Reads w tree common.config config ∧ IsLogFile config final place)) ∨
      final.find? place = none ∧ IsScriptPlace (benchmarked common options) final place := by
  intro final
  by_cases hbegin : ∃ config s, GoesOn (prepare w common "run") { tree } config s
  · obtain ⟨config, s, hgoes⟩ := hbegin
    have hloses : Loses (IsScriptPlace (benchmarked common options) s.tree) s.tree final :=
      loses_run hkeep hgoes
    obtain ⟨hcan, hbegun⟩ := begun_of_goesOn (.run options) hgoes
    have hgrows := grows_begunTree w common config tree
    rw [← hbegun.tree] at hgrows
    obtain ⟨more, hmore, hlog⟩ := hgrows.file place bytes hfile
    rcases hloses.gone place with hsame | hnone
    · refine .inl ⟨more, hsame.trans hmore, fun hne => ?_⟩
      obtain ⟨p, hp, hplace⟩ := hlog hne
      exact ⟨config, hcan.reads, p, hp, hloses.same.locate_eq_ok hplace⟩
    · refine .inr ⟨hnone, ?_⟩
      by_contra hscript
      have hstill := hloses.same.find place fun hplace => hscript (hplace.of_sameBut hloses.same)
      rw [hnone, hmore] at hstill
      cases hstill
  · have hgrows : Grows (fun _ => False) tree final :=
      grows_run fun config s hgoes => hbegin ⟨config, s, hgoes⟩
    obtain ⟨more, hmore, hlog⟩ := hgrows.file place bytes hfile
    exact .inl ⟨more, hmore, fun hne => (hlog hne).elim⟩

/-- **The files that are left.** Something that touches no file is done during the lifetime of a
script that is not kept: then all files are as before but for the location of the script, which is
empty, unless the script was refused. A benchmark run that keeps no scripts leaves the files as it
found them when it had begun, but for locations where scripts of its documents belong, which may be
empty. It loses no other file, and changes none but its log file. -/
theorem files_left_by_run :
    (∀ (tree : Tree) (p script : Path) (entry : Files.Entry) (text : Text) (α : Type)
        (body : Action α), tree.entryAt p = .ok entry → p.script? = some script →
        (∀ tree, (body.run.run tree).2 = tree) →
      let entered := (Script.enter script text).run.run tree
      let left := (Script.during script text false body).run.run tree
      left.2.entryAt p = .ok entry ∧
        ((∃ f, entered.1 = .error f ∧ left.1 = .error f ∧
            ∀ place, left.2.find? place = tree.find? place) ∨
          ∃ goal, entered.1 = .ok () ∧ left.1 = (body.run.run entered.2).1 ∧
            tree.locate script = .ok goal ∧ left.2.find? goal = none ∧
            (∀ place, place ≠ goal → left.2.find? place = tree.find? place) ∧
            ((∀ place, left.2.find? place = tree.find? place) ↔ tree.find? goal = none))) ∧
    ∀ (w : World) (common : CommonOptions) (options : RunOptions) (tree : Tree),
      KeepsNoScripts w common options tree →
      let final := ((run w common options).run.run { tree }).2.tree
      (∀ config s, GoesOn (prepare w common "run") { tree } config s →
        Loses (IsScriptPlace (benchmarked common options) s.tree) s.tree final) ∧
      ∀ place bytes, tree.find? place = some (.file bytes) →
        (∃ more, final.find? place = some (.file (bytes ++ more)) ∧
            (more ≠ [] →
              ∃ config, Reads w tree common.config config ∧ IsLogFile config final place)) ∨
          final.find? place = none ∧ IsScriptPlace (benchmarked common options) final place :=
  ⟨fun _ _ _ _ text _ _ hdocument hscript hbody =>
      Script.during_leaves hdocument hscript text hbody,
    fun _ _ _ _ hkeep => ⟨fun _ _ hgoes => loses_run hkeep hgoes,
      fun _ _ hfile => kept_or_lost hkeep hfile⟩⟩

/-- A document beside which a file stands where its script belongs. -/
theorem files_left_by_run_crossed :
    (let script := Path.ofText "a.pybm.py"
      let left := (Script.during script "x" false (pure () : Action Unit)).run.run crossedTree
      left.2.entryAt (Path.ofText "a.py") = .ok (.file [])) ∧
    KeepsNoScripts talkingWorld {} { paths := ["a.py"] } crossedTree ∧
    (∃ config s, GoesOn (prepare talkingWorld {} "run") { tree := crossedTree } config s ∧
      Loses (IsScriptPlace (benchmarked {} { paths := ["a.py"] }) s.tree) s.tree
        ((run talkingWorld {} { paths := ["a.py"] }).run.run { tree := crossedTree }).2.tree) ∧
    crossedTree.find? ["work", "a.pybm.py"] = some (.file []) := by
  obtain ⟨hduring, hrun⟩ := files_left_by_run
  have hkeep : KeepsNoScripts talkingWorld {} { paths := ["a.py"] } crossedTree := by
    rintro config bench (rfl : config = none) hbench
    have hdefault : (Config.applyOverrides {} (RunOptions.overrides { paths := ["a.py"] })).map
        (·.keep) = .ok false := by decide +kernel
    obtain ⟨bench', hbench', hfalse⟩ := map_eq_ok_iff.1 hdefault
    cases hbench.symm.trans hbench'
    exact hfalse
  obtain ⟨config, s, hbegin, -⟩ : ∃ config s,
      GoesOn (prepare talkingWorld {} "run") { tree := crossedTree } config s ∧ True :=
    exists_goesOn (by decide +kernel) trivial
  exact ⟨(hduring crossedTree (Path.ofText "a.py") _ (.file []) "x" Unit (pure ())
      (by decide +kernel) (by decide +kernel) fun _ => rfl).1, hkeep,
    ⟨config, s, hbegin, (hrun talkingWorld {} _ crossedTree hkeep).1 config s hbegin⟩,
    by decide +kernel⟩

/-- A file that stands where a script belongs is gone when the lifetime of the script is over, and
when a benchmark run is over that keeps no scripts. -/
theorem file_lost_by_lifetime :
    let left := (Script.during (Path.ofText "a.pybm.py") "x" false
      (pure () : Action Unit)).run.run crossedTree
    let outcome := perform talkingWorld crossedTree ["run", "a.py"]
    (Path.ofText "a.py").script? = some (Path.ofText "a.pybm.py") ∧
      crossedTree.entryAt (Path.ofText "a.py") = .ok (.file []) ∧
      crossedTree.find? ["work", "a.pybm.py"] = some (.file []) ∧
      left.1 = .ok () ∧ left.2.find? ["work", "a.pybm.py"] = none ∧
      outcome.ending = .ok 0 ∧ outcome.session.tree.find? ["work", "a.pybm.py"] = none := by
  decide +kernel

end SnippetBench.Cli
