import SnippetBench.Proofs.Cli.LogFile
import SnippetBench.Proofs.Config.Usable
import SnippetBench.Proofs.Files.PathText

/-!
# Two ways to list code

A dry benchmark run that lists the code of its documents, and the command that prints it, begin with
the same files and options, and go through the documents in the same way. What they print differs in
nothing but the texts that stand for the paths: the run writes each path out as it was read, the
other command as it was given (`printed_dryRun`). So both print the same if the paths are given in
the way in which they are written out.
-/

namespace SnippetBench

section FlatMap

variable {α β : Type} {f g : α → List β} {xs : List α}

theorem length_flatMap_le (h : ∀ x ∈ xs, (f x).length ≤ (g x).length) :
    (xs.flatMap f).length ≤ (xs.flatMap g).length := by
  induction xs with
  | nil => exact Nat.le_refl _
  | cons x xs ih =>
    have hx := h x (.head _)
    have hxs := ih fun y hy => h y (.tail _ hy)
    simp only [List.flatMap_cons, List.length_append]
    omega

/-- What is put together from parts is the same only if all parts are, when none of those of the one
is longer than that of the other. -/
theorem flatMap_eq_iff (h : ∀ x ∈ xs, (f x).length ≤ (g x).length) :
    xs.flatMap f = xs.flatMap g ↔ ∀ x ∈ xs, f x = g x := by
  refine ⟨fun heq => ?_, fun heq => List.flatMap_congr heq⟩
  induction xs with
  | nil => exact fun x hx => absurd hx List.not_mem_nil
  | cons x xs ih =>
    have hx := h x (.head _)
    have hxs := length_flatMap_le fun y hy => h y (.tail _ hy)
    have hlength := congrArg List.length heq
    simp only [List.flatMap_cons, List.length_append] at heq hlength
    obtain ⟨hfirst, hrest⟩ := List.append_inj heq (by omega)
    intro y hy
    rcases List.mem_cons.1 hy with rfl | hy
    · exact hfirst
    · exact ih (fun z hz => h z (.tail _ hz)) hrest y hy

end FlatMap

namespace Document.Listing

variable {path path' : Text}

theorem length_location (path name : Text) : (location path name).length =
    (if pathTail < path.length then 3 + pathTail else path.length) + name.length + 1 := by
  have hdots : ("..." : Text).length = 3 := rfl
  unfold location
  dsimp only
  split
  · simp only [List.length_append, List.length_cons, List.length_drop, hdots]
    omega
  · simp only [List.length_append, List.length_cons]
    omega

/-- The listing is not longer for a path that is not longer. -/
theorem length_format_le (h : path.length ≤ path'.length) (snippet : Snippet) (markdown : Bool) :
    (format path snippet markdown).length ≤ (format path' snippet markdown).length := by
  have hlocation : (location path snippet.name).length ≤ (location path' snippet.name).length := by
    rw [length_location, length_location]
    unfold pathTail
    split <;> split <;> omega
  have hheader : (header path snippet markdown).length ≤ (header path' snippet markdown).length := by
    unfold header
    dsimp only
    split
    · simp only [List.length_append, List.length_cons]
      omega
    · simp only [Text.padStart, List.length_append, List.length_replicate]
      omega
  unfold format
  rw [Text.join_cons, Text.join_cons, List.length_append, List.length_append]
  omega

end Document.Listing

namespace Cli

open Document (Item Listing.format)
open Files (Location Path Tree)
open Files.Tree (Grows SameBut)

variable {w : World} {common : CommonOptions} {options : RunOptions}
  {bench : Config.BenchOptions} {runtimes names : List Text} {versions : Interpreter.Versions}
  {base tree : Tree} {s : Session}

/-! ### Options -/

/-- A listing is in markdown if that is asked for or configured. -/
theorem markdown_of_applyOverrides {configured : Config.BenchOptions}
    (h : Config.applyOverrides configured options.overrides = .ok bench) :
    bench.markdown = (options.markdown || configured.markdown) := by
  let flag (b : Bool) : Data := if b then .bool true else .null
  let before : List (Text × Data) :=
    [("samples", (options.samples.map Data.int).getD .null),
      ("iterations", (options.iterations.map Data.int).getD .null),
      ("runtimes", if options.runtimes.isEmpty then .null
        else .list (options.runtimes.map Data.text)), ("keep", flag options.keep)]
  let after : List (Text × Data) :=
    [("timeout_seconds", (options.timeout.map Data.float).getD .null)]
  have hall : ∀ o ∈ options.overrides, o.1 ≠ Config.ownName := by
    simp [RunOptions.overrides]
    decide
  have hbefore : ∀ o ∈ before, o.1 ≠ ("markdown" : Text) := by
    simp [before]
  have hafter : ∀ o ∈ after, o.1 ≠ ("markdown" : Text) := by
    simp [after]
  have hsplit : options.overrides =
      before ++ (("markdown" : Text), flag options.markdown) :: after := rfl
  rw [Config.applyOverrides_eq hall] at h
  obtain ⟨-, -, -, -, -, hmarkdown, -⟩ := Config.readBench_eq_ok (mapError_eq_ok_iff.1 h)
  rw [hsplit, Config.readField_laidOn_given hbefore hafter] at hmarkdown
  cases hflag : options.markdown with
  | true =>
    rw [hflag] at hmarkdown
    exact (Except.ok.inj hmarkdown).symm
  | false =>
    rw [hflag] at hmarkdown
    exact (Except.ok.inj hmarkdown).symm

/-! ### Documents -/

/-- The path of a document that can be read has names: the working directory, where a path without
names leads, is no file. -/
theorem names_ne_nil_of_textAt {p : Path} {text : Text}
    (hhome : base.find? base.home = some .directory) (h : base.textAt p = .ok text) :
    p.names ≠ [] := by
  intro hnone
  obtain ⟨place, hlocate⟩ := Files.Tree.exists_locate_of_textAt h
  have hdirectory : base.find? place = some .directory := by
    have hwalk := (Files.Tree.locate_eq_ok_iff.1 hlocate).2
    rw [hnone] at hwalk
    cases hwalk
    cases p.root with
    | relative => exact hhome
    | slash | doubleSlash => exact Files.Tree.find?_nil
  unfold Files.Tree.textAt Files.Tree.entryAt at h
  simp [hlocate, bind, Except.bind, hdirectory] at h

/-- **A dry run** comes to the listing of a document that can be read, if it lists code. -/
theorem yields_benchmarkDocument_dryRun (hdry : common.dryRun = true)
    (husable : Config.Usable bench) (hhome : base.find? base.home = some .directory)
    (hrun : runLogger ∈ names) (path : Text) :
    let p := Path.ofText path
    Yields (Settled names versions (SameBut (fun _ => False) base))
      (Settled names versions (SameBut (fun _ => False) base))
      (benchmarkDocument w common options bench runtimes path)
      (ending (readingObstacle base p) (readingCode base p))
      (if options.code then listingAt base p p.toText bench.markdown else []) := by
  intro p
  let I := SameBut (fun _ => False) base
  have hdocument (place : Location) : base.locate p = .ok place → ¬ False := fun _ => id
  by_cases hreading : ∃ text items, readingOf base p = .ok (.ok (text, items))
  · obtain ⟨text, items, hreading⟩ := hreading
    have hnames := names_ne_nil_of_textAt hhome (textAt_of_readingOf hreading)
    obtain ⟨script, hscript⟩ : ∃ script, p.script? = some script :=
      ⟨_, Option.map_eq_some_iff.2 ⟨_, List.getLast?_eq_some_getLast hnames, rfl⟩⟩
    obtain ⟨scriptText, hbuild⟩ : ∃ scriptText, scriptOf bench p text items = .ok scriptText :=
      ⟨_, Script.build_eq husable.samples husable.iterations items⟩
    have hrun' : runLogger ∈ documentLoggers.reverse ++ scriptLogger :: names :=
      List.mem_append_right _ (.tail _ hrun)
    have hwork : Yields (Settled (documentLoggers.reverse ++ scriptLogger :: names) versions I)
        (Settled (documentLoggers.reverse ++ scriptLogger :: names) versions I)
        (workOnItems w common bench runtimes p text items).run (ending none (.ok .success)) [] := by
      unfold workOnItems
      rw [hbuild, hscript, hdry]
      exact (yields_part_note w hrun' (by decide +kernel) _ _ _).part_next (Yields.pure _)
    have hyields := yields_benchmarkDocument_read w common options bench hdocument hrun hreading
      hwork
    unfold readingObstacle readingCode listingAt
    rw [List.append_nil] at hyields
    rw [hreading]
    exact hyields
  · have hunread : ∀ document, readingOf base p ≠ .ok (.ok document) :=
      fun document h => hreading ⟨document.1, document.2, h⟩
    rw [listingAt_unread hunread, ite_self]
    exact yields_benchmarkDocument_unread w common options bench hdocument hrun hunread

/-! ### Commands -/

/-- The listings of the documents that are reached, with texts for their paths. -/
def listingsOf (tree : Tree) (shown : Text → Text) (markdown : Bool) (paths : List Text) :
    List Text :=
  (reached (fun path => readingObstacle tree (Path.ofText path)) paths).flatMap fun path =>
    listingAt tree (Path.ofText path) (shown path) markdown

variable {config : Option Config.Configuration}

/-- What the command prints that prints code. -/
theorem printed_printCode (h : GoesOn (prepare w common "code") { tree } config s)
    (paths : List Text) (markdown : Bool) :
    ((printCode w common paths markdown).run.run { tree }).2.printed =
      listingsOf s.tree id (markdown || (config.map (·.bench.markdown)).getD false) paths := by
  obtain ⟨hprinted, hsettled⟩ := settled_prepare (by decide +kernel) h
  let I := Settled [commandLogger "code"] [] (SameBut (fun _ => False) s.tree)
  have hs : I s := ⟨hsettled.tidy, hsettled.there, hsettled.versions, SameBut.refl⟩
  let obstacle (path : Text) := readingObstacle s.tree (Path.ofText path)
  have hyields (markdown : Bool) : Yields I I (forPaths (printDocument w markdown) paths)
      (ending (paths.findSome? obstacle)
        (worstOf (paths.map fun path => readingCode s.tree (Path.ofText path))))
      (listingsOf s.tree id markdown paths) :=
    yields_forPaths (I := fun _ => I) (fun _ _ hs => hs) [] fun _ path _ _ =>
      yields_printDocument w markdown path (.head _) fun _ => id
  obtain ⟨-, hlines, -⟩ := hyields (markdown || (config.map (·.bench.markdown)).getD false) s hs
  rw [run_printCode h, hlines, hprinted, List.nil_append]

/-- **What a dry run comes to** once it is settled: an exit code, which is the worst of those of its
documents if no document is an obstacle, and the listings that are asked for. -/
theorem dryRun_settled (hdry : common.dryRun = true)
    (husable : Config.Usable bench) (hhome : s.tree.find? s.tree.home = some .directory)
    (h : GoesOn (settle w common options) { tree } (bench, runtimes) s) :
    let out := (run w common options).run.run { tree }
    out.1 = ((options.paths.findSome? fun path => readingObstacle s.tree (Path.ofText path)).elim
        (.ok (worstOf (options.paths.map fun path => readingCode s.tree (Path.ofText path))))
        fun _ => .ok .runtimeError) ∧
      out.2.printed =
        if options.code then
          listingsOf s.tree (fun path => (Path.ofText path).toText) bench.markdown options.paths
        else [] := by
  obtain ⟨hprinted, hsettled, -⟩ := settled_settle h
  let I := Settled [hostLogger, runLogger] s.versions (SameBut (fun _ => False) s.tree)
  have hs : I s := ⟨hsettled.tidy, hsettled.there, rfl, SameBut.refl⟩
  have hrun : runLogger ∈ [hostLogger, runLogger] := .tail _ (.head _)
  let obstacle (path : Text) := readingObstacle s.tree (Path.ofText path)
  let lines (path : Text) :=
    listingAt s.tree (Path.ofText path) (Path.ofText path).toText bench.markdown
  have hyields : Yields I I (forPaths (benchmarkDocument w common options bench runtimes)
        options.paths)
      (ending (options.paths.findSome? obstacle)
        (worstOf (options.paths.map fun path => readingCode s.tree (Path.ofText path))))
      ((reached obstacle options.paths).flatMap fun path =>
        if options.code then lines path else []) :=
    yields_forPaths (I := fun _ => I) (fun _ _ hs => hs) [] fun _ path _ _ =>
      yields_benchmarkDocument_dryRun hdry husable hhome hrun path
  obtain ⟨hending, hlines, -⟩ := yields_benchmarkSettled hrun hyields s hs
  have hsame : (run w common options).run.run { tree } = _ := run_settled h options.paths
  intro out
  refine ⟨(congrArg Prod.fst hsame).trans hending, (congrArg (·.2.printed) hsame).trans ?_⟩
  rw [hlines, hprinted, List.nil_append]
  split
  · rfl
  · simp

/-- What has been settled for a benchmark run when the files are those with which the other command
begins. -/
structure Agreed (w : World) (common : CommonOptions) (options : RunOptions) (tree : Tree)
    (bench : Config.BenchOptions) (s : Session) (config : Option Config.Configuration) : Prop where
  can : CanBegin w common tree config
  tree : s.tree = begunTree w common config tree
  usable : Config.Usable bench
  markdown : bench.markdown = (options.markdown || (config.map (·.bench.markdown)).getD false)

/-- Selecting runtimes leaves the files as they are. -/
theorem exists_agreed (h : GoesOn (settle w common options) { tree } (bench, runtimes) s) :
    ∃ config, Agreed w common options tree bench s config := by
  unfold settle at h
  obtain ⟨config, s₁, hprepare, hrest⟩ := goesOn_bind.1 h
  obtain ⟨hcan, hbegun⟩ := begun_of_goesOn (.run options) hprepare
  obtain ⟨-, hs⟩ := settled_prepare (by decide +kernel) hprepare
  obtain ⟨bench', s₂, hbench, hselect⟩ := goesOn_bind.1 hrest
  rw [session_of_benchOptions hbench] at hselect
  have hfollows := follows_selectRuntimes (admits_step w none) (.head _) options.runtimes
    bench'.runtimes (f := fun runtimes => pure (bench', runtimes)) (fun _ => Follows.pure _) s₁
    hs.orderly
  rw [hselect] at hfollows
  obtain ⟨_, _, _, hpair⟩ := goesOn_bind.1 hselect
  cases (goesOn_pure.1 hpair).1
  have hoverrides := applyOverrides_of_benchOptions hbench
  refine ⟨config, hcan, (Steps.settled hfollows hs.orderly).2.trans hbegun.tree,
    Config.usable_of_applyOverrides hoverrides, ?_⟩
  rw [markdown_of_applyOverrides hoverrides]
  cases config <;> rfl

/-! ### Agreement -/

/-- A listing as it is printed. -/
def listingText (tree : Tree) (p : Path) (shown : Text) (markdown : Bool) : Text :=
  (listingAt tree p shown markdown).flatMap (· ++ ['\n'])

theorem listingText_of_readingOf {p : Path} {text : Text} {items : List Item}
    (h : readingOf tree p = .ok (.ok (text, items))) (shown : Text) (markdown : Bool) :
    listingText tree p shown markdown =
      (Document.snippets items).flatMap fun snippet =>
        Document.Listing.format shown snippet markdown ++ ['\n'] := by
  unfold listingText listingAt
  rw [h]
  simp [listingOf, List.flatMap_assoc]

theorem listingText_unread {p : Path} (h : ∀ document, readingOf tree p ≠ .ok (.ok document))
    (shown : Text) (markdown : Bool) : listingText tree p shown markdown = [] := by
  unfold listingText
  rw [listingAt_unread h]
  rfl

/-- Listings of one document with two texts for its path, of which the first is not longer. -/
theorem listingText_eq_iff {p : Path} {shown shown' : Text} {markdown : Bool}
    (h : ∀ text items, readingOf tree p = .ok (.ok (text, items)) → shown.length ≤ shown'.length) :
    (listingText tree p shown markdown).length ≤ (listingText tree p shown' markdown).length ∧
      (listingText tree p shown markdown = listingText tree p shown' markdown ↔
        ∀ text items, readingOf tree p = .ok (.ok (text, items)) →
          ∀ snippet ∈ Document.snippets items, Document.Listing.format shown snippet markdown =
            Document.Listing.format shown' snippet markdown) := by
  by_cases hread : ∃ text items, readingOf tree p = .ok (.ok (text, items))
  · obtain ⟨text, items, hreading⟩ := hread
    have hle : ∀ snippet ∈ Document.snippets items,
        (Document.Listing.format shown snippet markdown ++ ['\n']).length ≤
          (Document.Listing.format shown' snippet markdown ++ ['\n']).length := by
      intro snippet _
      have hformat :=
        Document.Listing.length_format_le (h text items hreading) snippet markdown
      simpa using hformat
    rw [listingText_of_readingOf hreading, listingText_of_readingOf hreading]
    refine ⟨length_flatMap_le hle, ?_⟩
    rw [flatMap_eq_iff hle]
    constructor
    · intro heq text' items' hreading' snippet hsnippet
      cases hreading.symm.trans hreading'
      exact List.append_cancel_right (heq snippet hsnippet)
    · intro heq snippet hsnippet
      rw [heq text items hreading snippet hsnippet]
  · have hunread : ∀ document, readingOf tree p ≠ .ok (.ok document) :=
      fun document hreading => hread ⟨document.1, document.2, hreading⟩
    rw [listingText_unread hunread, listingText_unread hunread]
    exact ⟨Nat.le_refl _, iff_of_true rfl fun text items hreading =>
      absurd hreading (hunread (text, items))⟩

theorem reached_map (obstacle : Text → Option Trouble) (g : Text → Text) (paths : List Text) :
    reached obstacle (paths.map g) = (reached (fun path => obstacle (g path)) paths).map g := by
  induction paths with
  | nil => rfl
  | cons path paths ih =>
    rw [List.map_cons, reached, reached, List.map_cons, ih]
    split <;> rfl

/-- A path as it is written out when it was read. -/
def written (path : Text) : Text := (Path.ofText path).toText

theorem ofText_written (path : Text) : Path.ofText (written path) = Path.ofText path :=
  Path.ofText_toText (Path.isRead_ofText path)

/-- Listings with the written out paths are those of the written out paths. -/
theorem listingsOf_written (tree : Tree) (markdown : Bool) (paths : List Text) :
    listingsOf tree written markdown paths = listingsOf tree id markdown (paths.map written) := by
  unfold listingsOf
  rw [reached_map]
  simp only [ofText_written, List.flatMap_map, id]

/-- **Two ways to list code agree but for the paths.** A dry run that lists code, once its runtimes
are found, prints what the other command prints for the paths as they are written out when they were
read. It prints the same for the paths as they are given exactly if every listing that is reached is
the same with either text for the path. -/
theorem printed_dryRun (hcode : options.code = true) (hdry : common.dryRun = true)
    (hhome : tree.find? tree.home = some .directory)
    (h : GoesOn (settle w common options) { tree } (bench, runtimes) s) :
    let listed := ((run w common options).run.run { tree }).2
    let printed (paths : List Text) :=
      ((printCode w { common with dryRun := false } paths options.markdown).run.run { tree }).2
    listed.printed = (printed (options.paths.map written)).printed ∧
      (listed.output = (printed options.paths).output ↔
        ∀ path ∈ reached (fun path => readingObstacle s.tree (Path.ofText path)) options.paths,
          ∀ text items, readingOf s.tree (Path.ofText path) = .ok (.ok (text, items)) →
            ∀ snippet ∈ Document.snippets items,
              Document.Listing.format (written path) snippet bench.markdown =
                Document.Listing.format path snippet bench.markdown) := by
  obtain ⟨config, hagreed⟩ := exists_agreed h
  obtain ⟨s', hbegin, hbegun⟩ := exists_begun (.code options.paths options.markdown) hagreed.can
  have htree : s'.tree = s.tree := hbegun.tree.trans hagreed.tree.symm
  have hgrows := grows_begunTree w common config tree
  rw [← hagreed.tree] at hgrows
  have hhome' : s.tree.find? s.tree.home = some .directory := by
    rw [hgrows.home]
    exact hgrows.directory _ hhome
  have hlisted := (dryRun_settled hdry hagreed.usable hhome' h).2
  rw [if_pos hcode] at hlisted
  have hprinted := printed_printCode hbegin
  intro listed printed
  replace hlisted : listed.printed = listingsOf s.tree written bench.markdown options.paths := hlisted
  replace hprinted (paths : List Text) :
      (printed paths).printed = listingsOf s.tree id bench.markdown paths := by
    rw [hagreed.markdown, ← htree]
    -- the command that prints code is the same in a dry run
    exact hprinted paths options.markdown
  refine ⟨by rw [hlisted, hprinted, listingsOf_written], ?_⟩
  have hlength : ∀ path, ∀ text items,
      readingOf s.tree (Path.ofText path) = .ok (.ok (text, items)) →
        (written path).length ≤ path.length := fun path text items hreading =>
    Path.length_toText_le (names_ne_nil_of_textAt hhome' (textAt_of_readingOf hreading))
  have houtput (shown : Text → Text) (paths : List Text) :
      (listingsOf s.tree shown bench.markdown paths).flatMap (· ++ ['\n']) =
        (reached (fun path => readingObstacle s.tree (Path.ofText path)) paths).flatMap fun path =>
          listingText s.tree (Path.ofText path) (shown path) bench.markdown :=
    List.flatMap_assoc ..
  have hle : ∀ path ∈ reached (fun path => readingObstacle s.tree (Path.ofText path)) options.paths,
      (listingText s.tree (Path.ofText path) (written path) bench.markdown).length ≤
        (listingText s.tree (Path.ofText path) path bench.markdown).length :=
    fun path _ => (listingText_eq_iff (hlength path)).1
  unfold Session.output
  rw [hlisted, hprinted, houtput, houtput]
  exact (flatMap_eq_iff hle).trans
    (forall₂_congr fun path _ => (listingText_eq_iff (hlength path)).2)

/-- A directory with a document that has a snippet. -/
def snippetTree : Tree :=
  Tree.empty.put ["work", "a.py"] (.file (Text.Utf8.encode "#@bench s\nx\n"))

/-- A document whose path is given with a dot. -/
theorem printed_dryRun_dotted :
    ∃ bench runtimes s,
      let listed := ((run talkingWorld { dryRun := true }
        { paths := ["./a.py"], code := true }).run.run { tree := snippetTree }).2
      let printed (path : Text) :=
        ((printCode talkingWorld {} [path] false).run.run { tree := snippetTree }).2
      GoesOn (settle talkingWorld { dryRun := true } { paths := ["./a.py"], code := true })
          { tree := snippetTree } (bench, runtimes) s ∧
        snippetTree.find? snippetTree.home = some .directory ∧
        listed.printed = (printed "a.py").printed := by
  obtain ⟨⟨bench, runtimes⟩, s, hsettled, -⟩ : ∃ settled s,
      GoesOn (settle talkingWorld { dryRun := true } { paths := ["./a.py"], code := true })
        { tree := snippetTree } settled s ∧ True :=
    exists_goesOn (by decide +kernel) trivial
  have hhome : snippetTree.find? snippetTree.home = some .directory := by decide +kernel
  have hwritten : written "./a.py" = "a.py" := by decide +kernel
  have hprinted := (printed_dryRun rfl rfl hhome hsettled).1
  rw [List.map_cons, List.map_nil, hwritten] at hprinted
  exact ⟨bench, runtimes, s, hsettled, hhome, hprinted⟩

/-- The two ways to list code do not agree on a path that is not given as it is written out. -/
theorem listings_disagree :
    let listed := perform talkingWorld snippetTree ["run", "./a.py", "--code", "--dry-run"]
    let printed := perform talkingWorld snippetTree ["code", "./a.py"]
    listed.ending = .ok 0 ∧ printed.ending = .ok 0 ∧
      listed.session.output ≠ printed.session.output := by
  decide +kernel

end Cli

end SnippetBench
