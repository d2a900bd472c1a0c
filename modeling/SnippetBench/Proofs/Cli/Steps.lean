import SnippetBench.Proofs.Cli.Isolation
import Mathlib.Logic.Relation

/-!
# Steps of a command

Once a command has begun, it goes from session to session in small steps: it prints a line, tells a
record of a logger that is there, sets a logger up that is not, notes versions of runtimes, or starts
the script that is in place (`Step`). None of these steps touches the files. A benchmark run
interrupts them with stages of another kind, in each of which the script of a document that can be
read is put in place and taken away again, or refused (`Stage`).

Work goes by steps, or by stages, where some loggers are there if it does from every session in which
they are (`Follows`). Work that is put together from other work does so if its parts do.
-/

namespace SnippetBench.Cli

open Files (Path Tree)
open Log (Level Record)
open Log.Registry (Tidy)
open Relation (ReflTransGen)

variable {w : World} {running : Option Path} {names : List Text} {s t : Session}

/-! ### Steps -/

/-- The loggers that are set up when they are first needed. -/
def lateLoggers : List Text := [hostLogger, scriptLogger] ++ documentLoggers

/-- A session whose loggers are in order: the registry is tidy, and some loggers are there. -/
structure Orderly (names : List Text) (s : Session) : Prop where
  tidy : Tidy innerNames Startup.loggerName s.registry
  there : ∀ name ∈ names, (s.registry.find? name).isSome

theorem Orderly.settled (h : Orderly names s) : Settled names s.versions (· = s.tree) s :=
  ⟨h.tidy, h.there, rfl, rfl⟩

theorem Settled.orderly {versions : Interpreter.Versions} {I : Tree → Prop}
    (h : Settled names versions I s) : Orderly names s :=
  ⟨h.tidy, h.there⟩

/-- A step of a command. A script is started only while it is in place. -/
inductive Step (w : World) (running : Option Path) : Session → Session → Prop
  | print (s : Session) (line : Text) : Step w running s { s with printed := s.printed ++ [line] }
  | tell (s : Session) {r : Record} (hquiet : r.logger ∈ quietLoggers)
      (hthere : (s.registry.find? r.logger).isSome) (hr : r.reserved? = none) :
      Step w running s ((Work.tell w r).run.run s).2
  | need (s : Session) {name : Text} (hlate : name ∈ lateLoggers)
      (hnew : (s.registry.find? name).isNone) :
      Step w running s ((Work.setUpLogger name Level.info.name).run.run s).2
  | ask (s : Session) (versions : Interpreter.Versions) : Step w running s { s with versions }
  | start (s : Session) {script : Path} (hscript : running = some script) (runtime : Text) :
      Step w running s { s with started := s.started ++ [(runtime, script)] }

/-- Several steps. -/
abbrev Steps (w : World) (running : Option Path) : Session → Session → Prop :=
  ReflTransGen (Step w running)

theorem mem_quietLoggers_of_late {name : Text} (h : name ∈ lateLoggers) : name ∈ quietLoggers := by
  have hall : ∀ name ∈ lateLoggers, name ∈ quietLoggers := by decide +kernel
  exact hall name h

/-- A step leaves the loggers in order, and the files as they are. -/
theorem Step.settled (h : Step w running s t) (hs : Orderly names s) :
    Orderly names t ∧ t.tree = s.tree := by
  cases h with
  | print => exact ⟨⟨hs.tidy, hs.there⟩, rfl⟩
  | @tell r hquiet hthere =>
    have hnames : ∀ name ∈ r.logger :: names, (s.registry.find? name).isSome := by
      intro name hname
      rcases List.mem_cons.1 hname with rfl | hname
      · exact hthere
      · exact hs.there name hname
    obtain ⟨-, -, ht⟩ := yields_tell w (.head names) hquiet s ⟨hs.tidy, hnames, rfl, Eq.refl s.tree⟩
    exact ⟨⟨ht.tidy, fun name hname => ht.there name (.tail _ hname)⟩, ht.tree.symm⟩
  | need hlate =>
    obtain ⟨-, -, ht⟩ := yields_setUpLogger (mem_quietLoggers_of_late hlate) .info s hs.settled
    exact ⟨⟨ht.tidy, fun name hname => ht.there name (.tail _ hname)⟩, ht.tree⟩
  | ask => exact ⟨⟨hs.tidy, hs.there⟩, rfl⟩
  | start => exact ⟨⟨hs.tidy, hs.there⟩, rfl⟩

theorem Steps.settled (h : Steps w running s t) (hs : Orderly names s) :
    Orderly names t ∧ t.tree = s.tree := by
  induction h with
  | refl => exact ⟨hs, rfl⟩
  | tail _ hstep ih =>
    obtain ⟨hmid, htree⟩ := ih
    obtain ⟨ht, htree'⟩ := hstep.settled hmid
    exact ⟨ht, htree'.trans htree⟩

/-- A stage of a benchmark run: a step, or what is done with the script of a document that can be
read. The script is refused, or it is in place for some steps and then left. -/
inductive Stage (w : World) (documents : Path → Prop) (keep : Bool) : Session → Session → Prop
  | step {s t : Session} (h : Step w none s t) : Stage w documents keep s t
  | refused (s : Session) {p script : Path} {text scriptText : Text} {f : Files.Failure}
      {tree : Tree} (hp : documents p) (htext : s.tree.textAt p = .ok text)
      (hscript : p.script? = some script)
      (henter : (Script.enter script scriptText).run.run s.tree = (.error f, tree)) :
      Stage w documents keep s { s with tree }
  | lifetime {s t : Session} {p script : Path} {text scriptText : Text} {tree : Tree}
      (hp : documents p) (htext : s.tree.textAt p = .ok text) (hscript : p.script? = some script)
      (henter : (Script.enter script scriptText).run.run s.tree = (.ok (), tree))
      (hsteps : Steps w (some script) { s with tree } t) :
      Stage w documents keep s { t with tree := ((Script.leave script keep).run t.tree).2 }

/-- The course of a command. -/
abbrev Course (w : World) (documents : Path → Prop) (keep : Bool) : Session → Session → Prop :=
  ReflTransGen (Stage w documents keep)

theorem Stage.orderly {documents : Path → Prop} {keep : Bool} (h : Stage w documents keep s t)
    (hs : Orderly names s) : Orderly names t := by
  cases h with
  | step h => exact (h.settled hs).1
  | refused => exact ⟨hs.tidy, hs.there⟩
  | @lifetime _ _ _ _ _ tree _ _ _ _ hsteps =>
    have hplaced : Orderly names { s with tree } := ⟨hs.tidy, hs.there⟩
    obtain ⟨ht, -⟩ := hsteps.settled hplaced
    exact ⟨ht.tidy, ht.there⟩

/-- Setting loggers up that are not there yet. -/
theorem run_needLoggers (w : World) (running : Option Path) {needed : List Text}
    (hlate : ∀ name ∈ needed, name ∈ lateLoggers) (hs : Orderly names s) :
    ∃ registry, (Work.needLoggers needed).run.run s = (.ok (), { s with registry }) ∧
      Steps w running s { s with registry } ∧
      Orderly (needed.reverse ++ names) { s with registry } := by
  induction needed generalizing names s with
  | nil => exact ⟨s.registry, rfl, .refl, hs⟩
  | cons name needed ih =>
    have hfirst : ∃ registry, (do
          if ((← get).registry.find? name).isNone then Work.setUpLogger name Level.info.name
          return ForInStep.yield PUnit.unit : Work (ForInStep PUnit)).run.run s =
            (.ok (.yield PUnit.unit), { s with registry }) ∧
        Steps w running s { s with registry } ∧ Orderly (name :: names) { s with registry } := by
      rw [run_get_bind]
      by_cases hnone : (s.registry.find? name).isNone = true
      · have hquiet := mem_quietLoggers_of_late (hlate name (.head _))
        have hrun := run_setUpLogger (isLeaf_of_mem_quietLoggers hquiet).1 .info hs.tidy
        obtain ⟨-, -, ht⟩ := yields_setUpLogger hquiet .info s hs.settled
        have hstep : Step w running s ((Work.setUpLogger name Level.info.name).run.run s).2 :=
          .need s (hlate name (.head _)) hnone
        rw [hrun] at ht hstep
        rw [if_pos hnone, run_bind_ok hrun]
        exact ⟨_, rfl, .single hstep, ht.orderly⟩
      · rw [if_neg hnone]
        refine ⟨s.registry, rfl, .refl, hs.tidy, fun n hn => ?_⟩
        rcases List.mem_cons.1 hn with rfl | hn
        · simpa [Option.isSome_iff_ne_none, Option.isNone_iff_eq_none] using hnone
        · exact hs.there n hn
    obtain ⟨registry, hrun, hsteps, ht⟩ := hfirst
    obtain ⟨registry', hrun', hsteps', ht'⟩ := ih (fun n hn => hlate n (.tail _ hn)) ht
    unfold Work.needLoggers at hrun' ⊢
    rw [List.forIn_cons, bind_assoc, List.reverse_cons, List.append_assoc, List.singleton_append]
    exact ⟨registry', (run_bind_ok hrun).trans hrun', hsteps.trans hsteps', ht'⟩

/-! ### Work that follows a course -/

/-- A relation of sessions that the steps belong to and that leaves the loggers in order. -/
structure Admits (w : World) (running : Option Path) (R : Session → Session → Prop) : Prop where
  step : ∀ s t, Step w running s t → R s t
  orderly : ∀ names s t, R s t → Orderly names s → Orderly names t

theorem admits_step (w : World) (running : Option Path) : Admits w running (Step w running) :=
  ⟨fun _ _ h => h, fun _ _ _ h hs => (h.settled hs).1⟩

theorem admits_stage (w : World) (documents : Path → Prop) (keep : Bool) :
    Admits w none (Stage w documents keep) :=
  ⟨fun _ _ h => .step h, fun _ _ _ h hs => h.orderly hs⟩

theorem Steps.follow {R : Session → Session → Prop} (h : Steps w running s t)
    (hR : Admits w running R) : ReflTransGen R s t :=
  h.lift id hR.step

/-- Where some loggers are there, work goes from session to session as a relation says. -/
def Follows {α : Type} (R : Session → Session → Prop) (names : List Text) (work : Work α) : Prop :=
  ∀ s, Orderly names s → ReflTransGen R s (work.run.run s).2

namespace Follows

variable {α β : Type} {R : Session → Session → Prop} {work : Work α} {f : α → Work β}

theorem pure (a : α) : Follows R names (pure a : Work α) := fun _ _ => .refl

theorem throw (e : Trouble) : Follows R names (throw e : Work α) := fun _ _ => .refl

theorem get_bind {f : Session → Work α} (h : ∀ s, Follows R names (f s)) :
    Follows R names (get >>= f) :=
  fun s hs => h s s hs

/-- A part that looks at the session first. -/
theorem part_get {f : Session → Part α}
    (h : ∀ s, Orderly names s → ReflTransGen R s ((f s).run.run.run s).2) :
    Follows R names (get >>= f).run :=
  fun s hs => h s hs

theorem part_get_bind {f : Session → Part α} (h : ∀ s, Follows R names (f s).run) :
    Follows R names (get >>= f).run :=
  part_get fun s hs => h s s hs

/-- A part that goes to another session first. -/
theorem part_set_bind {f : PUnit → Part α} (h : Follows R names (f ⟨⟩).run) (hstep : R s t)
    (ht : Orderly names t) : ReflTransGen R s ((set t >>= f).run.run.run s).2 :=
  .head hstep (h t ht)

/-- A part behind another one that goes on. -/
theorem part_bind_goesOn {part : Part α} {f : α → Part β} (h : Follows R names part.run)
    (h' : ∀ s a t, Orderly names s → GoesOn part s a t →
      ReflTransGen R t ((f a).run.run.run t).2) : Follows R names (part >>= f).run := by
  intro s hs
  have hfirst := h s hs
  rw [ExceptT.run_bind]
  rcases hrun : part.run.run.run s with ⟨trouble | exit | a, t⟩
  · rw [run_bind_error hrun]
    rwa [hrun] at hfirst
  · rw [run_bind_ok hrun]
    rwa [hrun] at hfirst
  · rw [run_bind_ok hrun]
    rw [hrun] at hfirst
    exact hfirst.trans (h' s a t hs hrun)

section Admits

variable (hR : Admits w running R)

include hR

theorem of_step (h : ∀ s, Orderly names s → Step w running s (work.run.run s).2) :
    Follows R names work :=
  fun s hs => .single (hR.step _ _ (h s hs))

theorem orderly (h : ReflTransGen R s t) (hs : Orderly names s) : Orderly names t := by
  induction h with
  | refl => exact hs
  | tail _ hstep ih => exact hR.orderly _ _ _ hstep ih

theorem bind (h : Follows R names work) (h' : ∀ a, Follows R names (f a)) :
    Follows R names (work >>= f) := by
  intro s hs
  have hfirst := h s hs
  rcases hrun : work.run.run s with ⟨result, t⟩
  rw [hrun] at hfirst
  cases result with
  | error e =>
    rw [run_bind_error hrun]
    exact hfirst
  | ok a =>
    rw [run_bind_ok hrun]
    exact hfirst.trans (h' a t (orderly hR hfirst hs))

theorem forIn_list {γ : Type} {step : γ → Work Unit} {xs : List γ}
    (h : ∀ x ∈ xs, Follows R names (step x)) :
    Follows R names
      (forIn xs PUnit.unit fun x _ => do
        step x
        return ForInStep.yield PUnit.unit) := by
  induction xs with
  | nil => exact pure _
  | cons x xs ih =>
    rw [List.forIn_cons, bind_assoc]
    exact bind hR (h x (.head _)) fun _ => ih fun y hy => h y (.tail _ hy)

/-! ### Parts of commands -/

theorem part_bind {part : Part α} {f : α → Part β} (h : Follows R names part.run)
    (h' : ∀ a, Follows R names (f a).run) : Follows R names (part >>= f).run := by
  refine part_bind_goesOn h fun s a t hs hgoes => h' a t (orderly hR ?_ hs)
  have hfirst := h s hs
  rwa [hgoes] at hfirst

theorem lift (h : Follows R names work) : Follows R names (liftM work : Part α).run :=
  bind hR h fun _ => pure _

/-- A part behind the setting up of loggers that are needed, which are there then. -/
theorem part_need_bind {needed : List Text} (hlate : ∀ name ∈ needed, name ∈ lateLoggers)
    {f : Unit → Part α} (h : Follows R (needed.reverse ++ names) (f ()).run) :
    Follows R names (liftM (Work.needLoggers needed) >>= f).run := by
  intro s hs
  obtain ⟨registry, hrun, hsteps, hneeded⟩ := run_needLoggers w running hlate hs
  rw [(goesOn_lift.2 hrun).run_bind]
  exact (hsteps.follow hR).trans (h _ hneeded)

theorem finish {part : Part ExitCode} (h : Follows R names part.run) :
    Follows R names part.finish := by
  refine bind hR h fun result => ?_
  cases result with
  | ok code => exact pure _
  | error code => exact pure _

end Admits

end Follows

end SnippetBench.Cli
