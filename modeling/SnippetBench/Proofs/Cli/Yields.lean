import SnippetBench.Cli.Preparation
import SnippetBench.Proofs.Except

/-!
# What work comes to

Work in a session comes to a result and to printed lines. `Yields I J work result lines` says that
these are the same in all sessions of the kind `I`, and that sessions of the kind `J` are left. The
lemmas go through work step by step: the lines of two steps follow each other, and a trouble or an
exit code ends what is done.
-/

namespace SnippetBench.Cli

variable {α β : Type} {I J K : Session → Prop} {lines lines' : List Text}

/-- In all sessions of a kind, work has the same result, prints the same lines and leaves a session
of another kind. -/
def Yields (I J : Session → Prop) (work : Work α) (result : Except Trouble α)
    (lines : List Text) : Prop :=
  ∀ s, I s → (work.run.run s).1 = result ∧ (work.run.run s).2.printed = s.printed ++ lines ∧
    J (work.run.run s).2

namespace Yields

section Work

variable {work : Work α} {f : α → Work β} {result : Except Trouble α} {result' : Except Trouble β}

theorem mono {I' J' : Session → Prop} (h : Yields I J work result lines)
    (hI : ∀ s, I' s → I s) (hJ : ∀ s, J s → J' s) : Yields I' J' work result lines :=
  fun s hs =>
    have ⟨hresult, hlines, hleft⟩ := h s (hI s hs)
    ⟨hresult, hlines, hJ _ hleft⟩

/-- Work comes to one thing in a session. -/
theorem unique {I' J' : Session → Prop} {result₁ result₂ : Except Trouble α} {s : Session}
    (h : Yields I J work result₁ lines) (h' : Yields I' J' work result₂ lines') (hs : I s)
    (hs' : I' s) : result₁ = result₂ ∧ lines = lines' := by
  obtain ⟨hresult, hlines, -⟩ := h s hs
  obtain ⟨hresult', hlines', -⟩ := h' s hs'
  exact ⟨hresult.symm.trans hresult', List.append_cancel_left (hlines.symm.trans hlines')⟩

theorem pure (a : α) : Yields I I (pure a : Work α) (.ok a) [] :=
  fun s hs => ⟨rfl, (List.append_nil s.printed).symm, hs⟩

theorem throw (t : Trouble) : Yields I I (throw t : Work α) (.error t) [] :=
  fun s hs => ⟨rfl, (List.append_nil s.printed).symm, hs⟩

theorem bind {a : α} (h : Yields I J work (.ok a) lines) (h' : Yields J K (f a) result' lines') :
    Yields I K (work >>= f) result' (lines ++ lines') := by
  intro s hs
  obtain ⟨hresult, hlines, hleft⟩ := h s hs
  rcases hrun : work.run.run s with ⟨r, s'⟩
  rw [hrun] at hresult hlines hleft
  cases hresult
  obtain ⟨hresult', hlines', hleft'⟩ := h' s' hleft
  rw [run_bind_ok hrun]
  exact ⟨hresult', by rw [hlines', hlines, List.append_assoc], hleft'⟩

theorem bind_error {t : Trouble} (h : Yields I J work (.error t) lines) :
    Yields I J (work >>= f) (.error t) lines := by
  intro s hs
  obtain ⟨hresult, hlines, hleft⟩ := h s hs
  rcases hrun : work.run.run s with ⟨r, s'⟩
  rw [hrun] at hresult hlines hleft
  cases hresult
  rw [run_bind_error hrun]
  exact ⟨rfl, hlines, hleft⟩

/-- A first step that prints nothing. -/
theorem next {a : α} (h : Yields I J work (.ok a) []) (h' : Yields J K (f a) result' lines) :
    Yields I K (work >>= f) result' lines :=
  h.bind h'

/-- A last step that prints nothing. -/
theorem last {a : α} (h : Yields I J work (.ok a) lines) (h' : Yields J K (f a) result' []) :
    Yields I K (work >>= f) result' lines := by
  simpa using h.bind h'

theorem bind_pure {a : α} {b : β} (h : Yields I J work (.ok a) lines) (hf : f a = Pure.pure b) :
    Yields I J (work >>= f) (.ok b) lines :=
  h.last (hf ▸ pure b)

/-- Work that looks at the session first. -/
theorem get_bind {f : Session → Work α} (h : ∀ s, I s → Yields (· = s) J (f s) result lines) :
    Yields I J (get >>= f) result lines :=
  fun s hs => h s hs s rfl

/-- What work comes to in sessions of a kind, it comes to in each of them. -/
theorem at_session {s : Session} (h : Yields I J work result lines) (hs : I s) :
    Yields (· = s) J work result lines :=
  h.mono (fun _ heq => heq ▸ hs) fun _ hleft => hleft

/-- Work on the members of a list, one after another. -/
theorem forIn_list {γ : Type} {step : γ → Work Unit} {linesOf : γ → List Text} {xs : List γ}
    (h : ∀ x ∈ xs, Yields I I (step x) (.ok ()) (linesOf x)) :
    Yields I I
      (forIn xs PUnit.unit fun x _ => do
        step x
        return ForInStep.yield PUnit.unit) (.ok PUnit.unit) (xs.flatMap linesOf) := by
  induction xs with
  | nil => exact pure _
  | cons x xs ih =>
    have hfirst : Yields I I (do step x; return ForInStep.yield PUnit.unit)
        (.ok (.yield PUnit.unit)) (linesOf x) := (h x (.head _)).bind_pure rfl
    rw [List.forIn_cons]
    exact hfirst.bind (ih fun y hy => h y (.tail _ hy))

/-- Work with something to be done behind it, however it ends. -/
theorem finally_do {after : Work β} {b : β} (h : Yields I J work result lines)
    (hafter : Yields J K after (.ok b) []) :
    Yields I K (ExceptT.mk do
      let outcome ← work.run
      let _ ← after.run
      return outcome) result lines := by
  intro s hs
  obtain ⟨hresult, hlines, hleft⟩ := h s hs
  obtain ⟨-, hlines', hleft'⟩ := hafter _ hleft
  exact ⟨hresult, by
    show (after.run.run (work.run.run s).2).2.printed = _
    rw [hlines', hlines, List.append_nil], hleft'⟩

end Work

/-! ### Parts of commands -/

section Part

variable {part : Part α} {f : α → Part β} {result : Except Trouble (Except ExitCode β)}

theorem part_bind {a : α} (h : Yields I J part.run (.ok (.ok a)) lines)
    (h' : Yields J K (f a).run result lines') :
    Yields I K (part >>= f).run result (lines ++ lines') := by
  rw [ExceptT.run_bind]
  exact h.bind h'

/-- A first part that prints nothing. -/
theorem part_next {a : α} (h : Yields I J part.run (.ok (.ok a)) [])
    (h' : Yields J K (f a).run result lines) : Yields I K (part >>= f).run result lines :=
  h.part_bind h'

theorem part_exit {code : ExitCode} (h : Yields I J part.run (.ok (.error code)) lines) :
    Yields I J (part >>= f).run (.ok (.error code)) lines := by
  rw [ExceptT.run_bind]
  exact h.bind_pure rfl

theorem part_trouble {t : Trouble} (h : Yields I J part.run (.error t) lines) :
    Yields I J (part >>= f).run (.error t) lines := by
  rw [ExceptT.run_bind]
  exact h.bind_error

/-- Work as a part of a command. -/
theorem lift {work : Work α} {a : α} (h : Yields I J work (.ok a) lines) :
    Yields I J (liftM work : Part α).run (.ok (.ok a)) lines :=
  h.bind_pure rfl

theorem lift_trouble {work : Work α} {t : Trouble} (h : Yields I J work (.error t) lines) :
    Yields I J (liftM work : Part α).run (.error t) lines :=
  h.bind_error

/-- A part that looks at the session first. -/
theorem part_get_bind {f : Session → Part α} {result : Except Trouble (Except ExitCode α)}
    (h : ∀ s, I s → Yields (· = s) J (f s).run result lines) :
    Yields I J (get >>= f).run result lines :=
  fun s hs => h s hs s rfl

theorem finish_ok {part : Part ExitCode} {code : ExitCode}
    (h : Yields I J part.run (.ok (.ok code)) lines) : Yields I J part.finish (.ok code) lines :=
  h.bind_pure rfl

theorem finish_exit {part : Part ExitCode} {code : ExitCode}
    (h : Yields I J part.run (.ok (.error code)) lines) :
    Yields I J part.finish (.ok code) lines :=
  h.bind_pure rfl

theorem finish_trouble {part : Part ExitCode} {t : Trouble}
    (h : Yields I J part.run (.error t) lines) : Yields I J part.finish (.error t) lines :=
  h.bind_error

end Part

end Yields

end SnippetBench.Cli
