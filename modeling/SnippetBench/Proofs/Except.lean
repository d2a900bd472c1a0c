/-!
# Results and errors

A computation that ends in a result or in an error, followed by a function of the result, ends in a
result exactly when it does so itself, and in the same error otherwise. Followed by another
computation, it ends in a result exactly when both do, and otherwise in the error of the first that
does not.
-/

namespace SnippetBench

variable {ε α β : Type} {x : Except ε α} {f : α → β}

theorem map_eq_ok_iff {b : β} : x.map f = .ok b ↔ ∃ a, x = .ok a ∧ f a = b := by
  cases x <;> simp [Except.map]

theorem map_eq_error_iff {e : ε} : x.map f = .error e ↔ x = .error e := by
  cases x <;> simp [Except.map]

/-- What a result is does not matter to a function that is constant. -/
theorem map_map_const {γ : Type} (c : γ) : ((x.map f).map fun _ => c) = x.map fun _ => c := by
  cases x <;> rfl

theorem mapError_ok {ε' : Type} (g : ε → ε') (a : α) :
    (Except.ok a : Except ε α).mapError g = .ok a := rfl

theorem mapError_error {ε' : Type} (g : ε → ε') (e : ε) :
    (Except.error e : Except ε α).mapError g = .error (g e) := rfl

theorem mapError_eq_ok_iff {ε' : Type} {g : ε → ε'} {a : α} :
    x.mapError g = .ok a ↔ x = .ok a := by
  cases x with
  | ok b => simp [mapError_ok]
  | error e => simp [mapError_error]

theorem toOption_eq_some_iff {a : α} : x.toOption = some a ↔ x = .ok a := by
  cases x <;> simp [Except.toOption]

theorem bind_eq_ok_iff {g : α → Except ε β} {b : β} :
    x >>= g = .ok b ↔ ∃ a, x = .ok a ∧ g a = .ok b := by
  cases x <;> simp [bind, Except.bind]

theorem bind_eq_error_iff {g : α → Except ε β} {e : ε} :
    x >>= g = .error e ↔ x = .error e ∨ ∃ a, x = .ok a ∧ g a = .error e := by
  cases x <;> simp [bind, Except.bind]

/-! ### Computations with a state -/

section State

variable {σ : Type} {s : σ}

theorem run_get_bind (g : σ → ExceptT ε (StateM σ) α) :
    (get >>= g).run.run s = (g s).run.run s := rfl

theorem run_modify_bind (change : σ → σ) (g : Unit → ExceptT ε (StateM σ) α) :
    (modify change >>= g).run.run s = (g ()).run.run (change s) := rfl

section Bind

variable {t : σ} {work : ExceptT ε (StateM σ) α} {g : α → ExceptT ε (StateM σ) β}

theorem run_bind_ok {a : α} (h : work.run.run s = (.ok a, t)) :
    (work >>= g).run.run s = (g a).run.run t := by
  rw [ExceptT.run_bind, StateT.run_bind, h]
  rfl

theorem run_bind_error {e : ε} (h : work.run.run s = (.error e, t)) :
    (work >>= g).run.run s = (.error e, t) := by
  rw [ExceptT.run_bind, StateT.run_bind, h]
  rfl

end Bind

/-- Work on the state alone comes first, whatever else there is beside the state. -/
theorem run_lift_bind {m : Type → Type} [Monad m] [LawfulMonad m] (work : StateT σ m α)
    (g : α → ExceptT ε (StateT σ m) β) :
    (ExceptT.lift work >>= g).run.run s = work.run s >>= fun p => (g p.1).run.run p.2 := by
  rw [ExceptT.run_bind, StateT.run_bind, ExceptT.run_lift, StateT.run_map, bind_map_left]

end State

end SnippetBench
