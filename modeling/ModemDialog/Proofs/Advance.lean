import ModemDialog.Engine

/-! Runs cut off after a number of steps. A run with enough fuel is one that has ended by
then, and every other cut shows a state on the way. -/
namespace ModemDialog

variable {σ ε : Type}

/-- So many steps, or fewer if one of them ends the run. -/
def advance (step : σ → σ × Option ε) : Nat → σ → σ × Option ε
  | 0, s => (s, none)
  | n + 1, s =>
      match step s with
      | (s, some ending) => (s, some ending)
      | (s, none) => advance step n s

theorem advance_of_ends {step : σ → σ × Option ε} {s t : σ} {ending : ε}
    (ends : step s = (t, some ending)) (n : Nat) : advance step (n + 1) s = (t, some ending) := by
  rw [advance, ends]

theorem advance_of_goesOn {step : σ → σ × Option ε} {s t : σ} (goesOn : step s = (t, none))
    (n : Nat) : advance step (n + 1) s = advance step n t := by
  rw [advance, goesOn]

theorem advance_succ (step : σ → σ × Option ε) (n : Nat) (s : σ) :
    advance step (n + 1) s =
      match advance step n s with
      | (t, some ending) => (t, some ending)
      | (t, none) => step t := by
  induction n generalizing s with
  | zero =>
      rw [advance]
      cases stepped : step s with
      | mk t ending => cases ending <;> simp [advance, stepped]
  | succ n ih =>
      rw [advance, advance]
      cases step s with
      | mk t ending =>
          cases ending with
          | some ending => rfl
          | none => exact ih t

theorem exists_step_of_ended {step : σ → σ × Option ε} {n : Nat} {s t : σ} {ending : ε}
    (ended : advance step n s = (t, some ending)) :
    ∃ k < n, ∃ u, advance step k s = (u, none) ∧ step u = (t, some ending) := by
  induction n with
  | zero => cases ended
  | succ n ih =>
      rw [advance_succ] at ended
      cases gone : advance step n s with
      | mk u ending' =>
          rw [gone] at ended
          cases ending' with
          | none => exact ⟨n, Nat.lt_succ_self n, u, gone, ended⟩
          | some ending' =>
              obtain ⟨k, lt, rest⟩ := ih (gone.trans ended)
              exact ⟨k, Nat.lt_succ_of_lt lt, rest⟩

theorem advance_of_ended {step : σ → σ × Option ε} {n m : Nat} {s t : σ} {ending : ε}
    (ended : advance step n s = (t, some ending)) (le : n ≤ m) :
    advance step m s = (t, some ending) := by
  induction le with
  | refl => exact ended
  | step _ ih => rw [advance_succ, ih]

theorem ended_iff_exists_step {step : σ → σ × Option ε} {n : Nat} {s t : σ} {ending : ε} :
    advance step n s = (t, some ending) ↔
      ∃ k < n, ∃ u, advance step k s = (u, none) ∧ step u = (t, some ending) := by
  constructor
  · exact exists_step_of_ended
  · rintro ⟨k, lt, u, reached, ends⟩
    refine advance_of_ended (n := k + 1) ?_ lt
    rw [advance_succ, reached]
    exact ends

theorem exists_step_of_goesOn {step : σ → σ × Option ε} {n : Nat} {s t : σ}
    (reached : advance step n s = (t, none)) {k : Nat} (lt : k < n) :
    ∃ u v, advance step k s = (u, none) ∧ step u = (v, none) ∧
      advance step (k + 1) s = (v, none) := by
  induction n generalizing t with
  | zero => exact absurd lt (Nat.not_lt_zero k)
  | succ n ih =>
      have last := reached
      rw [advance_succ] at last
      cases gone : advance step n s with
      | mk u ending =>
          rw [gone] at last
          cases ending with
          | some ending => cases last
          | none =>
              rcases Nat.lt_or_eq_of_le (Nat.le_of_lt_succ lt) with before | rfl
              · exact ih gone before
              · exact ⟨u, t, gone, last, reached⟩

theorem advance_invariant {step : σ → σ × Option ε} (holds : σ → Prop)
    (kept : ∀ s, holds s → holds (step s).1) (n : Nat) {s : σ} (start : holds s) :
    holds (advance step n s).1 := by
  induction n generalizing s with
  | zero => exact start
  | succ n ih =>
      have next := kept s start
      rw [advance]
      cases stepped : step s with
      | mk t ending =>
          rw [stepped] at next
          cases ending with
          | some ending => exact next
          | none => exact ih next

theorem advance_related {step : σ → σ × Option ε} {related : σ → σ → Prop}
    (kept : ∀ s s', related s s' →
      related (step s).1 (step s').1 ∧ (step s').2 = (step s).2)
    (n : Nat) {s s' : σ} (start : related s s') :
    related (advance step n s).1 (advance step n s').1 ∧
      (advance step n s').2 = (advance step n s).2 := by
  induction n generalizing s s' with
  | zero => exact ⟨start, rfl⟩
  | succ n ih =>
      obtain ⟨next, same⟩ := kept s s' start
      rw [advance, advance]
      cases stepped : step s with
      | mk t ending =>
          cases stepped' : step s' with
          | mk t' ending' =>
              rw [stepped, stepped'] at next same
              dsimp only at next same
              subst same
              cases ending' with
              | some ending => exact ⟨next, rfl⟩
              | none => exact ih next

theorem Script.Stage.run_eq_advance (setup : Script.Setup) (fuel : Nat) (s : Script.Stage) :
    s.run setup fuel = (advance (Script.Stage.step setup) fuel s).2.map
      ((advance (Script.Stage.step setup) fuel s).1, ·) := by
  induction fuel generalizing s with
  | zero => rfl
  | succ fuel ih =>
      rw [Script.Stage.run, advance]
      cases s.step setup with
      | mk t ending =>
          cases ending with
          | some ending => rfl
          | none => exact ih t

theorem Engine.run_eq_advance (fuel : Nat) (e : Engine) :
    e.run fuel = (advance Engine.step fuel e).2.map ((advance Engine.step fuel e).1, ·) := by
  induction fuel generalizing e with
  | zero => rfl
  | succ fuel ih =>
      rw [Engine.run, advance]
      cases e.step with
      | mk t ending =>
          cases ending with
          | some ending => rfl
          | none => exact ih t

end ModemDialog
