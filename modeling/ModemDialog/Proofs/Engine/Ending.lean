import ModemDialog.Proofs.Engine.Halting

/-! Why a session ends, over whole runs. Behind the link check each turn that goes on leaves the
session to a next one, so that what halts it has been one of the turns before, and there is only
one such turn. -/
namespace ModemDialog
namespace Engine

variable {e t u : Engine} {k : Nat}

/-- The link check has passed, and with `k` turns behind it the session is in this state. -/
def Comes (e : Engine) (k : Nat) (t : Engine) : Prop := advance step (k + 1) e = (t, none)

/-- The session has been stopped, or one of its turns has halted it. -/
def Due (e : Engine) (k : Nat) (t : Engine) : Prop :=
  t.bench.alive = false ∨ ∃ j < k, ∃ u, e.Comes j u ∧ u.Halts

theorem Scripted.operator (h : t.Scripted) : t.step.1.operator = t.operator := by
  obtain ⟨mode, change, -, stepped, -⟩ := h.step
  rw [stepped]

/-- Nobody has anything to do any more, unless the operator goes on behind the scripts. -/
def Done (t : Engine) : Prop :=
  t.Over ∨ t.Scripted ∧ t.dialogue.machine = .empty ∧ t.dialogue.manual = false

theorem Done.step (h : t.Done) : t.step.1.Done ∧ t.step.1.operator = t.operator := by
  rcases h with ended | ⟨scripted, empty, manual⟩
  · obtain ⟨notices, stepped⟩ := ended.step
    rw [stepped]
    exact ⟨.inl ⟨ended.linked, .inr rfl⟩, rfl⟩
  · obtain ⟨notices, stepped⟩ := scripted.step_of_empty empty
    rw [stepped, manual]
    exact ⟨.inl ⟨scripted.linked, .inr rfl⟩, rfl⟩

theorem Done.operator (h : t.Done) (n : Nat) :
    (advance Engine.step n t).1.operator = t.operator := by
  have kept : (advance Engine.step n t).1.Done ∧
      (advance Engine.step n t).1.operator = t.operator :=
    advance_invariant (fun s : Engine => s.Done ∧ s.operator = t.operator)
      (fun s done => ⟨done.1.step.1, done.1.step.2.trans done.2⟩) n ⟨h, rfl⟩
  exact kept.2

namespace Comes

theorem unique (h : e.Comes k t) (h' : e.Comes k u) : t = u :=
  (Prod.mk.inj (h.symm.trans h')).1

theorem next (h : e.Comes k t) (goesOn : t.step.2 = none) : e.Comes (k + 1) t.step.1 := by
  rw [Comes, advance_succ, h]
  exact Prod.ext rfl goesOn

theorem before (h : e.Comes k t) {j : Nat} (lt : j < k) :
    ∃ u, e.Comes j u ∧ u.step.2 = none ∧ e.Comes (j + 1) u.step.1 := by
  obtain ⟨u, v, reached, stepped, after⟩ := exists_step_of_goesOn h (Nat.succ_lt_succ lt)
  refine ⟨u, reached, by rw [stepped], ?_⟩
  rw [stepped]
  exact after

theorem prev (h : e.Comes (k + 1) t) : ∃ u, e.Comes k u ∧ u.step = (t, none) := by
  obtain ⟨u, reached, goesOn, after⟩ := h.before (Nat.lt_succ_self k)
  exact ⟨u, reached, Prod.ext (after.unique h) goesOn⟩

theorem manual (h : e.Comes k t) : t.dialogue.manual = e.dialogue.manual := by
  have kept : (advance step (k + 1) e).1.dialogue.manual = e.dialogue.manual :=
    advance_invariant (fun s : Engine => s.dialogue.manual = e.dialogue.manual)
      (fun s same => s.step_manual.trans same) (k + 1) rfl
  rw [h] at kept
  exact kept

variable (unlinked : e.dialogue.linked = false)
include unlinked

theorem mode_of_zero (h : e.Comes 0 t) :
    t.dialogue.mode = Mode.start (0 < e.dialogue.machine.depth) e.dialogue.manual ∧
      t.dialogue.machine = e.dialogue.machine := by
  have first : e.step = (t, none) := by
    rw [Comes, advance_succ] at h
    exact h
  rw [step_of_unlinked unlinked] at first
  by_cases answered : ∃ taken, e.LinkAnswered taken
  · obtain ⟨taken, answered⟩ := answered
    obtain ⟨notices, checked⟩ := checkLink_of_answered answered
    obtain rfl := (Prod.mk.inj (checked.symm.trans first)).1
    exact ⟨rfl, rfl⟩
  · obtain ⟨fault, checked⟩ := checkLink_of_unanswered (not_exists.mp answered)
    cases checked.symm.trans first

variable (idle : e.dialogue.machine.loop = none)
include idle

theorem atLine (h : e.Comes k t) : e.AtLine (k + 1) t := by
  have line := (advance_script_writes unlinked idle k).2
  rw [h] at line
  exact line rfl

theorem halted_iff (h : e.Comes k t) :
    t.dialogue.mode = .halted ↔ ∃ j < k, ∃ u, e.Comes j u ∧ u.Halts := by
  induction k generalizing t with
  | zero =>
      have mode := (h.mode_of_zero unlinked).1
      have running : t.dialogue.mode ≠ .halted := by
        rw [mode, Mode.start]
        split <;> simp
      simp [running]
  | succ k ih =>
      obtain ⟨u, reached, stepped⟩ := h.prev
      have turn := (reached.atLine unlinked idle).halted_iff (by rw [stepped])
      rw [stepped] at turn
      rw [turn]
      constructor
      · intro halts
        exact ⟨k, Nat.lt_succ_self k, u, reached, halts⟩
      · rintro ⟨j, lt, v, earlier, halts⟩
        rcases Nat.lt_or_eq_of_le (Nat.le_of_lt_succ lt) with before | rfl
        · have ended : u.Over := ⟨(reached.atLine unlinked idle).linked,
            .inr ((ih reached).mpr ⟨j, before, v, earlier, halts⟩)⟩
          have last := ended.ends
          rw [stepped] at last
          cases last
        · rw [reached.unique earlier]
          exact halts

theorem over_iff (h : e.Comes k t) : t.Over ↔ e.Due k t := by
  rw [Due, ← h.halted_iff unlinked idle]
  exact ⟨fun ended => ended.ended, fun ended => ⟨(h.atLine unlinked idle).linked, ended⟩⟩

theorem ok_iff (h : e.Comes k t) : t.step.2 = some (.ok ()) ↔ e.Due k t :=
  (step_ok_iff (h.atLine unlinked idle).linked).trans (h.over_iff unlinked idle)

theorem error_iff (h : e.Comes k t) : (∃ fault, t.step.2 = some (.error fault)) ↔ t.Breaks :=
  step_fails_iff (h.atLine unlinked idle).linked

theorem emptied (h : e.Comes k t) (exhausted : t.Exhausted) :
    ∃ j u, k = j + 1 ∧ e.Comes j u ∧ u.Scripted ∧ u.dialogue.machine.stack ≠ [] := by
  cases k with
  | zero =>
      obtain ⟨mode, machine⟩ := h.mode_of_zero unlinked
      have none : e.dialogue.machine.depth = 0 := by
        rw [← machine, Script.Machine.depth, exhausted.stack]
        rfl
      rw [exhausted.scripted.mode, none] at mode
      cases mode
  | succ k =>
      obtain ⟨u, reached, stepped⟩ := h.prev
      have scripted := exhausted.scripted.mode
      have stack := exhausted.stack
      refine ⟨k, u, rfl, reached, ?_⟩
      have goesOn : u.step.2 = none := by rw [stepped]
      rcases turn_of_goesOn (reached.atLine unlinked idle).linked goesOn with
        scripts | interactive
      · refine ⟨scripts, fun none => ?_⟩
        have empty := (reached.atLine unlinked idle).busy.empty_of_stack none
        obtain ⟨notices, last⟩ := scripts.step_of_empty empty
        obtain rfl := (Prod.mk.inj (last.symm.trans stepped)).1
        cases manual : u.dialogue.manual <;> simp [manual] at scripted
      · exfalso
        by_cases dismissed : u.Dismissed
        · obtain ⟨notices, last⟩ := dismissed.step
          obtain rfl := (Prod.mk.inj (last.symm.trans stepped)).1
          cases scripted
        · have stays := interactive.stays goesOn dismissed
          rw [stepped] at stays
          exact stays.scripted scripted stack

theorem halting (h : e.Comes k t) (goesOn : t.step.2 = none)
    (halted : t.step.1.dialogue.mode = .halted) :
    Bench.Unwritten t.bench t.step.1.bench ∧
      t.step.1.dialogue.machine = t.dialogue.machine := by
  have line := h.atLine unlinked idle
  rcases (line.halted_iff goesOn).mp halted with dismissed | ⟨exhausted, -⟩
  · obtain ⟨notices, stepped⟩ := dismissed.step
    rw [stepped]
    exact ⟨(t.bench.ask_unwritten t.operator).trans (.notices notices _), rfl⟩
  · obtain ⟨notices, stepped⟩ :=
      exhausted.scripted.step_of_empty (line.busy.empty_of_stack exhausted.stack)
    rw [stepped]
    exact ⟨.notices notices _, rfl⟩

theorem spares (h : e.Comes k t) (scripted : t.Scripted)
    (emptied : t.step.1.dialogue.machine.stack = []) (manual : e.dialogue.manual = false)
    (n : Nat) : (advance step n t).1.operator = t.operator := by
  have line := h.atLine unlinked idle
  have same : t.dialogue.manual = false := h.manual.trans manual
  by_cases stack : t.dialogue.machine.stack = []
  · exact Done.operator (.inr ⟨scripted, line.busy.empty_of_stack stack, same⟩) n
  · cases n with
    | zero => rfl
    | succ n =>
        cases goesOn : t.step.2 with
        | some ending =>
            have stepped : t.step = (t.step.1, some ending) := Prod.ext rfl goesOn
            rw [advance_of_ends stepped]
            exact scripted.operator
        | none =>
            have after := (h.next goesOn).atLine unlinked idle
            have done : t.step.1.Done := by
              cases alive : t.step.1.bench.alive with
              | false => exact .inl ⟨after.linked, .inl alive⟩
              | true =>
                  rcases scripted.mode_cases line.busy stack with mode | ⟨-, some⟩
                  · exact .inr ⟨⟨after.linked, alive, mode⟩, after.busy.empty_of_stack emptied,
                      t.step_manual.trans same⟩
                  · exact absurd emptied some
            have stepped : t.step = (t.step.1, none) := Prod.ext rfl goesOn
            rw [advance_of_goesOn stepped, done.operator n]
            exact scripted.operator

theorem returns (h : e.Comes k t) (exhausted : t.Exhausted) (manual : e.dialogue.manual = true) :
    ∃ notices, t.step = ({ t with
      bench := t.bench.notices notices
      dialogue.mode := .interactive }, none) := by
  have empty := (h.atLine unlinked idle).busy.empty_of_stack exhausted.stack
  obtain ⟨notices, stepped⟩ := exhausted.scripted.step_of_empty empty
  rw [h.manual, manual] at stepped
  exact ⟨notices, stepped⟩

theorem halted (h : e.Comes k t) (mode : t.dialogue.mode = .halted) (n : Nat) :
    ∃ notices, advance step (n + 1) t =
      ({ t with bench := t.bench.notices notices }, some (.ok ())) := by
  obtain ⟨notices, stepped⟩ := Over.step ⟨(h.atLine unlinked idle).linked, .inr mode⟩
  rw [← mode] at stepped
  exact ⟨notices, advance_of_ends stepped n⟩

theorem first (h : e.Comes k t) {j : Nat} (lt : j < k) :
    ∃ u, e.Comes j u ∧ ¬ e.Due j u ∧ ¬ u.Breaks := by
  obtain ⟨u, earlier, goesOn, -⟩ := h.before lt
  refine ⟨u, earlier, ?_⟩
  rw [← earlier.ok_iff unlinked idle, ← earlier.error_iff unlinked idle, goesOn]
  simp

end Comes

theorem run_eq_some_iff {n : Nat} {ending : Ending} :
    e.run n = some (t, ending) ↔ advance step n e = (t, some ending) := by
  rw [run_eq_advance]
  cases advance step n e with
  | mk s ending' => cases ending' <;> simp

theorem ended_iff (passed : e.step.2 = none) {n : Nat} {ending : Ending} :
    (∃ t, e.run n = some (t, ending)) ↔
      ∃ k t, k + 1 < n ∧ e.Comes k t ∧ t.step.2 = some ending := by
  simp only [run_eq_some_iff, ended_iff_exists_step]
  constructor
  · rintro ⟨t, k, lt, u, reached, ends⟩
    cases k with
    | zero =>
        obtain rfl : e = u := (Prod.mk.inj reached).1
        rw [ends] at passed
        cases passed
    | succ k => exact ⟨k, u, lt, reached, by rw [ends]⟩
  · rintro ⟨k, u, lt, reached, ends⟩
    exact ⟨u.step.1, k + 1, lt, u, reached, Prod.ext rfl ends⟩

section Runs

variable (unlinked : e.dialogue.linked = false) (idle : e.dialogue.machine.loop = none)
  (passed : e.step.2 = none) (n : Nat)
include unlinked idle passed

theorem run_ok_iff :
    (∃ t, e.run n = some (t, .ok ())) ↔ ∃ k t, k + 1 < n ∧ e.Comes k t ∧ e.Due k t := by
  rw [ended_iff passed]
  constructor
  · rintro ⟨k, t, lt, comes, ends⟩
    exact ⟨k, t, lt, comes, (comes.ok_iff unlinked idle).mp ends⟩
  · rintro ⟨k, t, lt, comes, due⟩
    exact ⟨k, t, lt, comes, (comes.ok_iff unlinked idle).mpr due⟩

theorem run_error_iff :
    (∃ t fault, e.run n = some (t, .error fault)) ↔
      ∃ k t, k + 1 < n ∧ e.Comes k t ∧ t.Breaks := by
  constructor
  · rintro ⟨t, fault, ends⟩
    obtain ⟨k, u, lt, comes, failed⟩ := (ended_iff passed).mp ⟨t, ends⟩
    exact ⟨k, u, lt, comes, (comes.error_iff unlinked idle).mp ⟨fault, failed⟩⟩
  · rintro ⟨k, u, lt, comes, breaks⟩
    obtain ⟨fault, failed⟩ := (comes.error_iff unlinked idle).mpr breaks
    obtain ⟨t, ends⟩ := (ended_iff passed).mpr ⟨k, u, lt, comes, failed⟩
    exact ⟨t, fault, ends⟩

end Runs

/-- Why a session ends: `ok` and `error` are about whole runs, the others about the turns that
come behind the link check. -/
structure EndsForReason (e : Engine) : Prop where
  /-- A run ends well just if it comes to a turn by which the session has been stopped, dismissed,
  or left without scripts where these were all there was to do. -/
  ok : ∀ n, (∃ t, e.run n = some (t, .ok ())) ↔ ∃ k t, k + 1 < n ∧ e.Comes k t ∧ e.Due k t
  /-- It ends with an error just if a write fails or the operator cannot be read. -/
  error : ∀ n, (∃ t fault, e.run n = some (t, .error fault)) ↔
    ∃ k t, k + 1 < n ∧ e.Comes k t ∧ t.Breaks
  /-- The turn that comes then is the last one, and the first of this kind. -/
  last : ∀ k t, e.Comes k t → ((t.step.2 = some (.ok ()) ↔ e.Due k t) ∧
    ((∃ fault, t.step.2 = some (.error fault)) ↔ t.Breaks) ∧
    ∀ j < k, ∃ u, e.Comes j u ∧ ¬ e.Due j u ∧ ¬ u.Breaks)
  manual : ∀ k t, e.Comes k t → t.dialogue.manual = e.dialogue.manual
  emptied : ∀ k t, e.Comes k t → t.Exhausted →
    ∃ j u, k = j + 1 ∧ e.Comes j u ∧ u.Scripted ∧ u.dialogue.machine.stack ≠ []
  /-- Behind the scripts the operator goes on, if that is asked for. -/
  returns : ∀ k t, e.Comes k t → t.Exhausted → e.dialogue.manual = true →
    ∃ notices, t.step = ({ t with
      bench := t.bench.notices notices
      dialogue.mode := .interactive }, none)
  spares : ∀ k t, e.Comes k t → t.Scripted → t.step.1.dialogue.machine.stack = [] →
    e.dialogue.manual = false → ∀ n, (advance step n t).1.operator = t.operator
  halting : ∀ k t, e.Comes k t → t.step.2 = none → t.step.1.dialogue.mode = .halted →
    Bench.Unwritten t.bench t.step.1.bench ∧ t.step.1.dialogue.machine = t.dialogue.machine
  halted : ∀ k t, e.Comes k t → t.dialogue.mode = .halted → ∀ n, ∃ notices,
    advance step (n + 1) t = ({ t with bench := t.bench.notices notices }, some (.ok ()))

/-- Every session that passes its link check, its first step, ends for one of these reasons or
not at all, whatever its scripts, its operator and its device do. -/
theorem session_ends_for_reason (bench : Bench) (stack : List Script) (manual : Bool)
    (operator : Operator) (files : FileTree) (timeout : Duration) (linkCheck : LinkCheck) :
    let e : Engine := ⟨bench, .start ⟨stack, none⟩ manual, operator, files, timeout, linkCheck⟩
    e.step.2 = none → e.EndsForReason := by
  intro e passed
  have unlinked : e.dialogue.linked = false := rfl
  have idle : e.dialogue.machine.loop = none := rfl
  exact {
    ok := run_ok_iff unlinked idle passed
    error := run_error_iff unlinked idle passed
    last := fun k t comes => ⟨comes.ok_iff unlinked idle, comes.error_iff unlinked idle,
      fun j lt => comes.first unlinked idle lt⟩
    manual := fun k t comes => comes.manual
    emptied := fun k t comes => comes.emptied unlinked idle
    returns := fun k t comes => comes.returns unlinked idle
    spares := fun k t comes => comes.spares unlinked idle
    halting := fun k t comes => comes.halting unlinked idle
    halted := fun k t comes => comes.halted unlinked idle }

theorem session_ends_for_reason_of_relayEngine :
    relayEngine.step.2.isNone = true ∧ endsWell (advance step 12 relayEngine) = true ∧
      ∃ k t, k + 1 < 12 ∧ relayEngine.Comes k t ∧ relayEngine.Due k t := by
  have passed : relayEngine.step.2.isNone = true := by decide +kernel
  have ends : endsWell (advance step 12 relayEngine) = true := by decide +kernel
  have reason : relayEngine.EndsForReason :=
    session_ends_for_reason _ _ _ _ _ _ _ (Option.isNone_iff_eq_none.mp passed)
  refine ⟨passed, ends, (reason.ok 12).mp ⟨(advance step 12 relayEngine).1, ?_⟩⟩
  rw [run_eq_some_iff]
  generalize advance step 12 relayEngine = result at ends
  obtain ⟨t, _ | fault | done⟩ := result
  · simp [endsWell] at ends
  · simp [endsWell] at ends
  · rfl

end Engine
end ModemDialog
