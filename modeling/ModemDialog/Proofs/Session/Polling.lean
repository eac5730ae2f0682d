import Mathlib.Logic.Function.Iterate
import ModemDialog.Proofs.Session.Delivery
import ModemDialog.Proofs.Session.Blind

/-! The checks of a wait, by number. Check `k` sees the bench `k` poll intervals after the
write; it is quiet if no byte has come since the check before it. What is left of the budget
is the patience less the run of quiet checks that is going on, so the wait goes on as long as
no check finds an answer, the session runs, and no run is as long as the patience. -/
namespace ModemDialog
namespace Bench

def polled (b : Bench) (k : Nat) : Bench := (fun b => b.sleep b.poll)^[k] b

@[simp] theorem polled_zero (b : Bench) : b.polled 0 = b := rfl

theorem polled_succ (b : Bench) (k : Nat) :
    b.polled (k + 1) = (b.polled k).sleep (b.polled k).poll := by
  unfold polled
  rw [Function.iterate_succ_apply']

theorem polled_add (b : Bench) (j k : Nat) : (b.polled j).polled k = b.polled (j + k) := by
  unfold polled
  rw [Nat.add_comm, Function.iterate_add_apply]

theorem polled_line (b : Bench) (k : Nat) : Line b (b.polled k) := by
  induction k with
  | zero => exact .refl b
  | succ k ih =>
      rw [polled_succ]
      exact ih.trans (sleep_line _ _)

@[simp] theorem polled_poll (b : Bench) (k : Nat) : (b.polled k).poll = b.poll := by
  obtain ⟨events, advances, -⟩ := (b.polled_line k).passes
  exact advances.poll

@[simp] theorem polled_sentries (b : Bench) (k : Nat) : (b.polled k).sentries = b.sentries := by
  obtain ⟨events, advances, -⟩ := (b.polled_line k).passes
  exact advances.sentries

theorem polled_clock (b : Bench) (k : Nat) :
    (b.polled k).clock = b.clock + k * b.poll.ceilMillis := by
  induction k with
  | zero => simp
  | succ k ih =>
      simp only [polled_succ, sleep, setClock, ih, polled_poll, Nat.succ_mul]
      omega

/-- No byte has come since the check before; the first check has none before it. -/
def Quiet (b : Bench) (k : Nat) : Prop := (b.polled (k - 1)).arrivedSince (b.polled k) = []

instance (b : Bench) (k : Nat) : Decidable (b.Quiet k) :=
  inferInstanceAs (Decidable (_ = []))

theorem polled_pred_line (b : Bench) (k : Nat) : Line (b.polled (k - 1)) (b.polled k) := by
  have later := (b.polled (k - 1)).polled_line (k - (k - 1))
  rwa [polled_add, show k - 1 + (k - (k - 1)) = k by omega] at later

theorem quiet_iff_arrived {b : Bench} {k : Nat} :
    b.Quiet k ↔ (b.polled k).arrived = (b.polled (k - 1)).arrived := by
  obtain ⟨events, advances, -⟩ := (b.polled_pred_line k).passes
  simp [Quiet, advances.arrivedSince, advances.arrived]

theorem quiet_iff_received {b : Bench} {k : Nat} :
    b.Quiet k ↔ (b.polled k).inbox.received = (b.polled (k - 1)).inbox.received := by
  obtain ⟨events, advances, -⟩ := (b.polled_pred_line k).passes
  simp [Quiet, advances.arrivedSince, advances.received]

@[simp] theorem quiet_zero (b : Bench) : b.Quiet 0 := by simp [quiet_iff_arrived]

theorem arrived_of_quiet {b : Bench} {m k : Nat} (le : m ≤ k)
    (quiet : ∀ j, m < j → j ≤ k → b.Quiet j) : (b.polled k).arrived = (b.polled m).arrived := by
  induction le with
  | refl => rfl
  | @step k le ih =>
      rw [quiet_iff_arrived.mp (quiet (k + 1) (Nat.lt_succ_of_le le) (Nat.le_refl _)), Nat.add_sub_cancel]
      apply ih
      intro j after before
      exact quiet j after (by omega)

def EndsQuietRun (b : Bench) (n k : Nat) : Prop :=
  n ≤ k + 1 ∧ ∀ j ≤ k, k + 1 ≤ j + n → b.Quiet j

/-- How many of the first `k` checks were quiet one after the other at the end. -/
def streak (b : Bench) : Nat → Nat
  | 0 => 0
  | k + 1 => if b.Quiet k then b.streak k + 1 else 0

theorem streak_quiet {b : Bench} {k : Nat} (quiet : b.Quiet k) :
    b.streak (k + 1) = b.streak k + 1 := if_pos quiet

theorem streak_news {b : Bench} {k : Nat} (news : ¬ b.Quiet k) : b.streak (k + 1) = 0 :=
  if_neg news

theorem le_streak_iff {b : Bench} {n k : Nat} :
    n ≤ b.streak k ↔ n ≤ k ∧ ∀ j < k, k ≤ j + n → b.Quiet j := by
  induction k generalizing n with
  | zero => simp [streak]
  | succ k ih =>
      cases n with
      | zero =>
          simp only [Nat.zero_le, true_and, true_iff]
          intro j before reached
          omega
      | succ n =>
          by_cases quiet : b.Quiet k
          · rw [streak_quiet quiet, Nat.add_le_add_iff_right, ih, Nat.add_le_add_iff_right]
            apply and_congr_right
            intro le
            constructor
            · intro earlier j before reached
              rcases Nat.lt_succ_iff_lt_or_eq.mp before with less | rfl
              · exact earlier j less (by omega)
              · exact quiet
            · intro all j before reached
              exact all j (by omega) (by omega)
          · rw [streak_news quiet]
            constructor
            · intro impossible
              omega
            · rintro ⟨le, all⟩
              exact absurd (all k (by omega) (by omega)) quiet

theorem streak_le (b : Bench) (k : Nat) : b.streak k ≤ k :=
  (le_streak_iff.mp (Nat.le_refl (b.streak k))).1

theorem streak_succ_le (b : Bench) (k : Nat) : b.streak (k + 1) ≤ b.streak k + 1 := by
  simp only [streak]
  split <;> omega

theorem endsQuietRun_iff {b : Bench} {n k : Nat} :
    b.EndsQuietRun n k ↔ n ≤ b.streak (k + 1) := by
  simp only [EndsQuietRun, le_streak_iff, Nat.lt_succ_iff]

end Bench

namespace Exchange

/-- An exchange that starts to wait on a bench, with all of its budget. -/
structure Fresh (x : Exchange) (b : Bench) : Prop where
  patient : 0 < x.patience
  budget : x.budget = x.patience
  seen : x.seen = b.inbox.received

/-- What a wait that starts on `b` with `x` has become by check `k`. -/
def atCheck (x : Exchange) (b : Bench) (k : Nat) : Exchange :=
  { x with seen := (b.polled (k - 1)).inbox.received, budget := x.patience - b.streak k }

variable {x : Exchange} {b : Bench}

theorem Fresh.atCheck_zero (fresh : x.Fresh b) : x.atCheck b 0 = x := by
  have budget := fresh.budget
  have seen := fresh.seen
  cases x
  simp_all [atCheck, Bench.streak]

theorem tally_atCheck {k : Nat} (short : b.streak k < x.patience) :
    (x.atCheck b k).tally (b.polled k).inbox.received =
      if b.streak (k + 1) < x.patience then some (x.atCheck b (k + 1)) else none := by
  unfold tally
  by_cases quiet : b.Quiet k
  · have same := Bench.quiet_iff_received.mp quiet
    rw [if_neg (by simpa [atCheck] using same), Bench.streak_quiet quiet]
    by_cases last : b.streak k + 1 < x.patience
    · rw [if_pos last, if_neg (by simp only [atCheck]; omega)]
      simp [atCheck, same, Bench.streak_quiet quiet, Nat.sub_sub]
    · rw [if_neg last, if_pos (by simp only [atCheck]; omega)]
  · have changed := mt Bench.quiet_iff_received.mpr quiet
    rw [if_pos (by simpa [atCheck] using changed), Bench.streak_news quiet,
      if_pos (by omega)]
    simp [atCheck, Bench.streak_news quiet]

structure Waits (x : Exchange) (b : Bench) (k : Nat) : Prop where
  unanswered : x.examine b.sentries (b.polled k).inbox = none
  alive : (b.polled k).alive = true
  short : b.streak (k + 1) < x.patience

theorem check_atCheck {k : Nat} (short : b.streak k < x.patience) :
    (x.atCheck b k).check (b.polled k).sentries (b.polled k).inbox (b.polled k).alive =
      match x.examine b.sentries (b.polled k).inbox with
      | some (taken, rest) => .answered taken rest
      | none =>
          if !(b.polled k).alive then .stopped
          else if b.streak (k + 1) < x.patience then .wait (x.atCheck b (k + 1))
          else .expired := by
  have same : (x.atCheck b k).examine (b.polled k).sentries (b.polled k).inbox =
      x.examine b.sentries (b.polled k).inbox := by
    rw [Bench.polled_sentries]
    rfl
  unfold check
  rw [same, tally_atCheck short]
  cases x.examine b.sentries (b.polled k).inbox with
  | some found => rfl
  | none =>
      cases (b.polled k).alive with
      | false => rfl
      | true => by_cases less : b.streak (k + 1) < x.patience <;> simp [less]

theorem check_wait_iff {k : Nat} {y : Exchange} (short : b.streak k < x.patience) :
    (x.atCheck b k).check (b.polled k).sentries (b.polled k).inbox (b.polled k).alive = .wait y ↔
      x.Waits b k ∧ y = x.atCheck b (k + 1) := by
  rw [check_atCheck short]
  constructor
  · intro waits
    split at waits
    · cases waits
    · rename_i unanswered
      split at waits
      · cases waits
      · rename_i alive
        split at waits
        · rename_i less
          exact ⟨⟨unanswered, by simpa using alive, less⟩, (Verdict.wait.inj waits).symm⟩
        · cases waits
  · rintro ⟨waits, rfl⟩
    simp [waits.unanswered, waits.alive, waits.short]

end Exchange

namespace Bench

variable {b : Bench} {x : Exchange}

theorem Checks.exists_number_from {c later : Bench} {z y : Exchange} (checks : Checks c z later y)
    (m : Nat) (here : c = b.polled m) (now : z = x.atCheck b m)
    (short : b.streak m < x.patience) :
    ∃ k, m ≤ k ∧ later = b.polled k ∧ y = x.atCheck b k ∧ b.streak k < x.patience ∧
      ∀ j, m ≤ j → j < k → x.Waits b j := by
  induction checks generalizing m with
  | first c z =>
      refine ⟨m, Nat.le_refl m, here, now, short, ?_⟩
      intro j reached before
      omega
  | next waits checks ih =>
      subst here now
      obtain ⟨waiting, rfl⟩ := (Exchange.check_wait_iff short).mp waits
      obtain ⟨k, le, there, then', short', waited⟩ :=
        ih (m + 1) (polled_succ b m).symm rfl waiting.short
      refine ⟨k, by omega, there, then', short', ?_⟩
      intro j reached before
      by_cases first : j = m
      · rw [first]
        exact waiting
      · exact waited j (by omega) before

theorem Checks.exists_number {later : Bench} {y : Exchange} (fresh : x.Fresh b)
    (checks : Checks b x later y) :
    ∃ k, later = b.polled k ∧ y = x.atCheck b k ∧ b.streak k < x.patience ∧
      ∀ j < k, x.Waits b j := by
  obtain ⟨k, -, there, now, short, waited⟩ :=
    checks.exists_number_from 0 rfl fresh.atCheck_zero.symm fresh.patient
  refine ⟨k, there, now, short, ?_⟩
  intro j before
  exact waited j (Nat.zero_le j) before

theorem Checks.snoc {later : Bench} {y z : Exchange} (checks : Checks b x later y)
    (waits : y.check later.sentries later.inbox later.alive = .wait z) :
    Checks b x (later.sleep later.poll) z := by
  induction checks with
  | first b x => exact .next waits (.first _ _)
  | next earlier checks ih => exact .next earlier (ih waits)

/-- The wait that starts on `b` with `x` ends with check `k`: an answer is there, or the
session is stopped, or the run of quiet checks is as long as the patience. -/
inductive EndsWith (b : Bench) (x : Exchange) (k : Nat) : Prop where
  | answered {taken : Taken} {rest : Inbox}
      (found : x.examine b.sentries (b.polled k).inbox = some (taken, rest))
      (ends : b.await x = ({ b.polled k with inbox := rest }, .answered taken))
  | stopped (unanswered : x.examine b.sentries (b.polled k).inbox = none)
      (dead : (b.polled k).alive = false) (ends : b.await x = (b.polled k, .stopped))
  | expired (unanswered : x.examine b.sentries (b.polled k).inbox = none)
      (alive : (b.polled k).alive = true) (long : x.patience ≤ b.streak (k + 1))
      (ends : b.await x = (b.polled k, .expired))

theorem await_ends (fresh : x.Fresh b) :
    ∃ k, (∀ j < k, x.Waits b j) ∧ b.streak k < x.patience ∧ b.EndsWith x k := by
  obtain ⟨last, y, checks, ends⟩ := b.await_verdict x
  obtain ⟨k, rfl, rfl, short, waited⟩ := checks.exists_number fresh
  refine ⟨k, waited, short, ?_⟩
  rw [Exchange.check_atCheck short] at ends
  cases found : x.examine b.sentries (b.polled k).inbox with
  | some pair =>
      rw [found] at ends
      exact .answered found ends
  | none =>
      rw [found] at ends
      cases alive : (b.polled k).alive with
      | false => exact .stopped found alive (by simpa [alive] using ends)
      | true =>
          by_cases less : b.streak (k + 1) < x.patience
          · simp [alive, less] at ends
          · exact .expired found alive (by omega) (by simpa [alive, less] using ends)

end Bench
end ModemDialog
