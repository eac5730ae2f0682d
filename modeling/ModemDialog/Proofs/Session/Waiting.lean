import ModemDialog.Proofs.Inbox.Taking
import ModemDialog.Proofs.Session.History

/-! A send in its parts: what is announced and written, the checks of the buffer while
the answer is awaited, and the report at the end. -/
namespace ModemDialog
namespace Bench

/-- The checks of a wait that begins on `b` with `x`: the bench and the exchange that
each of them sees. -/
inductive Checks : Bench → Exchange → Bench → Exchange → Prop where
  | first (b : Bench) (x : Exchange) : Checks b x b x
  | next {b later : Bench} {x y z : Exchange}
      (waits : x.check b.sentries b.inbox b.alive = .wait y)
      (checks : Checks (b.sleep b.poll) y later z) : Checks b x later z

end Bench

namespace Exchange

variable {x y : Exchange} {sentries : List Sentry} {box : Inbox} {alive : Bool}

theorem check_of_examine {taken : Taken} {rest : Inbox}
    (found : x.examine sentries box = some (taken, rest)) :
    x.check sentries box alive = .answered taken rest := by
  simp [check, found]

theorem examine_of_check_answered {taken : Taken} {rest : Inbox}
    (answered : x.check sentries box alive = .answered taken rest) :
    x.examine sentries box = some (taken, rest) := by
  unfold check at answered
  split at answered
  · rename_i found
    rw [found]
    cases answered
    rfl
  · split at answered
    · cases answered
    · split at answered <;> cases answered

theorem check_stopped (stopped : x.check sentries box alive = .stopped) :
    x.examine sentries box = none ∧ alive = false := by
  unfold check at stopped
  split at stopped
  · cases stopped
  · rename_i missing
    split at stopped
    · rename_i dead
      exact ⟨missing, by simpa using dead⟩
    · split at stopped <;> cases stopped

theorem check_expired (expired : x.check sentries box alive = .expired) :
    x.examine sentries box = none ∧ alive = true := by
  unfold check at expired
  split at expired
  · cases expired
  · rename_i missing
    split at expired
    · cases expired
    · rename_i live
      exact ⟨missing, by simpa using live⟩

theorem check_wait (waits : x.check sentries box alive = .wait y) :
    x.examine sentries box = none ∧ x.tally box.received = some y := by
  refine ⟨?_, Bench.check_wait waits⟩
  cases found : x.examine sentries box with
  | none => rfl
  | some pair =>
      obtain ⟨taken, rest⟩ := pair
      rw [check_of_examine found] at waits
      cases waits

theorem tally_keeps {received : Nat} (next : x.tally received = some y) :
    y.command = x.command ∧ y.mark = x.mark := by
  unfold tally at next
  split at next
  · obtain rfl := Option.some.inj next
    exact ⟨rfl, rfl⟩
  · split at next
    · cases next
    · obtain rfl := Option.some.inj next
      exact ⟨rfl, rfl⟩

def start (x : Exchange) (data : Bytes) : Nat :=
  Inbox.anchorAt data x.mark (Utf8.encode x.command)

theorem examine_eq_some_iff {taken : Taken} {rest : Inbox} :
    x.examine sentries box = some (taken, rest) ↔
      ∃ frame, Framing.frame? sentries (box.data.drop (x.start box.data)) = some frame ∧
        taken.stray = box.data.take (x.start box.data) ∧
        taken.response = (box.data.drop (x.start box.data)).take frame.stop ∧
        rest = ⟨box.data.drop (x.start box.data + frame.stop), box.received⟩ := by
  simp only [examine, Inbox.take?, Option.map_eq_some_iff, Prod.mk.injEq, start]
  constructor
  · rintro ⟨frame, found, rfl, rfl⟩
    exact ⟨frame, found, rfl, rfl, rfl⟩
  · rintro ⟨frame, found, stray, response, rfl⟩
    refine ⟨frame, found, ?_, rfl⟩
    rw [← stray, ← response]

theorem examine_split {taken : Taken} {rest : Inbox}
    (found : x.examine sentries box = some (taken, rest)) :
    box.data = taken.stray ++ taken.response ++ rest.data ∧ taken.response ≠ [] := by
  obtain ⟨cut, -⟩ := Inbox.take?_cut found
  exact ⟨cut.pieces, cut.nonempty⟩

end Exchange

namespace Bench
namespace Checks

variable {b later : Bench} {x y : Exchange}

theorem passes (checks : Checks b x later y) : Passes b later := by
  induction checks with
  | first b x => exact .refl b
  | next waits checks ih => exact (sleep_line _ _).passes.trans ih

theorem keeps (checks : Checks b x later y) : y.command = x.command ∧ y.mark = x.mark := by
  induction checks with
  | first b x => exact ⟨rfl, rfl⟩
  | next waits checks ih =>
      obtain ⟨command, mark⟩ := Exchange.tally_keeps (Exchange.check_wait waits).2
      exact ⟨ih.1.trans command, ih.2.trans mark⟩

theorem await_eq (checks : Checks b x later y) : b.await x = later.await y := by
  induction checks with
  | first b x => rfl
  | @next b later x y z waits checks ih =>
      rw [await, waits]
      exact ih

theorem await_of_examine (checks : Checks b x later y) {taken : Taken} {rest : Inbox}
    (found : y.examine later.sentries later.inbox = some (taken, rest)) :
    b.await x = ({ later with inbox := rest }, .answered taken) := by
  rw [checks.await_eq, await, Exchange.check_of_examine found]

end Checks

theorem await_verdict (b : Bench) (x : Exchange) :
    ∃ last y, Checks b x last y ∧
      match y.check last.sentries last.inbox last.alive with
      | .answered taken rest => b.await x = ({ last with inbox := rest }, .answered taken)
      | .stopped => b.await x = (last, .stopped)
      | .expired => b.await x = (last, .expired)
      | .wait _ => False := by
  fun_induction await b x with
  | case1 b x taken rest answered => exact ⟨b, x, .first b x, by simp [answered]⟩
  | case2 b x stopped => exact ⟨b, x, .first b x, by simp [stopped]⟩
  | case3 b x expired => exact ⟨b, x, .first b x, by simp [expired]⟩
  | case4 b x next waits ih =>
      obtain ⟨last, y, checks, ends⟩ := ih
      exact ⟨last, y, .next waits checks, ends⟩

/-- A wait ends with one of its checks: with the response that check finds, or without
one, because the session has been stopped or the budget is used up. -/
theorem await_spec (b : Bench) (x : Exchange) :
    ∃ last y, Checks b x last y ∧
      match (b.await x).2 with
      | .answered taken => ∃ rest, y.examine last.sentries last.inbox = some (taken, rest) ∧
          (b.await x).1 = { last with inbox := rest }
      | .stopped => last.alive = false ∧ (b.await x).1 = last
      | .expired => last.alive = true ∧ (b.await x).1 = last := by
  obtain ⟨last, y, checks, ends⟩ := b.await_verdict x
  refine ⟨last, y, checks, ?_⟩
  cases verdict : y.check last.sentries last.inbox last.alive with
  | answered taken rest =>
      rw [verdict] at ends
      rw [ends]
      exact ⟨rest, Exchange.examine_of_check_answered verdict, rfl⟩
  | stopped =>
      rw [verdict] at ends
      rw [ends]
      exact ⟨(Exchange.check_stopped verdict).2, rfl⟩
  | expired =>
      rw [verdict] at ends
      rw [ends]
      exact ⟨(Exchange.check_expired verdict).2, rfl⟩
  | wait next =>
      rw [verdict] at ends
      exact ends.elim

end Bench
end ModemDialog
