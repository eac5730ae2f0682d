import ModemDialog.Bench

/-! Commands on a bench, one at a time, and the link check. -/
namespace ModemDialog
namespace Bench

theorem settleFrom_agenda_le (time : Nat) (agenda : List (Nat × Arrival)) (b : Bench) :
    (settleFrom time agenda b).agenda.length ≤ agenda.length := by
  induction agenda generalizing b with
  | nil => simp [settleFrom]
  | cons entry rest ih =>
      obtain ⟨t, a⟩ := entry
      unfold settleFrom
      split
      · exact Nat.le_succ_of_le (ih _)
      · simp

theorem settleFrom_received (time : Nat) (agenda : List (Nat × Arrival)) (b : Bench)
    (h : (settleFrom time agenda b).agenda.length = agenda.length) :
    (settleFrom time agenda b).inbox = b.inbox := by
  cases agenda with
  | nil => simp [settleFrom]
  | cons entry rest =>
      obtain ⟨t, a⟩ := entry
      unfold settleFrom at h ⊢
      split at h
      · have := settleFrom_agenda_le time rest ({ b with clock := max b.clock t }.arrive a)
        simp at h
        omega
      · rename_i late
        simp [late]

@[simp] theorem setClock_agenda (b : Bench) (time : Nat) :
    (b.setClock time).agenda = b.agenda := rfl

@[simp] theorem setClock_inbox (b : Bench) (time : Nat) :
    (b.setClock time).inbox = b.inbox := rfl

theorem sleep_agenda_le (b : Bench) (d : Duration) :
    (b.sleep d).agenda.length ≤ b.agenda.length := by
  simpa only [sleep, setClock_agenda] using settleFrom_agenda_le _ b.agenda b

theorem sleep_inbox (b : Bench) (d : Duration)
    (h : (b.sleep d).agenda.length = b.agenda.length) : (b.sleep d).inbox = b.inbox := by
  simp only [sleep, setClock_agenda, setClock_inbox] at h ⊢
  exact settleFrom_received _ _ _ h

/-- What can still come to the notice of a waiting command: arrivals on the agenda,
and bytes received since its last check. -/
def news (b : Bench) (x : Exchange) : Nat :=
  b.agenda.length + if b.inbox.received = x.seen then 0 else 1

theorem check_wait {x next : Exchange} {sentries : List Sentry} {box : Inbox} {alive : Bool}
    (h : x.check sentries box alive = .wait next) : x.tally box.received = some next := by
  unfold Exchange.check at h
  split at h
  · cases h
  · split at h
    · cases h
    · split at h
      · rename_i found
        rw [found]
        exact congrArg some (Exchange.Verdict.wait.inj h)
      · cases h

/-- What is left of a wait: for each piece of news a full budget, and the rest of the one
in use. -/
def remaining (b : Bench) (x : Exchange) : Nat := b.news x * (x.patience + 1) + x.budget

/-- Each check uses up news or budget. -/
theorem remaining_decreases (b : Bench) (d : Duration) {x next : Exchange}
    (h : x.tally b.inbox.received = some next) :
    (b.sleep d).remaining next < b.remaining x := by
  have fewer := b.sleep_agenda_le d
  have same := b.sleep_inbox d
  have less {before after patience budget rest : Nat} (h : after < before)
      (full : rest ≤ patience) :
      after * (patience + 1) + rest < before * (patience + 1) + budget := by
    have := Nat.mul_le_mul_right (patience + 1) (Nat.succ_le_of_lt h)
    rw [Nat.succ_mul] at this
    omega
  unfold Exchange.tally at h
  unfold remaining
  split at h
  · rename_i changed
    obtain rfl := Option.some.inj h
    refine less ?_ (Nat.le_refl _)
    unfold news
    rw [if_neg changed]
    by_cases eq : (b.sleep d).agenda.length = b.agenda.length
    · rw [same eq, if_pos rfl]; omega
    · split <;> omega
  · rename_i quiet
    split at h
    · cases h
    · obtain rfl := Option.some.inj h
      have le : (b.sleep d).news { x with budget := x.budget - 1 } ≤ b.news x := by
        unfold news
        simp only [ne_eq, Decidable.not_not] at quiet
        rw [if_pos quiet]
        by_cases eq : (b.sleep d).agenda.length = b.agenda.length
        · rw [same eq]; simp [quiet, eq]
        · split <;> omega
      have := Nat.mul_le_mul_right (x.patience + 1) le
      dsimp only
      omega

/-- Check the receive buffer at once and after every poll interval, until the answer
is there, the session is stopped, or the budget is used up. An answer leaves the buffer. -/
def await (b : Bench) (x : Exchange) : Bench × Exchange.Ending :=
  match _h : x.check b.sentries b.inbox b.alive with
  | .answered taken rest => ({ b with inbox := rest }, .answered taken)
  | .stopped => (b, .stopped)
  | .expired => (b, .expired)
  | .wait next => (b.sleep b.poll).await next
termination_by b.remaining x
decreasing_by exact b.remaining_decreases b.poll (check_wait ‹_›)

/-- Announce a command, record it and write it. Bytes waiting before the write are
never taken for its answer. The mark is set and the bytes are written in one step: what arrives
between the two is what the device replies to the write. -/
def issue (b : Bench) (origin : Origin) (command : Text) (timeout : Duration) :
    Bench × Except SendFault Exchange :=
  let b := b.notice (.sending origin command)
  let mark := b.inbox.data.length
  let data := wire command
  match (b.record (.moved origin .outward data)).write data with
  | (b, .error cause) => (b, .error ⟨command, cause⟩)
  | (b, .ok ()) =>
      let budget := patience timeout b.poll
      (b, .ok ⟨command, mark, budget, budget, b.inbox.received⟩)

def exchange (b : Bench) (origin : Origin) (command : Text) (timeout : Duration) :
    Bench × Except SendFault Exchange.Ending :=
  match b.issue origin command timeout with
  | (b, .error fault) => (b, .error fault)
  | (b, .ok x) =>
      let (b, ending) := b.await x
      (b, .ok ending)

def report (b : Bench) (origin : Origin) (command : Text) (timeout : Duration) :
    Exchange.Ending → Bench × Response
  | .answered taken => b.deliver origin command taken
  | .stopped => (b.notice (.abandoned command), .missing)
  | .expired => (b.expire command timeout, .missing)

def send (b : Bench) (origin : Origin) (command : Text) (timeout : Duration) :
    Bench × Except SendFault Response :=
  match b.exchange origin command timeout with
  | (b, .error fault) => (b, .error fault)
  | (b, .ok ending) =>
      let (b, response) := b.report origin command timeout ending
      (b, .ok response)

end Bench

def LinkCheck.judge (check : LinkCheck) (response : Response) : Except LinkFault Unit :=
  if response.timedOut then .error (.timedOut check.command)
  else if (firstAt? check.expect response.text).isNone then
    .error (.mismatch check.command check.expect response.text)
  else .ok ()

namespace Bench

def checkLink (b : Bench) (check : LinkCheck) (timeout : Duration) :
    Bench × Except LinkFault Unit :=
  match b.send .script check.command timeout with
  | (b, .error fault) => (b, .error (.send fault))
  | (b, .ok response) =>
      match check.judge response with
      | .error fault => (b, .error fault)
      | .ok () => (b.notice (.linkAnswered check.command), .ok ())

end Bench
end ModemDialog
