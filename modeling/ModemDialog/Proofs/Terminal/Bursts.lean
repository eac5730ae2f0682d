import ModemDialog.Terminal.Burst

/-! What becomes of the bytes that a burst collects. A burst that ends well hands out all that its
reads have given, in order; one that meets with a fault hands out nothing, and what it had collected
by then is lost. -/
namespace ModemDialog.Terminal

inductive Reaction where
  | waited (readiness : Readiness)
  | read (room : Nat) (received : Received)

namespace Reaction

def given : Reaction → Bytes
  | .read room (.bytes data) => data.take room
  | _ => []

def fault? : Reaction → Option ReadFault
  | .waited (.gone conditions) => some (.gone conditions)
  | .waited (.failed cause) => some (.wait cause)
  | .read _ (.failed cause) => some (.read cause)
  | _ => none

def obtained (answers : List Reaction) : Bytes := answers.flatMap given

@[simp] theorem obtained_cons (a : Reaction) (answers : List Reaction) :
    obtained (a :: answers) = a.given ++ obtained answers := List.flatMap_cons

@[simp] theorem given_waited (readiness : Readiness) : (Reaction.waited readiness).given = [] := rfl

theorem given_length_le (room : Nat) (received : Received) :
    (Reaction.read room received).given.length ≤ room := by
  cases received with
  | bytes data => exact List.length_take_le room data
  | _ => exact Nat.zero_le room

end Reaction

open Reaction (given_length_le obtained)

/-- A burst as its answers tell it, when `filled` has been collected and `room` is left: each read
is offered the room that is left, what it gives is put behind what was there, and the first fault
ends it. -/
inductive Tells : (filled : Bytes) → (room : Nat) → List Reaction → Except ReadFault Bytes → Prop where
  | done (filled : Bytes) (room : Nat) : Tells filled room [] (.ok filled)
  | gone {filled : Bytes} {room : Nat} {readiness : Readiness} {fault : ReadFault}
      (faulty : (Reaction.waited readiness).fault? = some fault) :
      Tells filled room [.waited readiness] (.error fault)
  | failed {filled : Bytes} {room : Nat} {received : Received} {fault : ReadFault}
      (faulty : (Reaction.read room received).fault? = some fault) :
      Tells filled room [.read room received] (.error fault)
  | waited {filled : Bytes} {room : Nat} {readiness : Readiness} {answers : List Reaction}
      {outcome : Except ReadFault Bytes} (fine : (Reaction.waited readiness).fault? = none)
      (rest : Tells filled room answers outcome) :
      Tells filled room (.waited readiness :: answers) outcome
  | read {filled : Bytes} {room : Nat} {received : Received} {answers : List Reaction}
      {outcome : Except ReadFault Bytes} (fine : (Reaction.read room received).fault? = none)
      (rest : Tells (filled ++ (Reaction.read room received).given)
        (room - (Reaction.read room received).given.length) answers outcome) :
      Tells filled room (.read room received :: answers) outcome

/-- What a burst hands out: all that has been collected, if no answer is a fault; else the fault,
which is the last answer. -/
def Returns (filled : Bytes) (answers : List Reaction) : Except ReadFault Bytes → Prop
  | .ok data => data = filled ++ obtained answers ∧ ∀ a ∈ answers, a.fault? = none
  | .error fault => ∃ earlier last, answers = earlier ++ [last] ∧ last.fault? = some fault ∧
      ∀ a ∈ earlier, a.fault? = none

theorem Returns.cons {filled : Bytes} {answers : List Reaction} {outcome : Except ReadFault Bytes}
    {a : Reaction} (fine : a.fault? = none) (h : Returns (filled ++ a.given) answers outcome) :
    Returns filled (a :: answers) outcome := by
  cases outcome with
  | ok data =>
      obtain ⟨rfl, faultless⟩ := h
      exact ⟨by simp, List.forall_mem_cons.mpr ⟨fine, faultless⟩⟩
  | error fault =>
      obtain ⟨earlier, last, rfl, faulty, faultless⟩ := h
      exact ⟨a :: earlier, last, rfl, faulty, List.forall_mem_cons.mpr ⟨fine, faultless⟩⟩

namespace Tells

variable {filled : Bytes} {room : Nat} {answers : List Reaction} {outcome : Except ReadFault Bytes}

theorem returns (h : Tells filled room answers outcome) : Returns filled answers outcome := by
  induction h with
  | done filled room => exact ⟨(List.append_nil filled).symm, by simp⟩
  | gone faulty | failed faulty => exact ⟨[], _, rfl, faulty, by simp⟩
  | waited fine rest ih => exact .cons fine (by simpa using ih)
  | read fine rest ih => exact ih.cons fine

theorem obtained_length_le (h : Tells filled room answers outcome) :
    (obtained answers).length ≤ room := by
  induction h with
  | done | gone => exact Nat.zero_le _
  | @failed _ room received _ _ => simpa [obtained] using given_length_le room received
  | waited fine rest ih => exact ih
  | @read _ room received _ _ fine rest ih =>
      have here := given_length_le room received
      rw [Reaction.obtained_cons, List.length_append]
      omega

theorem offered (h : Tells filled room answers outcome) {earlier later : List Reaction}
    {offer : Nat} {received : Received}
    (parted : answers = earlier ++ .read offer received :: later) :
    offer + (obtained earlier).length = room := by
  induction h generalizing earlier with
  | done => simp at parted
  | gone faulty =>
      cases earlier with
      | nil => cases parted
      | cons a earlier => simp at parted
  | failed faulty =>
      cases earlier with
      | nil =>
          cases parted
          rfl
      | cons a earlier => simp at parted
  | waited fine rest ih =>
      cases earlier with
      | nil => cases parted
      | cons a earlier =>
          obtain ⟨rfl, behind⟩ := List.cons.inj parted
          simpa using ih behind
  | @read _ room received _ _ fine rest ih =>
      cases earlier with
      | nil =>
          cases parted
          rfl
      | cons a earlier =>
          obtain ⟨rfl, behind⟩ := List.cons.inj parted
          have here := given_length_le room received
          have there := ih behind
          rw [Reaction.obtained_cons, List.length_append]
          omega

end Tells

namespace Source

variable {σ : Type}

def logged (source : Source σ) : Source (σ × List Reaction) where
  wait s d :=
    let waited := source.wait s.1 d
    ((waited.1, s.2 ++ [.waited waited.2]), waited.2)
  read s room :=
    let read := source.read s.1 room
    ((read.1, s.2 ++ [.read room read.2]), read.2)

theorem awaitInput_logged {source : Source σ} {s t : σ} {d : Duration}
    {result : Except ReadFault Bool} (waited : source.awaitInput s d = (t, result))
    (log : List Reaction) :
    ∃ readiness, source.logged.awaitInput (s, log) d = ((t, log ++ [.waited readiness]), result) ∧
      match result with
      | .ok _ => (Reaction.waited readiness).fault? = none
      | .error fault => (Reaction.waited readiness).fault? = some fault := by
  simp only [awaitInput, logged] at waited ⊢
  generalize source.wait s (span d) = answered at waited ⊢
  obtain ⟨u, readiness⟩ := answered
  refine ⟨readiness, ?_⟩
  cases readiness <;> cases waited <;> exact ⟨rfl, rfl⟩

theorem take_logged {source : Source σ} {s t : σ} {room : Nat} {result : Except ReadFault Bytes}
    (taken : source.take s room = (t, result)) (log : List Reaction) :
    ∃ received, source.logged.take (s, log) room =
        ((t, log ++ [.read room received]), result) ∧
      match result with
      | .ok data => (Reaction.read room received).fault? = none ∧
          data = (Reaction.read room received).given
      | .error fault => (Reaction.read room received).fault? = some fault := by
  simp only [take, logged] at taken ⊢
  generalize source.read s room = answered at taken ⊢
  obtain ⟨u, received⟩ := answered
  refine ⟨received, ?_⟩
  cases received with
  | failed cause =>
      cases taken
      exact ⟨rfl, rfl⟩
  | _ =>
      cases taken
      exact ⟨rfl, rfl, rfl⟩

theorem collect_logged (source : Source σ) (gap : Duration) (s : σ) (log : List Reaction)
    (filled : Bytes) (room : Nat) :
    ∃ answers, source.logged.collect gap (s, log) filled room =
        (((source.collect gap s filled room).1, log ++ answers),
          (source.collect gap s filled room).2) ∧
      Tells filled room answers (source.collect gap s filled room).2 ∧
      answers.length ≤ 2 * room := by
  fun_induction collect source gap s filled room generalizing log with
  | case1 s filled room full =>
      refine ⟨[], ?_, .done filled room, Nat.zero_le _⟩
      rw [collect, dif_pos full, List.append_nil]
  | case2 s filled room more t fault waited =>
      obtain ⟨readiness, awaited, told⟩ := awaitInput_logged waited log
      refine ⟨[.waited readiness], ?_, .gone told, ?_⟩
      · rw [collect, dif_neg more, awaited]
      · rw [List.length_singleton]
        omega
  | case3 s filled room more t waited =>
      obtain ⟨readiness, awaited, fine⟩ := awaitInput_logged waited log
      refine ⟨[.waited readiness], ?_, .waited fine (.done filled room), ?_⟩
      · rw [collect, dif_neg more, awaited]
      · rw [List.length_singleton]
        omega
  | case4 s filled room more t waited u fault taken =>
      obtain ⟨readiness, awaited, fine⟩ := awaitInput_logged waited log
      obtain ⟨received, took, told⟩ := take_logged taken (log ++ [.waited readiness])
      refine ⟨[.waited readiness, .read room received], ?_, .waited fine (.failed told), ?_⟩
      · rw [collect, dif_neg more, awaited]
        simp [took]
      · simp only [List.length_cons, List.length_nil]
        omega
  | case5 s filled room more t waited u taken =>
      obtain ⟨readiness, awaited, fine⟩ := awaitInput_logged waited log
      obtain ⟨received, took, fine', given⟩ := take_logged taken (log ++ [.waited readiness])
      refine ⟨[.waited readiness, .read room received], ?_, .waited fine (.read fine' ?_), ?_⟩
      · rw [collect, dif_neg more, awaited]
        simp [took]
      · rw [← given, List.append_nil]
        exact .done filled _
      · simp only [List.length_cons, List.length_nil]
        omega
  | case6 s filled room more t waited u b rest taken ih =>
      obtain ⟨readiness, awaited, fine⟩ := awaitInput_logged waited log
      obtain ⟨received, took, fine', given⟩ := take_logged taken (log ++ [.waited readiness])
      obtain ⟨answers, collected, tells, ends⟩ :=
        ih (log ++ [.waited readiness] ++ [.read room received])
      refine ⟨.waited readiness :: .read room received :: answers, ?_,
        .waited fine (.read fine' (given ▸ tells)), ?_⟩
      · rw [collect, dif_neg more, awaited]
        simp only [took, collected]
        simp
      · -- A read that goes on has given a byte at least, which pays for the two answers.
        simp only [List.length_cons] at ends ⊢
        omega

theorem burst_logged (source : Source σ) (gap : Duration) (s : σ) (log : List Reaction) (room : Nat)
    (d : Duration) :
    ∃ answers, source.logged.burst gap (s, log) room d =
        (((source.burst gap s room d).1, log ++ answers), (source.burst gap s room d).2) ∧
      Tells [] room answers (source.burst gap s room d).2 ∧ answers.length ≤ 2 * (room + 1) := by
  fun_cases burst source gap s room d with
  | case1 t fault waited =>
      obtain ⟨readiness, awaited, told⟩ := awaitInput_logged waited log
      refine ⟨[.waited readiness], ?_, .gone told, ?_⟩
      · rw [burst, awaited]
      · rw [List.length_singleton]
        omega
  | case2 t waited =>
      obtain ⟨readiness, awaited, fine⟩ := awaitInput_logged waited log
      refine ⟨[.waited readiness], ?_, .waited fine (.done [] room), ?_⟩
      · rw [burst, awaited]
      · rw [List.length_singleton]
        omega
  | case3 t waited u fault taken =>
      obtain ⟨readiness, awaited, fine⟩ := awaitInput_logged waited log
      obtain ⟨received, took, told⟩ := take_logged taken (log ++ [.waited readiness])
      refine ⟨[.waited readiness, .read room received], ?_, .waited fine (.failed told), ?_⟩
      · rw [burst, awaited]
        simp [took]
      · simp only [List.length_cons, List.length_nil]
        omega
  | case4 t waited u data taken =>
      obtain ⟨readiness, awaited, fine⟩ := awaitInput_logged waited log
      obtain ⟨received, took, fine', given⟩ := take_logged taken (log ++ [.waited readiness])
      obtain ⟨answers, collected, tells, ends⟩ := source.collect_logged gap u
        (log ++ [.waited readiness] ++ [.read room received]) data (room - data.length)
      refine ⟨.waited readiness :: .read room received :: answers, ?_,
        .waited fine (.read fine' (given ▸ tells)), ?_⟩
      · rw [burst, awaited]
        simp only [took, collected]
        simp
      · simp only [List.length_cons]
        omega

def bursts (source : Source σ) (gap : Duration) : σ → List (Nat × Duration) →
    List (Except ReadFault Bytes)
  | _, [] => []
  | s, (room, d) :: more =>
      (source.burst gap s room d).2 :: source.bursts gap (source.burst gap s room d).1 more

end Source

structure Call where
  room : Nat
  answers : List Reaction
  outcome : Except ReadFault Bytes

namespace Call

def delivered (c : Call) : Bytes :=
  match c.outcome with
  | .ok data => data
  | .error _ => []

def obtained (c : Call) : Bytes := Reaction.obtained c.answers

structure Accounted (c : Call) : Prop where
  returns : Returns [] c.answers c.outcome
  fits : c.obtained.length ≤ c.room
  offered : ∀ earlier offer received later,
    c.answers = earlier ++ .read offer received :: later →
      offer + (Reaction.obtained earlier).length = c.room
  ends : c.answers.length ≤ 2 * (c.room + 1)

end Call

namespace Source

variable {σ : Type}

def calls (source : Source σ) (gap : Duration) : σ → List (Nat × Duration) → List Call
  | _, [] => []
  | s, (room, d) :: more =>
      let logged := source.logged.burst gap (s, []) room d
      ⟨room, logged.1.2, logged.2⟩ :: source.calls gap logged.1.1 more

end Source

namespace Call

variable {c : Call} {calls : List Call}

theorem Accounted.delivered_eq_iff (h : c.Accounted) :
    c.delivered = c.obtained ↔ ∀ fault, c.outcome = .error fault → c.obtained = [] := by
  have returns := h.returns
  rw [delivered]
  cases ended : c.outcome with
  | ok data =>
      rw [ended] at returns
      exact iff_of_true returns.1 (by simp)
  | error fault =>
      constructor
      · exact fun empty _ _ => empty.symm
      · exact fun empty => (empty fault rfl).symm

theorem Accounted.delivered_length_le (h : c.Accounted) :
    c.delivered.length ≤ c.obtained.length := by
  have returns := h.returns
  rw [delivered]
  cases ended : c.outcome with
  | ok data =>
      rw [ended] at returns
      exact Nat.le_of_eq (congrArg List.length returns.1)
  | error fault => exact Nat.zero_le _

theorem delivered_length_le (accounted : ∀ c ∈ calls, c.Accounted) :
    (calls.flatMap delivered).length ≤ (calls.flatMap obtained).length := by
  induction calls with
  | nil => exact Nat.le_refl _
  | cons c calls ih =>
      rw [List.forall_mem_cons] at accounted
      simp only [List.flatMap_cons, List.length_append]
      exact Nat.add_le_add accounted.1.delivered_length_le (ih accounted.2)

theorem flatMap_delivered_eq_iff (accounted : ∀ c ∈ calls, c.Accounted) :
    calls.flatMap delivered = calls.flatMap obtained ↔
      ∀ c ∈ calls, c.delivered = c.obtained := by
  induction calls with
  | nil => simp
  | cons c calls ih =>
      rw [List.forall_mem_cons] at accounted ⊢
      simp only [List.flatMap_cons]
      constructor
      · intro same
        have total := congrArg List.length same
        have here := accounted.1.delivered_length_le
        have there := delivered_length_le accounted.2
        simp only [List.length_append] at total
        obtain ⟨first, rest⟩ := List.append_inj same (by omega)
        exact ⟨first, (ih accounted.2).mp rest⟩
      · rintro ⟨first, rest⟩
        rw [first, (ih accounted.2).mpr rest]

end Call

namespace Source

variable {σ : Type}

theorem calls_spec (source : Source σ) (gap : Duration) (s : σ) (requests : List (Nat × Duration)) :
    (source.calls gap s requests).map Call.outcome = source.bursts gap s requests ∧
      (source.calls gap s requests).map Call.room = requests.map Prod.fst ∧
      ∀ c ∈ source.calls gap s requests, c.Accounted := by
  induction requests generalizing s with
  | nil => simp [calls, bursts]
  | cons request more ih =>
      obtain ⟨room, d⟩ := request
      obtain ⟨answers, logged, tells, ends⟩ := source.burst_logged gap s [] room d
      obtain ⟨outcomes, rooms, accounted⟩ := ih (source.burst gap s room d).1
      have first : Call.Accounted ⟨room, answers, (source.burst gap s room d).2⟩ :=
        ⟨tells.returns, tells.obtained_length_le, fun _ _ _ _ => tells.offered, ends⟩
      rw [calls, bursts, logged, List.nil_append]
      exact ⟨congrArg _ outcomes, congrArg _ rooms, List.forall_mem_cons.mpr ⟨first, accounted⟩⟩

/-- Whatever a source answers, however often it is read and with however much room: a burst ends,
reads only into the room that is left, and hands out what it has obtained unless its last answer
is a fault. So all the bytes that were obtained are handed out just if no burst that has met with a
fault had collected any. -/
theorem bursts_deliver_all_iff (source : Source σ) (gap : Duration) (s : σ)
    (requests : List (Nat × Duration)) :
    (source.calls gap s requests).map Call.outcome = source.bursts gap s requests ∧
    (source.calls gap s requests).map Call.room = requests.map Prod.fst ∧
    (∀ c ∈ source.calls gap s requests, c.Accounted) ∧
    ((source.calls gap s requests).flatMap Call.delivered =
        (source.calls gap s requests).flatMap Call.obtained ↔
      ∀ c ∈ source.calls gap s requests, ∀ fault, c.outcome = .error fault → c.obtained = []) := by
  obtain ⟨outcomes, rooms, accounted⟩ := source.calls_spec gap s requests
  refine ⟨outcomes, rooms, accounted, (Call.flatMap_delivered_eq_iff accounted).trans ?_⟩
  exact forall₂_congr fun c inside => (accounted c inside).delivered_eq_iff

/-- A source with given answers to waits and to reads, and silent behind them. -/
def scripted : Source (List Readiness × List Received) where
  wait
    | ([], reads), _ => (([], reads), .expired)
    | (readiness :: waits, reads), _ => ((waits, reads), readiness)
  read
    | (waits, []), _ => ((waits, []), .nothing)
    | (waits, received :: reads), _ => ((waits, reads), received)

/-- Four bytes have been read when the line hangs up while more are waited for. -/
theorem collected_bytes_lost_to_hangup :
    let calls := scripted.calls (.ofMillis 10)
      ([.ready, .gone "PollFlags(POLLIN | POLLHUP)".toList], [.bytes [0x4F, 0x4B, 0x0D, 0x0A]])
      [(4096, .ofSecs 2)]
    calls.flatMap Call.delivered = [] ∧
      calls.flatMap Call.obtained = [0x4F, 0x4B, 0x0D, 0x0A] := by
  simp [calls, burst, awaitInput, take, scripted, logged, collect, Call.delivered, Call.obtained,
    Reaction.obtained, Reaction.given]

end Source
end ModemDialog.Terminal
