import ModemDialog.Reader
import ModemDialog.Proofs.Loopback.Delivery

/-! The reader moves everything that was queued before the last sender went. What it has moved
and what it has not read yet make up what was sent; it stops by itself only when nothing is left,
and then it does so after a number of turns that the chunks left tell. -/
namespace ModemDialog

namespace Loopback

open Reader (chunkSize)

def readsFor (n : Nat) : Nat := (n + (chunkSize - 1)) / chunkSize

/-- How many reads hand out these chunks: an empty one takes a read too. -/
def queueReads : List Bytes → Nat
  | [] => 0
  | chunk :: queue => max 1 (readsFor chunk.length) + queueReads queue

/-- How many reads there are before a line without senders fails, that one included. -/
def readsLeft (l : Loopback) : Nat := readsFor l.pending.length + queueReads l.queue + 1

structure Drained (l : Loopback) : Prop where
  pending : l.pending = []
  queue : l.queue = []
  writer : l.writer = false
  handle : l.handle = false

variable {l : Loopback}

theorem readsFor_zero : readsFor 0 = 0 := rfl

theorem readsFor_drop (n : Nat) : readsFor (n - chunkSize) = readsFor n - 1 := by
  unfold readsFor chunkSize
  omega

theorem readsFor_pos {n : Nat} (full : 0 < n) : 0 < readsFor n := by
  unfold readsFor chunkSize
  omega

theorem drained_iff :
    l.Drained ↔ l.pending = [] ∧ l.queue = [] ∧ l.writer = false ∧ l.handle = false :=
  ⟨fun h => ⟨h.pending, h.queue, h.writer, h.handle⟩, fun h => ⟨h.1, h.2.1, h.2.2.1, h.2.2.2⟩⟩

theorem Drained.unread (h : l.Drained) : l.unread = [] := by
  simp [Loopback.unread, h.pending, h.queue]

theorem Drained.perform (h : l.Drained) {a : Act} (stays : a ≠ .dropReader) :
    (l.perform a).Drained := by
  obtain ⟨pending, queue, writer, handle⟩ := h
  cases a with
  | write data reply =>
      rw [Loopback.perform, write_of_closed writer]
      exact ⟨pending, queue, writer, handle⟩
  | inject data =>
      have ignored : l.inject data = l := by simp [inject, handle]
      rw [Loopback.perform, ignored]
      exact ⟨pending, queue, writer, handle⟩
  | read room =>
      rw [Loopback.perform, read_of_nothing pending queue]
      exact ⟨pending, queue, writer, handle⟩
  | close | dropWriter => exact ⟨pending, queue, rfl, handle⟩
  | dropHandle => exact ⟨pending, queue, writer, rfl⟩
  | dropReader => exact absurd rfl stays

theorem Drained.readsLeft (h : l.Drained) : l.readsLeft = 1 := by
  simp [Loopback.readsLeft, queueReads, readsFor_zero, h.pending, h.queue]

theorem readsLeft_read (something : ¬ (l.pending = [] ∧ l.queue = [])) :
    (l.read chunkSize).1.readsLeft + 1 = l.readsLeft := by
  by_cases empty : l.pending = []
  · cases queued : l.queue with
    | nil => exact absurd ⟨empty, queued⟩ something
    | cons chunk queue =>
        rw [read_of_queue empty queued]
        simp only [readsLeft, queueReads, empty, queued, List.length_drop, readsFor_drop,
          List.length_nil, readsFor_zero]
        omega
  · have reads := readsFor_pos (List.length_pos_iff.mpr empty)
    rw [read_of_pending empty]
    simp only [readsLeft, List.length_drop, readsFor_drop]
    omega

def Act.ofSender : Act → Bool
  | .read _ | .dropReader => false
  | _ => true

theorem ne_dropReader_of_sender {a : Act} (own : a.ofSender = true) : a ≠ .dropReader := by
  rintro rfl
  cases own

theorem returned_of_sender {a : Act} (own : a.ofSender = true) : l.returned a = [] := by
  cases a <;> first | rfl | cases own

end Loopback

namespace Reader

/-- What can happen around a reader: what the senders do, its own turns, and somebody who stops
the session. -/
inductive Act where
  | sender (a : Loopback.Act) (own : a.ofSender = true)
  | turn
  | stop

def Act.sending? : Act → Option Loopback.Act
  | .sender a _ => some a
  | .turn | .stop => none

def perform (r : Reader) : Act → Reader
  | .sender a _ => { r with line := r.line.perform a }
  | .turn => r.turn
  | .stop => { r with alive := false }

def after (r : Reader) (acts : List Act) : Reader := acts.foldl perform r

def sendings (acts : List Act) : List Loopback.Act := acts.filterMap Act.sending?

def sent (acts : List Act) : Bytes := Loopback.accepted true true (sendings acts)

variable {r : Reader}

theorem append_isEmpty (box : Inbox) (data : Bytes) :
    (if data.isEmpty then box else box.append data) = box.append data := by
  cases data <;> simp [Inbox.append]

theorem turn_cases (alive : r.alive = true) :
    (∃ data, (r.line.read chunkSize).2 = .ok data ∧ ¬ r.line.Drained ∧
      r.turn = ⟨(r.line.read chunkSize).1, r.inbox.append data, true⟩) ∨
    r.line.Drained ∧ r.turn = { r with alive := false } := by
  rcases r.line.read_cases chunkSize with ⟨read, something⟩ | ⟨fails, nothing⟩
  · left
    have whole : r.line.read chunkSize =
        ((r.line.read chunkSize).1, .ok (r.line.current.take chunkSize)) :=
      Prod.ext rfl read
    refine ⟨_, read, mt Loopback.drained_iff.mp something, ?_⟩
    unfold turn
    rw [whole, ← append_isEmpty, alive]
    rfl
  · right
    refine ⟨Loopback.drained_iff.mpr nothing, ?_⟩
    unfold turn
    rw [fails, alive]
    rfl

theorem turn_of_stopped (stopped : r.alive = false) : r.turn = r := by
  simp [turn, stopped]

theorem turn_line (r : Reader) :
    r.turn.line.writer = r.line.writer ∧ r.turn.line.handle = r.line.handle ∧
      r.turn.line.reader = r.line.reader := by
  cases alive : r.alive with
  | false =>
      rw [turn_of_stopped alive]
      exact ⟨rfl, rfl, rfl⟩
  | true =>
      rcases turn_cases alive with ⟨data, -, -, next⟩ | ⟨-, next⟩
      · rw [next]
        exact r.line.read_senders chunkSize
      · rw [next]
        exact ⟨rfl, rfl, rfl⟩

theorem turn_balances (r : Reader) :
    r.turn.inbox.data ++ r.turn.line.unread = r.inbox.data ++ r.line.unread := by
  cases alive : r.alive with
  | false => rw [turn_of_stopped alive]
  | true =>
      rcases turn_cases alive with ⟨data, read, -, next⟩ | ⟨-, next⟩
      · have given := r.line.read_unread chunkSize
        rw [read] at given
        rw [next, ← given]
        simp [Inbox.append, Except.toOption]
      · rw [next]

theorem after_balances (there : r.line.reader = true) (acts : List Act) :
    (r.after acts).inbox.data ++ (r.after acts).line.unread =
      r.inbox.data ++ r.line.unread ++
        Loopback.accepted r.line.writer r.line.handle (sendings acts) := by
  induction acts generalizing r with
  | nil => simp [after, sendings, Loopback.accepted]
  | cons a more ih =>
      cases a with
      | sender act own =>
          have stays := Loopback.ne_dropReader_of_sender own
          have there' : (r.line.perform act).reader = true := by
            simp [Loopback.perform_reader, there, stays]
          have balances := Loopback.perform_balances there stays
          rw [Loopback.returned_of_sender own, List.nil_append] at balances
          calc (r.after (.sender act own :: more)).inbox.data ++
                (r.after (.sender act own :: more)).line.unread
              = r.inbox.data ++ (r.line.perform act).unread ++
                  Loopback.accepted (r.line.perform act).writer (r.line.perform act).handle
                    (sendings more) := ih (r := { r with line := r.line.perform act }) there'
            _ = r.inbox.data ++ r.line.unread ++
                  Loopback.accepted r.line.writer r.line.handle (act :: sendings more) := by
                rw [Loopback.accepted_cons r.line stays, balances]
                simp only [List.append_assoc]
      | turn =>
          obtain ⟨writer, handle, reader⟩ := r.turn_line
          have later := ih (r := r.turn) (reader.trans there)
          rw [turn_balances, writer, handle] at later
          exact later
      | stop => exact ih (r := { r with alive := false }) there

/-- Unless somebody else stops it, a session that is stopped has an empty line that nobody sends
on; and that is how it stays. -/
theorem perform_drained {a : Act} (own : a ≠ .stop) (drained : r.alive = false → r.line.Drained) :
    (r.perform a).alive = false → (r.perform a).line.Drained := by
  intro stopped
  cases a with
  | sender act mine => exact (drained stopped).perform (Loopback.ne_dropReader_of_sender mine)
  | turn =>
      rw [perform] at stopped ⊢
      cases alive : r.alive with
      | false =>
          rw [turn_of_stopped alive]
          exact drained alive
      | true =>
          rcases turn_cases alive with ⟨data, -, -, next⟩ | ⟨empty, next⟩
          · rw [next] at stopped
            cases stopped
          · rw [next]
            exact empty
  | stop => exact absurd rfl own

theorem after_drained {acts : List Act} (own : .stop ∉ acts)
    (drained : r.alive = false → r.line.Drained) :
    (r.after acts).alive = false → (r.after acts).line.Drained := by
  induction acts generalizing r with
  | nil => exact drained
  | cons a more ih =>
      rw [List.mem_cons, not_or] at own
      exact ih own.2 (perform_drained (Ne.symm own.1) drained)

def turnsLeft (r : Reader) : Nat := if r.alive then r.line.readsLeft else 0

theorem turn_turnsLeft (writer : r.line.writer = false) (handle : r.line.handle = false) :
    r.turn.turnsLeft = r.turnsLeft - 1 := by
  cases alive : r.alive with
  | false => simp [turn_of_stopped alive, turnsLeft, alive]
  | true =>
      rcases turn_cases alive with ⟨data, -, something, next⟩ | ⟨empty, next⟩
      · have fewer : (r.line.read chunkSize).1.readsLeft + 1 = r.line.readsLeft := by
          apply Loopback.readsLeft_read
          rintro ⟨pending, queue⟩
          exact something ⟨pending, queue, writer, handle⟩
        rw [next]
        simp only [turnsLeft, alive, if_true]
        omega
      · rw [next]
        simp [turnsLeft, alive, empty.readsLeft]

theorem alive_iff_turnsLeft : r.alive = true ↔ 0 < r.turnsLeft := by
  unfold turnsLeft Loopback.readsLeft
  cases r.alive <;> simp

theorem alive_after_turns (writer : r.line.writer = false) (handle : r.line.handle = false)
    (k : Nat) : (r.after (List.replicate k .turn)).alive = true ↔ k < r.turnsLeft := by
  induction k generalizing r with
  | zero => exact alive_iff_turnsLeft
  | succ k ih =>
      obtain ⟨writer', handle', -⟩ := r.turn_line
      rw [List.replicate_succ]
      show (r.turn.after (List.replicate k .turn)).alive = true ↔ k + 1 < r.turnsLeft
      rw [ih (writer'.trans writer) (handle'.trans handle), turn_turnsLeft writer handle]
      omega

theorem after_there {there : Loopback → Bool} {ends : Loopback.Act → Bool}
    (step : ∀ l a, there (Loopback.perform l a) = (there l && !ends a))
    (keeps : ∀ r : Reader, there r.turn.line = there r.line) (r : Reader) (acts : List Act) :
    there (r.after acts).line = there (r.line.after (sendings acts)) := by
  induction acts generalizing r with
  | nil => rfl
  | cons a more ih =>
      cases a with
      | sender act own => exact ih { r with line := r.line.perform act }
      | turn =>
          have later := ih r.turn
          rw [Loopback.after_there step, keeps, ← Loopback.after_there step] at later
          exact later
      | stop => exact ih { r with alive := false }

theorem writer_gone_iff (acts : List Act) :
    ((start .fresh).after acts).line.writer = false ↔
      .close ∈ sendings acts ∨ .dropWriter ∈ sendings acts := by
  rw [after_there Loopback.perform_writer fun r => r.turn_line.1]
  exact Loopback.writer_gone_iff (sendings acts)

theorem handle_gone_iff (acts : List Act) :
    ((start .fresh).after acts).line.handle = false ↔ .dropHandle ∈ sendings acts := by
  rw [after_there Loopback.perform_handle fun r => r.turn_line.2.1]
  exact Loopback.handle_gone_iff (sendings acts)

def SendersGone (acts : List Act) : Prop :=
  (.close ∈ sendings acts ∨ .dropWriter ∈ sendings acts) ∧ .dropHandle ∈ sendings acts

theorem ledger (acts : List Act) :
    ((start .fresh).after acts).inbox.data ++ ((start .fresh).after acts).line.unread =
      sent acts := after_balances rfl acts

theorem data_of_stopped {acts : List Act} (own : .stop ∉ acts)
    (stopped : ((start .fresh).after acts).alive = false) :
    ((start .fresh).after acts).inbox.data = sent acts := by
  have drained := after_drained own (by rintro ⟨⟩) stopped
  rw [← ledger, drained.unread, List.append_nil]

theorem after_append (r : Reader) (acts more : List Act) :
    r.after (acts ++ more) = (r.after acts).after more := List.foldl_append

theorem sendings_turns (acts : List Act) (k : Nat) :
    sendings (acts ++ List.replicate k .turn) = sendings acts := by
  have silent : sendings (List.replicate k .turn) = [] := by
    simp [sendings, List.filterMap_replicate, Act.sending?]
  rw [sendings, List.filterMap_append]
  exact (congrArg _ silent).trans (List.append_nil _)

structure Drains (acts : List Act) (r : Reader) : Prop where
  ledger : r.inbox.data ++ r.line.unread = sent acts
  begins : r.inbox.data <+: sent acts
  last : .stop ∉ acts → r.alive = false → r.inbox.data = sent acts
  ends : SendersGone acts → ∀ k,
    ((r.after (List.replicate k .turn)).alive = true ↔ k < r.turnsLeft) ∧
    (.stop ∉ acts → r.turnsLeft ≤ k → (r.after (List.replicate k .turn)).inbox.data = sent acts)

/-- Whatever the senders and the reader do in whatever order: what is in the buffer is the
beginning of all that was sent, and all of it when the reader has stopped the session. Once no
sender is left the reader ends after as many turns as the chunks left need, and then it has moved
every byte, unless somebody else stopped it. -/
theorem reader_drains_line (acts : List Act) : Drains acts ((start .fresh).after acts) where
  ledger := Reader.ledger acts
  begins := ⟨_, Reader.ledger acts⟩
  last := data_of_stopped
  ends := by
    rintro ⟨writer, handle⟩ k
    have count := alive_after_turns ((writer_gone_iff acts).mpr writer)
      ((handle_gone_iff acts).mpr handle) k
    refine ⟨count, ?_⟩
    intro own enough
    have stopped : ((start .fresh).after (acts ++ List.replicate k .turn)).alive = false := by
      rw [after_append, ← Bool.not_eq_true, count]
      omega
    have own' : .stop ∉ acts ++ List.replicate k .turn := by
      simp [own]
    have data := data_of_stopped own' stopped
    rw [sent, sendings_turns, after_append] at data
    exact data

/-- An empty chunk takes one turn, one byte more than the reader's buffer holds takes two, and
the read that fails is one more. -/
example :
    ((start .fresh).after
      [.sender (.inject []) rfl, .sender (.inject (List.replicate 4097 7)) rfl,
        .sender .close rfl, .sender .dropHandle rfl]).turnsLeft = 4 := by
  decide +kernel

end Reader
end ModemDialog
