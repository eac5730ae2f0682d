import ModemDialog.Loopback
import Mathlib.Data.List.TakeWhile

/-! The line in memory hands out every byte once and in order. A ledger kept over any
sequence of acts compares what the reads have returned, and what the reader still has before
it, with all that was sent while there was somebody to send it and somebody to read it. -/
namespace ModemDialog.Loopback

/-- What can be done to a line. A write comes with the answer that is made to it. -/
inductive Act where
  | write (data reply : Bytes)
  | inject (data : Bytes)
  | read (room : Nat)
  | close
  | dropWriter
  | dropHandle
  | dropReader
  deriving DecidableEq

def Act.endsWriter (a : Act) : Bool := a = .close || a = .dropWriter

def perform (l : Loopback) : Act → Loopback
  | .write data reply => (l.write (fun _ => reply) data).1
  | .inject data => l.inject data
  | .read room => (l.read room).1
  | .close | .dropWriter => l.close
  | .dropHandle => l.dropHandle
  | .dropReader => l.dropReader

def after (l : Loopback) (acts : List Act) : Loopback := acts.foldl perform l

def returned (l : Loopback) : Act → Bytes
  | .read room => (l.read room).2.toOption.getD []
  | _ => []

def handed (l : Loopback) : List Act → Bytes
  | [] => []
  | a :: more => l.returned a ++ handed (l.perform a) more

def unread (l : Loopback) : Bytes := l.pending ++ l.queue.flatten

/-- What is left of the chunk being handed out; behind its end, the chunk next in the queue. -/
def current (l : Loopback) : Bytes := if l.pending = [] then l.queue.headD [] else l.pending

/-- What is sent by those of two senders that are there, until the reader goes. -/
def accepted : (writer handle : Bool) → List Act → Bytes
  | _, _, [] => []
  | writer, handle, .write _ reply :: more =>
      (if writer then reply else []) ++ accepted writer handle more
  | writer, handle, .inject data :: more =>
      (if handle then data else []) ++ accepted writer handle more
  | writer, handle, .read _ :: more => accepted writer handle more
  | _, handle, .close :: more | _, handle, .dropWriter :: more => accepted false handle more
  | writer, _, .dropHandle :: more => accepted writer false more
  | _, _, .dropReader :: _ => []

def withReader (acts : List Act) : List Act := acts.takeWhile (· ≠ .dropReader)

theorem withReader_of_stays {acts : List Act} (stays : .dropReader ∉ acts) :
    withReader acts = acts := by
  unfold withReader
  rw [List.takeWhile_eq_self_iff]
  intro a mem
  have other : a ≠ .dropReader := by
    rintro rfl
    exact stays mem
  simp [other]

def recorded (acts : List Act) : List Bytes :=
  (acts.takeWhile (!·.endsWriter)).filterMap fun
    | .write data _ => some data
    | _ => none

variable {l : Loopback}

theorem after_cons (l : Loopback) (a : Act) (more : List Act) :
    l.after (a :: more) = (l.perform a).after more := rfl

/-! Who is there. -/

theorem write_senders (l : Loopback) (answer : Bytes → Bytes) (data : Bytes) :
    (l.write answer data).1.writer = l.writer ∧ (l.write answer data).1.handle = l.handle ∧
      (l.write answer data).1.reader = l.reader := by
  unfold write
  dsimp only
  repeat' split
  all_goals exact ⟨rfl, rfl, rfl⟩

theorem read_senders (l : Loopback) (room : Nat) :
    (l.read room).1.writer = l.writer ∧ (l.read room).1.handle = l.handle ∧
      (l.read room).1.reader = l.reader := by
  unfold read
  repeat' split
  all_goals exact ⟨rfl, rfl, rfl⟩

theorem inject_senders (l : Loopback) (data : Bytes) :
    (l.inject data).writer = l.writer ∧ (l.inject data).handle = l.handle ∧
      (l.inject data).reader = l.reader := by
  unfold inject
  split <;> exact ⟨rfl, rfl, rfl⟩

theorem perform_writer (l : Loopback) (a : Act) :
    (l.perform a).writer = (l.writer && !a.endsWriter) := by
  cases a with
  | write data reply => simp [perform, write_senders, Act.endsWriter]
  | inject data => simp [perform, inject_senders, Act.endsWriter]
  | read room => simp [perform, read_senders, Act.endsWriter]
  | close | dropWriter => simp [perform, Loopback.close, Act.endsWriter]
  | dropHandle | dropReader =>
      simp [perform, Loopback.dropHandle, Loopback.dropReader, Act.endsWriter]

theorem perform_handle (l : Loopback) (a : Act) :
    (l.perform a).handle = (l.handle && !decide (a = .dropHandle)) := by
  cases a with
  | write data reply => simp [perform, write_senders]
  | inject data => simp [perform, inject_senders]
  | read room => simp [perform, read_senders]
  | close | dropWriter | dropHandle | dropReader =>
      simp [perform, Loopback.close, Loopback.dropHandle, Loopback.dropReader]

theorem perform_reader (l : Loopback) (a : Act) :
    (l.perform a).reader = (l.reader && !decide (a = .dropReader)) := by
  cases a with
  | write data reply => simp [perform, write_senders]
  | inject data => simp [perform, inject_senders]
  | read room => simp [perform, read_senders]
  | close | dropWriter | dropHandle | dropReader =>
      simp [perform, Loopback.close, Loopback.dropHandle, Loopback.dropReader]

theorem after_there {there : Loopback → Bool} {ends : Act → Bool}
    (step : ∀ l a, there (l.perform a) = (there l && !ends a)) (l : Loopback) (acts : List Act) :
    there (l.after acts) = (there l && !acts.any ends) := by
  induction acts generalizing l with
  | nil => simp [after]
  | cons a more ih =>
      rw [after_cons, ih, step, List.any_cons, Bool.not_or, Bool.and_assoc]

theorem writer_gone_iff (acts : List Act) :
    (fresh.after acts).writer = false ↔ .close ∈ acts ∨ .dropWriter ∈ acts := by
  rw [after_there perform_writer]
  simp only [fresh, Act.endsWriter, Bool.true_and, Bool.not_eq_false', List.any_eq_true,
    Bool.or_eq_true, decide_eq_true_eq]
  constructor
  · rintro ⟨a, mem, rfl | rfl⟩
    · exact .inl mem
    · exact .inr mem
  · rintro (mem | mem)
    · exact ⟨_, mem, .inl rfl⟩
    · exact ⟨_, mem, .inr rfl⟩

theorem handle_gone_iff (acts : List Act) :
    (fresh.after acts).handle = false ↔ .dropHandle ∈ acts := by
  rw [after_there perform_handle]
  simp [fresh]

theorem reader_gone_iff (acts : List Act) :
    (fresh.after acts).reader = false ↔ .dropReader ∈ acts := by
  rw [after_there perform_reader]
  simp [fresh]

/-! The ledger. -/

def taken (l : Loopback) : Act → Bytes
  | .write _ reply => if l.writer then reply else []
  | .inject data => if l.handle then data else []
  | _ => []

theorem write_unread (reader : l.reader = true) (data reply : Bytes) :
    (l.write (fun _ => reply) data).1.unread = l.unread ++ if l.writer then reply else [] := by
  unfold write
  cases writer : l.writer
  · simp
  · cases reply with
    | nil => simp [unread]
    | cons byte rest => simp [reader, unread]

theorem read_of_pending (waiting : l.pending ≠ []) (room : Nat) :
    l.read room = ({ l with pending := l.pending.drop room }, .ok (l.pending.take room)) := by
  simp [read, waiting]

theorem read_of_queue (empty : l.pending = []) {chunk : Bytes} {queue : List Bytes}
    (queued : l.queue = chunk :: queue) (room : Nat) :
    l.read room = ({ l with queue, pending := chunk.drop room }, .ok (chunk.take room)) := by
  simp [read, empty, queued]

theorem read_of_nothing (empty : l.pending = []) (unqueued : l.queue = []) (room : Nat) :
    l.read room =
      (l, if l.writer || l.handle then .ok [] else .error .outputClosed) := by
  unfold read
  rw [empty, unqueued]
  cases l.writer || l.handle <;> rfl

theorem read_unread (l : Loopback) (room : Nat) :
    (l.read room).2.toOption.getD [] ++ (l.read room).1.unread = l.unread := by
  by_cases empty : l.pending = []
  · cases queued : l.queue with
    | nil =>
        rw [read_of_nothing empty queued]
        cases l.writer || l.handle <;> rfl
    | cons chunk queue =>
        rw [read_of_queue empty queued]
        simp [unread, empty, queued, Except.toOption, ← List.append_assoc]
  · rw [read_of_pending empty]
    simp [unread, Except.toOption, ← List.append_assoc]

/-- One act keeps the ledger: what it returns and what is left unread make up what was
unread and what it adds. -/
theorem perform_balances (reader : l.reader = true) {a : Act} (stays : a ≠ .dropReader) :
    l.returned a ++ (l.perform a).unread = l.unread ++ l.taken a := by
  cases a with
  | write data reply => exact write_unread reader data reply
  | inject data =>
      simp only [returned, perform, taken, inject, reader, Bool.true_and, List.nil_append]
      split <;> simp [unread]
  | read room =>
      simp only [returned, perform, taken, List.append_nil]
      exact read_unread l room
  | close | dropWriter | dropHandle =>
      simp [returned, perform, taken, unread, Loopback.close, Loopback.dropHandle]
  | dropReader => exact absurd rfl stays

theorem accepted_cons (l : Loopback) {a : Act} (stays : a ≠ .dropReader) (more : List Act) :
    accepted l.writer l.handle (a :: more) =
      l.taken a ++ accepted (l.perform a).writer (l.perform a).handle more := by
  rw [perform_writer, perform_handle]
  cases a with
  | dropReader => exact absurd rfl stays
  | _ => simp [accepted, taken, Act.endsWriter]

structure Deserted (l : Loopback) : Prop where
  reader : l.reader = false
  pending : l.pending = []
  queue : l.queue = []

theorem dropReader_deserted (l : Loopback) : l.dropReader.Deserted := ⟨rfl, rfl, rfl⟩

theorem Deserted.perform (h : l.Deserted) (a : Act) :
    (l.perform a).Deserted ∧ l.returned a = [] := by
  obtain ⟨reader, pending, queue⟩ := h
  cases a with
  | write data reply =>
      refine ⟨?_, rfl⟩
      unfold Loopback.perform write
      dsimp only
      repeat' split
      all_goals first
        | exact ⟨reader, pending, queue⟩
        | simp_all
  | inject data =>
      have ignored : l.inject data = l := by simp [inject, reader]
      rw [Loopback.perform, ignored]
      exact ⟨⟨reader, pending, queue⟩, rfl⟩
  | read room =>
      rw [Loopback.perform, returned, read_of_nothing pending queue]
      refine ⟨⟨reader, pending, queue⟩, ?_⟩
      cases l.writer || l.handle <;> rfl
  | close | dropWriter | dropHandle => exact ⟨⟨reader, pending, queue⟩, rfl⟩
  | dropReader => exact ⟨dropReader_deserted l, rfl⟩

theorem Deserted.handed (h : l.Deserted) (acts : List Act) : l.handed acts = [] := by
  induction acts generalizing l with
  | nil => rfl
  | cons a more ih =>
      obtain ⟨stays, nothing⟩ := h.perform a
      rw [Loopback.handed, nothing, ih stays]
      rfl

theorem handed_balances (reader : l.reader = true) (acts : List Act) :
    l.handed acts ++ (l.after (withReader acts)).unread =
      l.unread ++ accepted l.writer l.handle acts := by
  induction acts generalizing l with
  | nil => simp [handed, withReader, after, accepted]
  | cons a more ih =>
      by_cases goes : a = .dropReader
      · subst goes
        have deserted : (l.perform .dropReader).Deserted := dropReader_deserted l
        simp [handed, returned, deserted.handed, withReader, after, accepted]
      · have reader' : (l.perform a).reader = true := by simp [perform_reader, reader, goes]
        have still : withReader (a :: more) = a :: withReader more := by
          simp [withReader, goes]
        calc l.handed (a :: more) ++ (l.after (withReader (a :: more))).unread
            = l.returned a ++ ((l.perform a).handed more ++
                ((l.perform a).after (withReader more)).unread) := by
              rw [still, after_cons, handed, List.append_assoc]
          _ = l.returned a ++ (l.perform a).unread ++
                accepted (l.perform a).writer (l.perform a).handle more := by
              rw [ih reader', List.append_assoc]
          _ = l.unread ++ accepted l.writer l.handle (a :: more) := by
              rw [perform_balances reader goes, accepted_cons l goes, List.append_assoc]

/-! The record of writes. -/

theorem write_of_closed (closed : l.writer = false) (answer : Bytes → Bytes) (data : Bytes) :
    l.write answer data = (l, .error .closed) := by
  simp [write, closed]

theorem write_of_open (writer : l.writer = true) (answer : Bytes → Bytes) (data : Bytes) :
    (l.write answer data).1.written = l.written ++ [data] ∧
      (l.write answer data).2 =
        if l.reader = false ∧ answer data ≠ [] then .error .readerGone else .ok () := by
  unfold write
  rw [writer]
  dsimp only
  cases l.reader <;> cases answer data <;> simp

theorem perform_written (l : Loopback) (a : Act) :
    (l.perform a).written =
      l.written ++ match a with
        | .write data _ => if l.writer then [data] else []
        | _ => [] := by
  cases a with
  | write data reply =>
      cases writer : l.writer
      · simp [perform, write_of_closed writer]
      · simp [perform, write_of_open writer]
  | inject data =>
      simp only [perform, inject, List.append_nil]
      split <;> rfl
  | read room =>
      simp only [perform, read, List.append_nil]
      repeat' split
      all_goals rfl
  | close | dropWriter | dropHandle | dropReader =>
      simp [perform, Loopback.close, Loopback.dropHandle, Loopback.dropReader]

theorem after_written_of_closed (closed : l.writer = false) (acts : List Act) :
    (l.after acts).written = l.written := by
  induction acts generalizing l with
  | nil => rfl
  | cons a more ih =>
      have closed' : (l.perform a).writer = false := by simp [perform_writer, closed]
      rw [after_cons, ih closed', perform_written, closed]
      cases a <;> simp

theorem after_written (writer : l.writer = true) (acts : List Act) :
    (l.after acts).written = l.written ++ recorded acts := by
  induction acts generalizing l with
  | nil => simp [after, recorded]
  | cons a more ih =>
      cases ends : a.endsWriter
      · have writer' : (l.perform a).writer = true := by simp [perform_writer, writer, ends]
        rw [after_cons, ih writer', perform_written, writer]
        cases a <;> simp_all [recorded, Act.endsWriter]
      · have closed : (l.perform a).writer = false := by simp [perform_writer, ends]
        rw [after_cons, after_written_of_closed closed, perform_written]
        cases a <;> simp_all [recorded, Act.endsWriter]

/-! What a read returns. -/

theorem read_cases (l : Loopback) (room : Nat) :
    (l.read room).2 = .ok (l.current.take room) ∧
        ¬ (l.pending = [] ∧ l.queue = [] ∧ l.writer = false ∧ l.handle = false) ∨
      l.read room = (l, .error .outputClosed) ∧
        l.pending = [] ∧ l.queue = [] ∧ l.writer = false ∧ l.handle = false := by
  unfold current
  by_cases empty : l.pending = []
  · rw [if_pos empty]
    cases queued : l.queue with
    | nil =>
        rw [read_of_nothing empty queued]
        cases writer : l.writer
        · cases handle : l.handle
          · exact .inr ⟨rfl, empty, rfl, rfl, rfl⟩
          · exact .inl ⟨by simp, by simp⟩
        · exact .inl ⟨by simp, by simp⟩
    | cons chunk queue =>
        rw [read_of_queue empty queued]
        exact .inl ⟨rfl, by simp⟩
  · rw [if_neg empty, read_of_pending empty]
    exact .inl ⟨rfl, by simp [empty]⟩

theorem read_progress {room : Nat} {data : Bytes} (read : (l.read room).2 = .ok data) :
    data = l.current.take room := by
  rcases read_cases l room with ⟨gives, -⟩ | ⟨fails, -⟩
  · exact Except.ok.inj (read.symm.trans gives)
  · rw [fails] at read
    cases read

theorem read_fails_iff (l : Loopback) (room : Nat) :
    (∃ fault, (l.read room).2 = .error fault) ↔
      l.pending = [] ∧ l.queue = [] ∧ l.writer = false ∧ l.handle = false := by
  rcases read_cases l room with ⟨gives, something⟩ | ⟨fails, nothing⟩
  · simp [gives, something]
  · simp [fails, nothing]

/-- What holds of the line `l` that acts have led to. The bytes unread are those before the
reader, or those that were before it when it went. -/
structure Delivers (acts : List Act) (l : Loopback) : Prop where
  bytes : .dropReader ∉ acts → fresh.handed acts ++ l.unread = accepted true true acts
  bytesLeft : fresh.handed acts ++ (fresh.after (withReader acts)).unread =
    accepted true true acts
  fits : ∀ room data, (l.read room).2 = .ok data → data.length ≤ room
  progress : ∀ room data, (l.read room).2 = .ok data →
    data = l.current.take room ∧ data.length = min room l.current.length
  fails : ∀ room, (∃ fault, (l.read room).2 = .error fault) ↔
    l.pending = [] ∧ l.queue = [] ∧ (.close ∈ acts ∨ .dropWriter ∈ acts) ∧ .dropHandle ∈ acts
  written : l.written = recorded acts
  closed : (.close ∈ acts ∨ .dropWriter ∈ acts) →
    ∀ answer data, l.write answer data = (l, .error .closed)
  record : ¬ (.close ∈ acts ∨ .dropWriter ∈ acts) → ∀ answer data,
    (l.write answer data).1.written = l.written ++ [data] ∧
      (l.write answer data).2 =
        if .dropReader ∈ acts ∧ answer data ≠ [] then .error .readerGone else .ok ()

theorem delivers_once_and_in_order (acts : List Act) : Delivers acts (fresh.after acts) where
  bytes stays := by
    have balances := handed_balances (l := fresh) rfl acts
    rw [withReader_of_stays stays] at balances
    exact balances
  bytesLeft := handed_balances rfl acts
  fits room _ read := read_progress read ▸ List.length_take_le room _
  progress room data read := by
    obtain rfl := read_progress read
    exact ⟨rfl, List.length_take⟩
  fails room := by rw [read_fails_iff, writer_gone_iff, handle_gone_iff]
  written := after_written rfl acts
  closed gone := write_of_closed ((writer_gone_iff acts).mpr gone)
  record stays answer data := by
    have writer : (fresh.after acts).writer = true := by
      rw [← writer_gone_iff, Bool.not_eq_false] at stays
      exact stays
    obtain ⟨written, result⟩ := write_of_open writer answer data
    simp only [reader_gone_iff] at result
    exact ⟨written, result⟩

/-- A chunk larger than the reader's buffer is handed out over several reads, and what is
behind the reader's back when it goes is nobody's. -/
example :
    let acts : List Act := [.inject [1, 2, 3], .write [7] [4], .read 2, .read 0, .read 2,
      .dropReader, .write [8] [5]]
    fresh.handed acts = [1, 2, 3] ∧ (fresh.after (withReader acts)).unread = [4] ∧
      (fresh.after acts).written = [[7], [8]] := by decide

end ModemDialog.Loopback
