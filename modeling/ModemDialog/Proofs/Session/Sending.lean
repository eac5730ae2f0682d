import ModemDialog.Proofs.Session.Waiting

/-! A whole send: what it records, what it takes out of the buffer, and what it
answers, by the way its wait ends. -/
namespace ModemDialog
namespace Exchange.Ending

def response (command : Text) : Ending → Response
  | .answered taken => ⟨Response.withoutEcho taken.response command, false⟩
  | .stopped => .missing
  | .expired => .missing

def entries (origin : Origin) (command : Text) : Ending → List Transcript.Entry
  | .answered taken =>
      (if taken.stray = [] then [] else [.moved origin .inward taken.stray]) ++
        [.moved origin .inward taken.response]
  | .stopped => []
  | .expired => [.note (expiredReport command)]

def removed : Ending → Bytes
  | .answered taken => taken.stray ++ taken.response
  | .stopped => []
  | .expired => []

end Exchange.Ending

namespace Bench

/-- From `before` to `after` things are only shown and noticed, and a working transcript
gets `entries`. -/
def Notes (before after : Bench) (entries : List Transcript.Entry) : Prop :=
  ∃ events, Advances before after events ∧ (∀ e ∈ events, e.aside = true) ∧
    (before.sink = .file → Event.entries events = entries)

namespace Notes

variable {before mid after : Bench} {entries later : List Transcript.Entry}

theorem refl (b : Bench) : Notes b b [] := ⟨[], .refl b, by simp, fun _ => rfl⟩

theorem trans (h : Notes before mid entries) (k : Notes mid after later) :
    Notes before after (entries ++ later) := by
  obtain ⟨events, advances, aside, recorded⟩ := h
  obtain ⟨events', advances', aside', recorded'⟩ := k
  refine ⟨events ++ events', advances.trans advances', fun e member => ?_, fun file => ?_⟩
  · rcases List.mem_append.mp member with early | late
    · exact aside e early
    · exact aside' e late
  · rw [Event.entries_append, recorded file, recorded' (advances.file file)]

theorem shown (h : Notes before mid entries) (k : Notes mid after []) :
    Notes before after entries := by
  rw [← List.append_nil entries]
  exact h.trans k

theorem record (b : Bench) (entry : Transcript.Entry) : Notes b (b.record entry) [entry] := by
  obtain ⟨events, advances, aside, file⟩ := b.record_advances entry
  refine ⟨events, advances, aside, fun working => ?_⟩
  rw [file working]
  rfl

theorem notice (b : Bench) {n : Notice} (aside : (Event.noticed n).aside = true) :
    Notes b (b.notice n) [] := by
  refine ⟨_, b.notice_advances n, by simpa using aside, fun _ => rfl⟩

theorem printText (b : Bench) (t : Text) : Notes b (b.printText t) [] :=
  ⟨_, b.printText_advances t, by simp [Event.aside], fun _ => rfl⟩

theorem print (b : Bench) (data : Bytes) : Notes b (b.print data) [] :=
  ⟨_, b.print_advances data, by simp [Event.aside], fun _ => rfl⟩

end Notes

theorem surface_notes (b : Bench) (origin : Origin) (command : Text) (data : Bytes) :
    Notes b (b.surface origin command data)
      (if data = [] then [] else [.moved origin .inward data]) := by
  unfold surface
  by_cases empty : data = []
  · simp only [empty, List.isEmpty_nil, if_true]
    exact .refl b
  · rw [if_neg (by simpa using empty), if_neg empty]
    exact (((Notes.notice b rfl).trans (.record _ _)).shown (.print _ data)).shown
      (.printText _ separator)

theorem report_spec (b : Bench) (origin : Origin) (command : Text) (timeout : Duration)
    (ending : Exchange.Ending) :
    (b.report origin command timeout ending).2 = ending.response command ∧
      Notes b (b.report origin command timeout ending).1 (ending.entries origin command) := by
  cases ending with
  | answered taken =>
      refine ⟨rfl, ?_⟩
      have recorded := (surface_notes b origin command taken.stray).trans
        (.record _ (.moved origin .inward taken.response))
      exact (recorded.shown (.printText _ _)).shown (.printText _ separator)
  | stopped => exact ⟨rfl, .notice b rfl⟩
  | expired =>
      refine ⟨rfl, ?_⟩
      have recorded := (Notes.notice b (n := .timedOut command timeout) rfl).trans
        (.record _ (.note (expiredReport command)))
      exact recorded.shown (.printText _ _)

theorem issue_spec (b : Bench) (origin : Origin) (command : Text) (timeout : Duration) :
    (∃ recorded events,
      Advances b (b.issue origin command timeout).1
        (.noticed (.sending origin command) :: recorded ++ .wrote (wire command) :: events) ∧
      (∀ e ∈ recorded, e.aside = true) ∧ (∀ e ∈ events, e.ofLine = true) ∧
      (b.sink = .file → Event.entries recorded = [.moved origin .outward (wire command)])) ∧
    ∀ x, (b.issue origin command timeout).2 = .ok x →
      x.command = command ∧ x.mark = b.inbox.data.length := by
  have announced := b.notice_advances (.sending origin command)
  obtain ⟨recorded, records, aside, entries⟩ :=
    Notes.record (b.notice (.sending origin command)) (.moved origin .outward (wire command))
  obtain ⟨events, writes, line⟩ := write_advances
    ((b.notice (.sending origin command)).record (.moved origin .outward (wire command)))
    (wire command)
  have whole := (announced.trans records).trans writes
  unfold issue
  dsimp only
  split
  · rename_i after cause wrote
    rw [wrote] at whole
    refine ⟨⟨recorded, events, whole, aside, line, entries⟩, fun x issued => ?_⟩
    cases issued
  · rename_i after wrote
    rw [wrote] at whole
    refine ⟨⟨recorded, events, whole, aside, line, entries⟩, fun x issued => ?_⟩
    obtain rfl := Except.ok.inj issued
    exact ⟨rfl, rfl⟩

theorem await_takes (b : Bench) (x : Exchange) :
    ∃ last box, Passes b last ∧ (b.await x).1 = { last with inbox := box } ∧
      last.inbox.data = (b.await x).2.removed ++ box.data ∧
      box.received = last.inbox.received ∧
      ((b.await x).2 = .stopped → last.alive = false) := by
  obtain ⟨last, y, checks, ends⟩ := b.await_spec x
  cases ending : (b.await x).2 with
  | answered taken =>
      rw [ending] at ends
      obtain ⟨rest, found, after⟩ := ends
      obtain ⟨frame, -, -, -, received⟩ := Exchange.examine_eq_some_iff.mp found
      have split := (Exchange.examine_split found).1
      exact ⟨last, rest, checks.passes, after, split, by rw [received], fun h => by cases h⟩
  | stopped =>
      rw [ending] at ends
      exact ⟨last, last.inbox, checks.passes, ends.2, rfl, rfl, fun _ => ends.1⟩
  | expired =>
      rw [ending] at ends
      exact ⟨last, last.inbox, checks.passes, ends.2, rfl, rfl, fun h => by cases h⟩

def removed : Except SendFault Exchange.Ending → Bytes
  | .error _ => []
  | .ok ending => ending.removed

def conclusion (origin : Origin) (command : Text) :
    Except SendFault Exchange.Ending → List Transcript.Entry
  | .error _ => []
  | .ok ending => ending.entries origin command

/-- The account of one send. Ahead of the write stands its announcement and the entry
for what is written; behind it what the line brings and the entries for the way the wait
ends. What leaves the buffer is the front of what was there and what came. -/
structure Account (before after : Bench) (origin : Origin) (command : Text)
    (outcome : Except SendFault Exchange.Ending) (ahead behind : List Event) : Prop where
  history : after.history = before.history ++
    (.noticed (.sending origin command) :: ahead ++ .wrote (wire command) :: behind)
  ahead_aside : ∀ e ∈ ahead, e.aside = true
  behind_only : ∀ e ∈ behind, e.aside = true ∨ e.ofLine = true
  entries_ahead : before.sink = .file →
    Event.entries ahead = [.moved origin .outward (wire command)]
  entries_behind : before.sink = .file →
    Event.entries behind = conclusion origin command outcome
  data : before.inbox.data ++ Event.arrivals behind = removed outcome ++ after.inbox.data
  received : after.inbox.received = before.inbox.received + (Event.arrivals behind).length
  device : after.device = before.device
  sentries : after.sentries = before.sentries
  poll : after.poll = before.poll
  file : before.sink = .file → after.sink = .file
  stopped : outcome = .ok .stopped → after.alive = false

namespace Account

variable {before after : Bench} {origin : Origin} {command : Text}
  {outcome : Except SendFault Exchange.Ending} {ahead behind : List Event}

theorem arrived (h : Account before after origin command outcome ahead behind) :
    after.arrived = before.arrived ++ Event.arrivals behind := by
  rw [Bench.arrived, h.history, Event.arrivals_append, Event.arrivals_append,
    Event.arrivals_cons, Event.arrivals_cons, Event.arrivals_of_aside h.ahead_aside]
  rfl

theorem arrivedSince (h : Account before after origin command outcome ahead behind) :
    before.arrivedSince after = Event.arrivals behind := by
  rw [Bench.arrivedSince, h.arrived, List.drop_left]

end Account

private theorem account_of_parts {b last after : Bench} (box : Inbox) {origin : Origin}
    {command : Text} {outcome : Except SendFault Exchange.Ending} {ahead line : List Event}
    (advances : Advances b last
      (.noticed (.sending origin command) :: ahead ++ .wrote (wire command) :: line))
    (aside : ∀ e ∈ ahead, e.aside = true) (only : ∀ e ∈ line, e.ofLine = true)
    (entries : b.sink = .file → Event.entries ahead = [.moved origin .outward (wire command)])
    (taken : last.inbox.data = removed outcome ++ box.data)
    (received : box.received = last.inbox.received)
    (reports : Notes { last with inbox := box } after (conclusion origin command outcome))
    (stopped : outcome = .ok .stopped → last.alive = false) :
    ∃ behind, Account b after origin command outcome ahead behind := by
  obtain ⟨events, reports, shown, concluded⟩ := reports
  have silent : Event.arrivals events = [] := Event.arrivals_of_aside shown
  have brought : Event.arrivals
      (.noticed (.sending origin command) :: ahead ++ .wrote (wire command) :: line) =
        Event.arrivals line := by
    rw [Event.arrivals_append, Event.arrivals_cons, Event.arrivals_cons,
      Event.arrivals_of_aside aside]
    rfl
  refine ⟨line ++ events, ?_⟩
  constructor
  case history =>
    rw [reports.history]
    show last.history ++ events = _
    rw [advances.history]
    simp
  case ahead_aside => exact aside
  case behind_only =>
    intro e member
    rcases List.mem_append.mp member with early | late
    · exact .inr (only e early)
    · exact .inl (shown e late)
  case entries_ahead => exact entries
  case entries_behind =>
    intro file
    rw [Event.entries_append, Event.entries_of_line only, concluded (advances.file file)]
    rfl
  case data =>
    rw [Event.arrivals_append, silent, List.append_nil, reports.data, silent, List.append_nil,
      ← taken, advances.data, brought]
  case received =>
    rw [Event.arrivals_append, silent, List.append_nil, reports.received, silent, received,
      advances.received, brought]
    rfl
  case device => exact reports.device.trans advances.device
  case sentries => exact reports.sentries.trans advances.sentries
  case poll => exact reports.poll.trans advances.poll
  case file => exact fun file => reports.file (advances.file file)
  case stopped => exact fun ended => reports.stopped (stopped ended)

theorem send_account (b : Bench) (origin : Origin) (command : Text) (timeout : Duration) :
    ∃ ahead behind, Account b (b.send origin command timeout).1 origin command
      (b.exchange origin command timeout).2 ahead behind := by
  obtain ⟨⟨ahead, answers, issues, aside, line, entries⟩, -⟩ :=
    b.issue_spec origin command timeout
  refine ⟨ahead, ?_⟩
  unfold send exchange
  cases issued : b.issue origin command timeout with
  | mk mid result =>
      rw [issued] at issues
      cases result with
      | error fault =>
          exact account_of_parts mid.inbox issues aside line entries rfl rfl (.refl mid)
            (fun ended => by cases ended)
      | ok x =>
          obtain ⟨last, box, ⟨events, passes, quiet⟩, after, taken, received, stopped⟩ :=
            mid.await_takes x
          have whole := issues.trans passes
          rw [List.append_assoc, List.cons_append] at whole
          have only : ∀ e ∈ answers ++ events, e.ofLine = true := by
            intro e member
            rcases List.mem_append.mp member with early | late
            · exact line e early
            · exact quiet e late
          have reports := ((mid.await x).1.report_spec origin command timeout (mid.await x).2).2
          rw [after] at reports
          dsimp only
          rw [after]
          exact account_of_parts box whole aside only entries taken received reports
            (fun ended => stopped (Except.ok.inj ended))

theorem send_result (b : Bench) (origin : Origin) (command : Text) (timeout : Duration) :
    (b.send origin command timeout).2 =
      (b.exchange origin command timeout).2.map (Exchange.Ending.response command) := by
  unfold send
  cases ended : b.exchange origin command timeout with
  | mk after outcome =>
      cases outcome with
      | error fault => rfl
      | ok ending =>
          have told := (after.report_spec origin command timeout ending).1
          simp only [Except.map]
          rw [told]

end Bench
end ModemDialog
