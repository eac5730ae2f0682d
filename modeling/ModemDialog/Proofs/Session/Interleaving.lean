import ModemDialog.Proofs.Inbox.Taking
import ModemDialog.Proofs.Session.IdleTimeout

/-! A send and the reader at the receive buffer, access by access. The session takes turns at the
buffer and at the flag that stops it; between any two of its turns bytes may arrive and the flag
may fall. However they are interleaved, a send that gives up has framed all the bytes that it
counted last. -/
namespace ModemDialog

theorem Inbox.append_nil (box : Inbox) : box.append [] = box := by simp [append]

structure Errand where
  command : Text
  patience : Nat
  sentries : List Sentry

inductive Phase where
  /-- Note how many bytes are waiting; then the command is written. -/
  | marking
  /-- Note how many bytes have been received. -/
  | counting (mark : Nat)
  | examining (x : Exchange)
  /-- Look whether the session has been stopped. -/
  | heeding (x : Exchange)
  | tallying (x : Exchange)
  | sleeping (x : Exchange)
  | ended (ending : Exchange.Ending)
  deriving DecidableEq

/-- The buffer, the flag, and how far the send has come. -/
structure Race where
  inbox : Inbox
  alive : Bool
  phase : Phase

namespace Race

inductive Act where
  | arrive (chunk : Bytes)
  | stop
  | turn
  deriving DecidableEq

def Act.chunk : Act → Bytes
  | .arrive chunk => chunk
  | _ => []

def brought (acts : List Act) : Bytes := acts.flatMap Act.chunk

def turn (e : Errand) (r : Race) : Race :=
  match r.phase with
  | .marking => { r with phase := .counting r.inbox.data.length }
  | .counting mark =>
      { r with phase := .examining ⟨e.command, mark, e.patience, e.patience, r.inbox.received⟩ }
  | .examining x =>
      match x.examine e.sentries r.inbox with
      | some (taken, rest) => { r with inbox := rest, phase := .ended (.answered taken) }
      | none => { r with phase := .heeding x }
  | .heeding x => { r with phase := if r.alive then .tallying x else .ended .stopped }
  | .tallying x =>
      match x.tally r.inbox.received with
      | some next => { r with phase := .sleeping next }
      | none => { r with phase := .ended .expired }
  | .sleeping x => { r with phase := .examining x }
  | .ended _ => r

def act (e : Errand) (r : Race) : Act → Race
  | .arrive chunk => { r with inbox := r.inbox.append chunk }
  | .stop => { r with alive := false }
  | .turn => r.turn e

def run (e : Errand) (r : Race) (acts : List Act) : Race := acts.foldl (act e) r

def start (inbox : Inbox) (alive : Bool) : Race := ⟨inbox, alive, .marking⟩

variable {e : Errand} {r : Race} {acts more : List Act} {x y : Exchange} {mark turns : Nat}

theorem run_append (e : Errand) (r : Race) (acts more : List Act) :
    r.run e (acts ++ more) = (r.run e acts).run e more := List.foldl_append

theorem run_snoc (e : Errand) (r : Race) (acts : List Act) (a : Act) :
    r.run e (acts ++ [a]) = (r.run e acts).act e a := run_append e r acts [a]

/-- The bytes that were waiting when the send began, before its first turn. -/
def Marked (e : Errand) (r : Race) (acts : List Act) (mark : Nat) : Prop :=
  ∃ noting rest, acts = noting ++ .turn :: rest ∧ .turn ∉ noting ∧
    mark = (r.run e noting).inbox.data.length

/-- The exchange is the one of this send, and what it has counted has been received. -/
structure Own (e : Errand) (r : Race) (acts : List Act) (x : Exchange) : Prop where
  command : x.command = e.command
  mark : Marked e r acts x.mark
  patience : x.patience = e.patience
  seen : x.seen ≤ (r.run e acts).inbox.received

/-- Framing from the anchor, the first place of the command that is not ahead of the mark, finds
no complete response. -/
def Incomplete (e : Errand) (x : Exchange) (data : Bytes) : Prop :=
  Framing.frame? e.sentries (data.drop (Inbox.anchorAt data x.mark (Utf8.encode e.command))) = none

theorem Own.incomplete_iff (h : Own e r acts x) {box : Inbox} :
    Incomplete e x box.data ↔ x.examine e.sentries box = none := by
  rw [Incomplete, Exchange.examine, h.command, Inbox.take?_eq_none_iff]

/-- Behind the acts `earlier` the session looked for the response in the buffer and found none. In
the acts `between` it has taken so many turns, and bytes have only come behind those examined. -/
structure Examined (e : Errand) (r : Race) (turns : Nat) (acts : List Act) (x : Exchange)
    (earlier between : List Act) : Prop where
  split : acts = earlier ++ .turn :: between
  turns : between.count .turn = turns
  phase : (r.run e earlier).phase = .examining x
  incomplete : Incomplete e x (r.run e earlier).inbox.data
  inbox : (r.run e acts).inbox = (r.run e earlier).inbox.append (brought between)

/-- The last of the acts so far was a comparison of the counters without news that used the budget
up; what follows it changes nothing. -/
def GaveUp (e : Errand) (r : Race) (acts : List Act) : Prop :=
  ∃ before rest x, acts = before ++ .turn :: rest ∧ (r.run e before).phase = .tallying x ∧
    x.tally (r.run e before).inbox.received = none

/-- What the phase of a send says of the acts that led to it. -/
def Sound (e : Errand) (r : Race) (acts : List Act) : Prop :=
  match (r.run e acts).phase with
  | .marking => .turn ∉ acts
  | .counting mark => Marked e r acts mark
  | .examining x | .sleeping x => Own e r acts x
  | .heeding x => Own e r acts x ∧ ∃ earlier between, Examined e r 0 acts x earlier between
  | .tallying x => Own e r acts x ∧ ∃ earlier between, Examined e r 1 acts x earlier between
  | .ended .expired => GaveUp e r acts
  | .ended _ => True

theorem Marked.append (h : Marked e r acts mark) (more : List Act) :
    Marked e r (acts ++ more) mark := by
  obtain ⟨noting, rest, rfl, first, noted⟩ := h
  exact ⟨noting, rest ++ more, by simp, first, noted⟩

theorem GaveUp.append (h : GaveUp e r acts) (more : List Act) : GaveUp e r (acts ++ more) := by
  obtain ⟨before, rest, x, rfl, phase, expires⟩ := h
  exact ⟨before, rest ++ more, x, by simp, phase, expires⟩

theorem Own.append (h : Own e r acts x)
    (le : (r.run e acts).inbox.received ≤ (r.run e (acts ++ more)).inbox.received) :
    Own e r (acts ++ more) x :=
  ⟨h.command, h.mark.append more, h.patience, h.seen.trans le⟩

theorem Own.tally (h : Own e r acts x) (next : x.tally (r.run e acts).inbox.received = some y) :
    Own e r acts y := by
  unfold Exchange.tally at next
  split at next
  · obtain rfl := Option.some.inj next
    exact ⟨h.command, h.mark, h.patience, Nat.le_refl _⟩
  · split at next
    · cases next
    · obtain rfl := Option.some.inj next
      exact ⟨h.command, h.mark, h.patience, h.seen⟩

theorem Examined.snoc {earlier between : List Act} {a : Act}
    (h : Examined e r turns acts x earlier between)
    (grows : (r.run e (acts ++ [a])).inbox = (r.run e acts).inbox.append a.chunk) :
    Examined e r (turns + [a].count .turn) (acts ++ [a]) x earlier (between ++ [a]) where
  split := by simp [h.split]
  turns := by rw [List.count_append, h.turns]
  phase := h.phase
  incomplete := h.incomplete
  inbox := by
    rw [grows, h.inbox, brought, brought, List.flatMap_append]
    simp [Inbox.append, Nat.add_assoc]

theorem Examined.idle {earlier between : List Act} {a : Act} (other : a ≠ .turn)
    (h : Examined e r turns acts x earlier between)
    (grows : (r.run e (acts ++ [a])).inbox = (r.run e acts).inbox.append a.chunk) :
    Examined e r turns (acts ++ [a]) x earlier (between ++ [a]) := by
  have longer := h.snoc grows
  rwa [List.count_singleton, if_neg (by simpa using other)] at longer

theorem Sound.idle (h : Sound e r acts) {a : Act} (other : a ≠ .turn) : Sound e r (acts ++ [a]) := by
  have same : (r.run e (acts ++ [a])).phase = (r.run e acts).phase := by
    rw [run_snoc]
    cases a with
    | turn => exact absurd rfl other
    | _ => rfl
  have grows : (r.run e (acts ++ [a])).inbox = (r.run e acts).inbox.append a.chunk := by
    rw [run_snoc]
    cases a with
    | turn => exact absurd rfl other
    | arrive chunk => rfl
    | stop => exact (Inbox.append_nil _).symm
  have le : (r.run e acts).inbox.received ≤ (r.run e (acts ++ [a])).inbox.received := by
    rw [grows]
    exact Nat.le_add_right _ _
  unfold Sound at h ⊢
  rw [same]
  cases phase : (r.run e acts).phase with
  | marking =>
      rw [phase] at h
      simpa [other.symm] using h
  | counting mark =>
      rw [phase] at h
      exact h.append _
  | examining x | sleeping x =>
      rw [phase] at h
      exact h.append le
  | heeding x | tallying x =>
      rw [phase] at h
      obtain ⟨own, earlier, between, examined⟩ := h
      exact ⟨own.append le, earlier, _, examined.idle other grows⟩
  | ended ending =>
      rw [phase] at h
      cases ending with
      | expired => exact h.append _
      | _ => trivial

theorem turn_inbox (missing : ∀ x, r.phase = .examining x → x.examine e.sentries r.inbox = none) :
    (r.turn e).inbox = r.inbox := by
  unfold turn
  cases phase : r.phase with
  | examining x => simp only [missing x phase]
  | tallying x => cases counted : x.tally r.inbox.received <;> simp only [counted]
  | _ => rfl

theorem Sound.turn (h : Sound e r acts) : Sound e r (acts ++ [.turn]) := by
  have next : r.run e (acts ++ [.turn]) = (r.run e acts).turn e := run_snoc e r acts .turn
  have same (missing : ∀ x, (r.run e acts).phase = .examining x →
      x.examine e.sentries (r.run e acts).inbox = none) :
      (r.run e (acts ++ [.turn])).inbox = (r.run e acts).inbox := next ▸ turn_inbox missing
  unfold Sound at h ⊢
  rw [next, Race.turn]
  cases phase : (r.run e acts).phase with
  | marking =>
      rw [phase] at h
      exact ⟨acts, [], rfl, h, rfl⟩
  | counting mark =>
      rw [phase] at h
      have same := same (by simp [phase])
      exact ⟨rfl, h.append _, rfl, by rw [same]⟩
  | examining x =>
      rw [phase] at h
      cases found : x.examine e.sentries (r.run e acts).inbox with
      | some pair => simp only [found]
      | none =>
          have same := same fun y there => by
            obtain rfl := Phase.examining.inj (phase.symm.trans there)
            exact found
          simp only [found]
          have incomplete := h.incomplete_iff.mpr found
          refine ⟨h.append (by rw [same]), acts, [], rfl, rfl, phase, incomplete, ?_⟩
          exact same.trans (Inbox.append_nil _).symm
  | heeding x =>
      rw [phase] at h
      obtain ⟨own, earlier, between, examined⟩ := h
      have same := same (by simp [phase])
      cases alive : (r.run e acts).alive with
      | false => trivial
      | true =>
          refine ⟨own.append (by rw [same]), earlier, _, examined.snoc (a := .turn) ?_⟩
          exact same.trans (Inbox.append_nil _).symm
  | tallying x =>
      rw [phase] at h
      have same := same (by simp [phase])
      cases counted : x.tally (r.run e acts).inbox.received with
      | none =>
          simp only [counted]
          exact ⟨acts, [], x, rfl, phase, counted⟩
      | some y =>
          simp only [counted]
          exact (h.1.tally counted).append (by rw [same])
  | sleeping x =>
      rw [phase] at h
      exact h.append (by rw [same (by simp [phase])])
  | ended ending =>
      rw [phase] at h
      cases ending with
      | expired =>
          simp only [phase]
          exact h.append _
      | _ => simp only [phase]

theorem sound (e : Errand) (box : Inbox) (alive : Bool) (acts : List Act) :
    Sound e (start box alive) acts := by
  induction acts using List.reverseRecOn with
  | nil => exact List.not_mem_nil
  | append_singleton acts a ih =>
      by_cases turns : a = .turn
      · rw [turns]
        exact ih.turn
      · exact ih.idle turns

theorem Sound.tallying (h : Sound e r acts) (tallies : (r.run e acts).phase = .tallying x) :
    Own e r acts x ∧ ∃ earlier between, Examined e r 1 acts x earlier between := by
  rwa [Sound, tallies] at h

theorem Sound.expired (h : Sound e r acts) (expired : (r.run e acts).phase = .ended .expired) :
    GaveUp e r acts := by
  rwa [Sound, expired] at h

/-- Bytes that have slipped in are news to the comparison. -/
theorem Examined.restores {earlier between : List Act}
    (h : Examined e r turns acts x earlier between) (sound : Sound e r earlier)
    (own : Own e r acts x) (slipped : brought between ≠ []) :
    x.tally (r.run e acts).inbox.received =
      some { x with seen := (r.run e acts).inbox.received, budget := e.patience } := by
  have before : Own e r earlier x := by
    rwa [Sound, h.phase] at sound
  have more : (r.run e acts).inbox.received =
      (r.run e earlier).inbox.received + (brought between).length := by
    rw [h.inbox]
    rfl
  have positive : 0 < (brought between).length := List.length_pos_iff.mpr slipped
  have news : (r.run e acts).inbox.received ≠ x.seen := by
    have seen := before.seen
    omega
  rw [Exchange.tally, if_pos news, own.patience]

/-- Undisturbed, three turns are one check of the buffer. -/
theorem run_check (e : Errand) (x : Exchange) (box : Inbox) (alive : Bool) :
    run e ⟨box, alive, .examining x⟩ [.turn, .turn, .turn] =
      match x.check e.sentries box alive with
      | .answered taken rest => ⟨rest, alive, .ended (.answered taken)⟩
      | .stopped => ⟨box, alive, .ended .stopped⟩
      | .expired => ⟨box, alive, .ended .expired⟩
      | .wait next => ⟨box, alive, .sleeping next⟩ := by
  unfold run Exchange.check
  simp only [List.foldl_cons, List.foldl_nil, act, turn]
  cases x.examine e.sentries box with
  | some pair => rfl
  | none =>
      cases alive with
      | false => rfl
      | true => cases counted : x.tally box.received <;> simp [counted]

end Race

namespace Bench

open Race (run)

theorem Advances.races {before after : Bench} {events : List Event}
    (h : Advances before after events) (e : Errand) (phase : Phase) :
    ∃ acts, run e ⟨before.inbox, before.alive, phase⟩ acts = ⟨after.inbox, after.alive, phase⟩ := by
  have inbox : before.inbox.append (Event.arrivals events) = after.inbox := by
    rw [Inbox.append, ← h.data, ← h.received]
  cases lives : before.alive with
  | false =>
      rw [h.stopped lives]
      exact ⟨[.arrive (Event.arrivals events)], by rw [← inbox]; rfl⟩
  | true =>
      cases after.alive with
      | false => exact ⟨[.arrive (Event.arrivals events), .stop], by rw [← inbox]; rfl⟩
      | true => exact ⟨[.arrive (Event.arrivals events)], by rw [← inbox]; rfl⟩

theorem await_races (b : Bench) (x : Exchange) (e : Errand) (framed : e.sentries = b.sentries) :
    ∃ acts, run e ⟨b.inbox, b.alive, .examining x⟩ acts =
      ⟨(b.await x).1.inbox, (b.await x).1.alive, .ended (b.await x).2⟩ := by
  fun_induction await b x with
  | case1 b x taken rest answered =>
      refine ⟨[.turn, .turn, .turn], ?_⟩
      rw [Race.run_check, framed, answered]
  | case2 b x stopped =>
      refine ⟨[.turn, .turn, .turn], ?_⟩
      rw [Race.run_check, framed, stopped]
  | case3 b x expired =>
      refine ⟨[.turn, .turn, .turn], ?_⟩
      rw [Race.run_check, framed, expired]
  | case4 b x next waits ih =>
      obtain ⟨events, advances, -⟩ := (b.sleep_line b.poll).passes
      obtain ⟨slept, passes⟩ := advances.races e (.sleeping next)
      obtain ⟨later, ends⟩ := ih (framed.trans advances.sentries.symm)
      refine ⟨[.turn, .turn, .turn] ++ slept ++ [.turn] ++ later, ?_⟩
      rw [Race.run_append, Race.run_append, Race.run_append, Race.run_check, framed, waits]
      dsimp only
      rw [passes]
      exact ends

theorem exchange_races (b : Bench) (origin : Origin) (command : Text) (timeout : Duration)
    {ending : Exchange.Ending} (ended : (b.exchange origin command timeout).2 = .ok ending) :
    ∃ acts, (Race.start b.inbox b.alive).run ⟨command, patience timeout b.poll, b.sentries⟩ acts =
      ⟨(b.exchange origin command timeout).1.inbox, (b.exchange origin command timeout).1.alive,
        .ended ending⟩ := by
  obtain ⟨⟨recorded, events, advances, -⟩, -⟩ := b.issue_spec origin command timeout
  unfold exchange at ended ⊢
  cases issued : b.issue origin command timeout with
  | mk mid result =>
      rw [issued] at advances ended
      cases result with
      | error fault => cases ended
      | ok x =>
          obtain rfl := Except.ok.inj ended
          obtain ⟨starts, -⟩ := issue_starts issued
          obtain ⟨written, passes⟩ := advances.races
            ⟨command, patience timeout b.poll, b.sentries⟩ (.counting b.inbox.data.length)
          obtain ⟨later, ends⟩ := mid.await_races x
            ⟨command, patience timeout b.poll, b.sentries⟩ advances.sentries.symm
          refine ⟨[.turn] ++ written ++ [.turn] ++ later, ?_⟩
          rw [Race.run_append, Race.run_append, Race.run_append]
          show run _ (run _ (run _ ⟨b.inbox, b.alive, .counting b.inbox.data.length⟩ written) _) _ = _
          rw [passes, ← ends, starts]
          rfl

end Bench

namespace Race

/-- Whenever the counters are compared, the session has looked for the response just before, in the
bytes that it counts but for those that have slipped in; and if any have, the comparison restores
the budget. So nothing has slipped in when a send gives up, and it has found no response in all that it
counted. What a bench does with a command is one of the interleavings. -/
theorem expired_was_incomplete :
    (∀ (e : Errand) (box : Inbox) (alive : Bool) (acts : List Act) (x : Exchange),
      ((start box alive).run e acts).phase = .tallying x →
      ∃ earlier between, Examined e (start box alive) 1 acts x earlier between ∧
        (brought between ≠ [] →
          x.tally ((start box alive).run e acts).inbox.received =
            some { x with
              seen := ((start box alive).run e acts).inbox.received, budget := e.patience })) ∧
    (∀ (e : Errand) (box : Inbox) (alive : Bool) (acts : List Act),
      ((start box alive).run e acts).phase = .ended .expired →
      ∃ before rest x, acts = before ++ .turn :: rest ∧
        ((start box alive).run e before).phase = .tallying x ∧
        x.tally ((start box alive).run e before).inbox.received = none ∧
        Own e (start box alive) before x ∧
        (∃ earlier between, Examined e (start box alive) 1 before x earlier between ∧
          brought between = []) ∧
        Incomplete e x ((start box alive).run e before).inbox.data) ∧
    ∀ (b : Bench) (origin : Origin) (command : Text) (timeout : Duration)
      (ending : Exchange.Ending), (b.exchange origin command timeout).2 = .ok ending →
      ∃ acts, (start b.inbox b.alive).run ⟨command, patience timeout b.poll, b.sentries⟩ acts =
        ⟨(b.exchange origin command timeout).1.inbox,
          (b.exchange origin command timeout).1.alive, .ended ending⟩ := by
  refine ⟨fun e box alive acts x tallies => ?_, fun e box alive acts expired => ?_,
    fun b origin command timeout ending => b.exchange_races origin command timeout⟩
  · obtain ⟨own, earlier, between, examined⟩ := (sound e box alive acts).tallying tallies
    exact ⟨earlier, between, examined, examined.restores (sound e box alive earlier) own⟩
  · obtain ⟨before, rest, x, parted, tallies, expires⟩ := (sound e box alive acts).expired expired
    obtain ⟨own, earlier, between, examined⟩ := (sound e box alive before).tallying tallies
    have restores := examined.restores (sound e box alive earlier) own
    -- A comparison that ends the send has no news, so nothing has slipped in ahead of it.
    have slipped : brought between = [] := by
      by_contra slipped
      rw [restores slipped] at expires
      cases expires
    refine ⟨before, rest, x, parted, tallies, expires, own, ⟨earlier, between, examined, slipped⟩, ?_⟩
    rw [examined.inbox, slipped, Inbox.append_nil]
    exact examined.incomplete

-- The answer slips in behind the only look that a patience of one would allow.
example :
    let answer := "OK\r\n".toList
    ((start .empty true).run ⟨"AT".toList, 1, [.plain answer]⟩
      [.turn, .turn, .turn, .arrive (Utf8.encode answer), .turn, .turn, .turn, .turn]).phase =
        .ended (.answered ⟨[], Utf8.encode answer⟩) := by
  decide

end Race
end ModemDialog
