import Mathlib.Data.List.TakeWhile
import ModemDialog.Proofs.Advance
import ModemDialog.Proofs.Engine.Turns
import ModemDialog.Proofs.Script.Serving

/-! What a session still writes once it has been stopped. All that gives commands looks first
if the session is alive, but for two: the link check, and a line that the operator's input
yields while it stops the session. -/
namespace ModemDialog

def OperatorLine.writes : OperatorLine → List Bytes
  | .send command => [wire command]
  | _ => []

def Dialogue.Deed.writes : Dialogue.Deed → List Bytes
  | .send command => [wire command]
  | _ => []

namespace Event

def behindStop (events : List (Nat × Event)) : List (Nat × Event) :=
  (events.dropWhile (!·.2.isStop)).tail

def typedFirst : List (Nat × Event) → List Bytes
  | (_, .typed line) :: _ => (OperatorLine.parse line).writes
  | _ => []

/-- Behind the stop, no more is written than a line asks for that came with it. -/
def Heeds (events : List (Nat × Event)) : Prop :=
  (behindStop events).flatMap (·.2.written) = typedFirst (behindStop events)

variable {events later : List (Nat × Event)}

theorem written_of_all_passive (passive : ∀ e ∈ events, e.2.passive = true) :
    events.flatMap (·.2.written) = [] :=
  List.flatMap_eq_nil_iff.mpr fun e member => written_of_passive (passive e member)

theorem typedFirst_of_passive (passive : ∀ e ∈ events, e.2.passive = true) :
    typedFirst events = [] := by
  unfold typedFirst
  split
  · rename_i line rest
    exact absurd rfl (ne_typed_of_passive (passive _ List.mem_cons_self) line)
  · rfl

theorem behindStop_append (unstopped : ∀ e ∈ events, e.2.isStop = false) :
    behindStop (events ++ later) = behindStop later := by
  have all : events.dropWhile (!·.2.isStop) = [] :=
    List.dropWhile_eq_nil_iff.mpr fun e member => by simp [unstopped e member]
  rw [behindStop, List.dropWhile_append, all]
  rfl

theorem behindStop_append_of_stopped (stopped : ∃ e ∈ events, e.2.isStop = true) :
    behindStop (events ++ later) = behindStop events ++ later := by
  obtain ⟨e, member, stops⟩ := stopped
  cases dropped : events.dropWhile (!·.2.isStop) with
  | nil =>
      have unstopped := List.dropWhile_eq_nil_iff.mp dropped e member
      simp [stops] at unstopped
  | cons first rest =>
      rw [behindStop, behindStop, List.dropWhile_append, dropped]
      rfl

theorem behindStop_subset : behindStop events ⊆ events :=
  fun _ member => (List.dropWhile_suffix _).subset (List.mem_of_mem_tail member)

namespace Heeds

theorem of_passive (passive : ∀ e ∈ behindStop events, e.2.passive = true) : Heeds events :=
  (written_of_all_passive passive).trans (typedFirst_of_passive passive).symm

theorem append (unstopped : ∀ e ∈ events, e.2.isStop = false) (h : Heeds later) :
    Heeds (events ++ later) := by
  rw [Heeds, behindStop_append unstopped]
  exact h

theorem append_passive (h : Heeds events) (stopped : ∃ e ∈ events, e.2.isStop = true)
    (passive : ∀ e ∈ later, e.2.passive = true) : Heeds (events ++ later) := by
  have silent := written_of_all_passive passive
  rw [Heeds, behindStop_append_of_stopped stopped, List.flatMap_append, silent, List.append_nil]
  rw [Heeds] at h
  rw [h]
  cases behindStop events with
  | nil => exact (typedFirst_of_passive passive).symm
  | cons first rest =>
      obtain ⟨time, e⟩ := first
      cases e <;> rfl

end Heeds
end Event

namespace Bench

open Event (Heeds behindStop)

variable {before after : Bench} {writes : List Bytes}

theorem Orderly.spec (h : Orderly before after writes) :
    ∃ events, Follows before after events ∧ events.flatMap (·.2.written) = writes ∧
      ∀ e ∈ behindStop events, e.2.passive = true := by
  obtain ⟨ahead, behind, follows, unstopped, passive, wrote⟩ := h
  refine ⟨ahead ++ behind, follows, ?_, ?_⟩
  · rw [List.flatMap_append, wrote, Event.written_of_all_passive passive, List.append_nil]
  · rw [Event.behindStop_append fun e member => (unstopped e member).1]
    exact fun e member => passive e (Event.behindStop_subset member)

theorem Orderly.heeds (h : Orderly before after writes) :
    ∃ events, Follows before after events ∧ Heeds events := by
  obtain ⟨events, follows, -, passive⟩ := h.spec
  exact ⟨events, follows, .of_passive passive⟩

theorem answer_spec {b mid : Bench} (turn : OperatorTurn) (waited : Rests b mid)
    (operator : Operator) :
    let asked : Bench × Operator × Heard :=
      if !mid.alive then (mid, operator, .line none)
      else match turn.fails with
        | some cause => (mid, operator, .failed cause)
        | none =>
            ((if turn.halts then mid.stop else mid).happen (.typed turn.line), operator,
              .line (some turn.line))
    (Rests b asked.1 ∧ ∀ line, asked.2.2 ≠ .line (some line)) ∨
      ∃ mid line, Rests b mid ∧ mid.alive = true ∧ asked.2.2 = .line (some line) ∧
        (asked.1 = mid.happen (.typed line) ∨ asked.1 = mid.stop.happen (.typed line)) := by
  dsimp only
  split
  · exact .inl ⟨waited, by simp⟩
  · rename_i lives
    cases turn.fails with
    | some cause => exact .inl ⟨waited, by simp⟩
    | none =>
        refine .inr ⟨mid, turn.line, waited, by simpa using lives, rfl, ?_⟩
        cases turn.halts
        · exact .inl rfl
        · exact .inr rfl

theorem ask_spec (b : Bench) (operator : Operator) :
    (Rests b (b.ask operator).1 ∧ ∀ line, (b.ask operator).2.2 ≠ .line (some line)) ∨
      ∃ mid line, Rests b mid ∧ mid.alive = true ∧ (b.ask operator).2.2 = .line (some line) ∧
        ((b.ask operator).1 = mid.happen (.typed line) ∨
          (b.ask operator).1 = mid.stop.happen (.typed line)) := by
  unfold ask
  cases operator.turns with
  | nil =>
      refine .inl ?_
      dsimp only
      split
      · refine ⟨b.hold_line.rests, fun line => ?_⟩
        dsimp only
        split <;> simp
      · exact ⟨.refl b, by simp⟩
  | cons turn turns =>
      dsimp only
      split
      · exact answer_spec turn (b.pause_line _).rests _
      · exact answer_spec turn (.refl b) _

end Bench

theorem Dialogue.hear_writes (d : Dialogue) (line : Text) :
    (d.hear (some line)).2.2.writes = (OperatorLine.parse line).writes := by
  rw [hear]
  cases OperatorLine.parse line with
  | resume =>
      dsimp only
      split <;> rfl
  | _ => rfl

namespace Engine

open Event (Heeds behindStop typedFirst)

variable {e : Engine}

theorem act_orderly (e : Engine) (deed : Dialogue.Deed) :
    Bench.Orderly e.bench (e.act deed).1.bench deed.writes := by
  cases deed with
  | nothing => exact .of_rests (.refl _)
  | load path =>
      rw [act]
      split
      · exact .of_rests (Bench.notices_rests _ _)
      · exact .of_rests ((Bench.notice_rests _ _).trans (Bench.print_rests _ _))
  | print text => exact .of_rests (Bench.print_rests _ _)
  | send command =>
      rw [act_send_bench]
      exact e.bench.send_orderly .operator command e.timeout

theorem checkLink_orderly (e : Engine) :
    Bench.Orderly e.bench (e.serve .checkLink).1.bench [wire e.linkCheck.command] := by
  obtain ⟨notices, bench⟩ := e.checkLink_bench
  rw [bench]
  exact (e.bench.send_orderly .script e.linkCheck.command e.timeout).rests
    (Bench.notices_rests _ _)

theorem linked_of_goesOn (goesOn : e.step.2 = none) : e.step.1.dialogue.linked = true := by
  rcases e.turn with unlinked | ended | scripted | interactive
  · rw [step_of_unlinked unlinked, serve] at goesOn ⊢
    split at goesOn
    · rfl
    · cases goesOn
  · obtain ⟨notices, stepped⟩ := ended.step
    rw [stepped] at goesOn
    cases goesOn
  · obtain ⟨mode, change, -, stepped, -⟩ := scripted.step
    rw [stepped]
    exact scripted.linked
  · rw [interactive.step]
    obtain ⟨mode, same | ⟨s, pushed⟩⟩ := e.ask_dialogue
    · rw [same]
      exact interactive.linked
    · rw [pushed]
      exact interactive.linked

theorem ask_heeds (e : Engine) :
    ∃ events, Bench.Follows e.bench (e.serve .ask).1.bench events ∧ Heeds events := by
  have spec := e.bench.ask_spec e.operator
  rw [serve]
  generalize e.bench.ask e.operator = asked at spec ⊢
  obtain ⟨bench, operator, heard⟩ := asked
  rcases spec with ⟨waited, silent⟩ | ⟨mid, line, waited, lives, rfl, asked⟩
  · cases heard with
    | failed cause => exact (Bench.Orderly.of_rests waited).heeds
    | silence => exact (Bench.Orderly.of_rests waited).heeds
    | line text =>
        cases text with
        | some line => exact absurd rfl (silent line)
        | none => exact (Bench.Orderly.of_rests (waited.trans (Bench.notices_rests _ _))).heeds
  · have writes := e.dialogue.hear_writes line
    dsimp only
    generalize e.dialogue.hear (some line) = told at writes ⊢
    obtain ⟨dialogue, notices, deed⟩ := told
    obtain ⟨early, waiting, -⟩ := waited
    have unstopped := waiting.unstopped (lives.trans (waiting.alive lives).symm)
    have acted := Bench.Orderly.of_alive (bench.notices_rests notices)
      (Bench.notices_alive notices bench)
      (act_orderly { e with bench := bench.notices notices, operator, dialogue } deed)
    obtain ⟨events, follows, wrote, passive⟩ := acted.spec
    rcases asked with rfl | rfl
    · have typed := mid.happen_follows (e := .typed line) rfl rfl
      exact ⟨early ++ ((mid.clock, .typed line) :: events),
        waiting.trans (typed.trans follows), .append unstopped (.of_passive passive)⟩
    · have stopped := Bench.stop_follows lives
      have typed := mid.stop.happen_follows (e := .typed line) rfl rfl
      refine ⟨early ++ ((mid.clock, .stopped) :: (mid.stop.clock, .typed line) :: events), ?_,
        .append unstopped ?_⟩
      · exact waiting.trans (stopped.trans (typed.trans follows))
      · exact wrote.trans writes

theorem step_heeds (e : Engine) :
    ∃ events, Bench.Follows e.bench e.step.1.bench events ∧ Heeds events := by
  rcases e.turn with unlinked | ended | scripted | interactive
  · rw [step_of_unlinked unlinked]
    exact e.checkLink_orderly.heeds
  · obtain ⟨notices, stepped⟩ := ended.step
    rw [stepped]
    exact (Bench.Orderly.of_rests (Bench.notices_rests _ _)).heeds
  · obtain ⟨mode, change, -, stepped, -⟩ := scripted.step
    rw [stepped]
    exact (Bench.Orderly.of_alive (Bench.notices_rests _ _) (Bench.notices_alive _ _)
      (Script.Stage.serve_orderly _ _ _ _)).heeds
  · rw [interactive.step]
    exact e.ask_heeds

theorem advance_stopped (linked : e.dialogue.linked = true) (stopped : e.bench.alive = false)
    (n : Nat) : Bench.Rests e.bench (advance step n e).1.bench := by
  cases n with
  | zero => exact .refl _
  | succ n =>
      obtain ⟨notices, stepped⟩ := Over.step ⟨linked, .inl stopped⟩
      rw [advance_of_ends stepped]
      exact Bench.notices_rests _ _

theorem advance_unlinked (unlinked : e.dialogue.linked = false)
    (stopped : e.bench.alive = false) (n : Nat) :
    ∃ events, Bench.Follows e.bench (advance step (n + 1) e).1.bench events ∧
      events.flatMap (·.2.written) = [wire e.linkCheck.command] := by
  have linked := e.linked_of_goesOn
  obtain ⟨events, follows, wrote, -⟩ := e.checkLink_orderly.spec
  rw [← step_of_unlinked unlinked] at follows
  cases stepped : e.step with
  | mk e' ending =>
      rw [stepped] at follows linked
      cases ending with
      | some ending =>
          rw [advance_of_ends stepped]
          exact ⟨events, follows, wrote⟩
      | none =>
          have still : e'.bench.alive = false :=
            Bool.eq_false_iff.mpr fun lives => by simp [follows.alive lives] at stopped
          obtain ⟨later, follows', passive⟩ := advance_stopped (linked rfl) still n
          rw [advance_of_goesOn stepped]
          refine ⟨_, follows.trans follows', ?_⟩
          rw [List.flatMap_append, wrote, Event.written_of_all_passive passive]
          rfl

theorem advance_heeds (alive : e.bench.alive = true) (n : Nat) :
    ∃ events, Bench.Follows e.bench (advance step n e).1.bench events ∧ Heeds events := by
  -- Steps that leave the session alive have no stop among their events, so what they write
  -- is not behind one; after the first other step nothing is written.
  induction n generalizing e with
  | zero => exact ⟨[], .refl _, rfl⟩
  | succ n ih =>
      obtain ⟨events, follows, heeds⟩ := e.step_heeds
      have linked := e.linked_of_goesOn
      cases stepped : e.step with
      | mk e' ending =>
          rw [stepped] at follows linked
          cases ending with
          | some ending =>
              rw [advance_of_ends stepped]
              exact ⟨events, follows, heeds⟩
          | none =>
              rw [advance_of_goesOn stepped]
              cases alive' : e'.bench.alive with
              | true =>
                  obtain ⟨later, follows', heeds'⟩ := ih alive'
                  exact ⟨_, follows.trans follows',
                    heeds'.append (follows.unstopped (alive'.trans alive.symm))⟩
              | false =>
                  obtain ⟨later, follows', passive⟩ := advance_stopped (linked rfl) alive' n
                  obtain ⟨time, stop⟩ := follows.exists_stop alive alive'
                  exact ⟨_, follows.trans follows', heeds.append_passive ⟨_, stop, rfl⟩ passive⟩

/-- What is written once a session has been stopped, from any of its states on and however
far it goes: no command, but for that of a line which the operator's input yields while it
stops the session. A session that is stopped before it has begun still has its link checked. -/
theorem writes_behind_stop (e : Engine) (n : Nat) :
    ∃ events, Bench.Follows e.bench (advance step n e).1.bench events ∧
      (e.bench.alive = true →
        (behindStop events).flatMap (·.2.written) = typedFirst (behindStop events)) ∧
      (e.bench.alive = false →
        events.flatMap (·.2.written) =
          if e.dialogue.linked ∨ n = 0 then [] else [wire e.linkCheck.command]) := by
  cases alive : e.bench.alive with
  | true =>
      obtain ⟨events, follows, heeds⟩ := advance_heeds alive n
      exact ⟨events, follows, fun _ => heeds, by simp⟩
  | false =>
      cases linked : e.dialogue.linked with
      | true =>
          obtain ⟨events, follows, passive⟩ := advance_stopped linked alive n
          exact ⟨events, follows, by simp, fun _ => by
            simpa using Event.written_of_all_passive passive⟩
      | false =>
          cases n with
          | zero => exact ⟨[], .refl _, by simp, by simp⟩
          | succ n =>
              obtain ⟨events, follows, wrote⟩ := advance_unlinked linked alive n
              exact ⟨events, follows, by simp, fun _ => by simpa using wrote⟩

def hastyEngine : Engine where
  bench := .start (fun earlier w => if earlier.isEmpty then
      .ofData (w.data ++ Utf8.encode "\r\nOK\r\n".toList) else .silence)
    Sentry.defaults (.ofMillis 10) .none
  dialogue := .start .empty false
  operator := ⟨[⟨none, none, true, "ATI".toList⟩], 0, false⟩
  files := .bare
  timeout := .ofMillis 100
  linkCheck := ⟨"AT".toList, "OK".toList⟩

theorem line_written_behind_stop :
    ((hastyEngine.run 3).map fun (e, _) =>
      (e.bench.alive, (behindStop e.bench.timeline).flatMap (·.2.written))) =
        some (false, [wire "ATI".toList]) := by
  decide +kernel

end Engine
end ModemDialog
