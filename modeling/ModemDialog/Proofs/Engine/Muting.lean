import ModemDialog.Proofs.Engine.OperatorTurns

/-! A session next to the one whose operator types a blank line instead of each command. The
two go in step: what the device answers to a command, and when, decides neither what the
scripts do nor who comes next. -/
namespace ModemDialog

def mutedLine (line : Text) : Text := if (OperatorLine.parse line).isSend then [] else line

theorem parse_mutedLine (line : Text) :
    OperatorLine.parse (mutedLine line) =
      if (OperatorLine.parse line).isSend then .blank else OperatorLine.parse line := by
  unfold mutedLine
  split <;> rfl

def OperatorTurn.muted (turn : OperatorTurn) : OperatorTurn :=
  { turn with line := mutedLine turn.line }

def Operator.muted (operator : Operator) : Operator :=
  { operator with turns := operator.turns.map OperatorTurn.muted }

def Heard.muted : Heard → Heard
  | .line text => .line (text.map mutedLine)
  | heard => heard

def Engine.muted (e : Engine) : Engine := { e with operator := e.operator.muted }

def Deal.muted? : Deal → Option Deal
  | .line text => some (.line (mutedLine text))
  | .write .operator _ => none
  | .write .script data => some (.write .script data)

theorem Heard.deals_muted (heard : Heard) :
    heard.muted.deals = heard.deals.filterMap Deal.muted? := by
  cases heard with
  | line text =>
      cases text with
      | none => rfl
      | some line =>
          show Deal.ofLine (mutedLine line) = (Deal.ofLine line).filterMap Deal.muted?
          rw [Deal.ofLine, parse_mutedLine, Deal.ofLine]
          cases sends : (OperatorLine.parse line).isSend with
          | true => rfl
          | false => simp [sends, Deal.muted?]
  | _ => rfl

theorem Deal.muted?_script (writes : List Bytes) :
    (writes.map (Deal.write .script)).filterMap Deal.muted? = writes.map (Deal.write .script) := by
  induction writes with
  | nil => rfl
  | cons data rest ih => exact congrArg (_ :: ·) ih

namespace Bench

theorem attend_alive {b : Bench} {operator : Operator} {turn : OperatorTurn}
    {turns : List OperatorTurn} (comes : operator.turns = turn :: turns)
    (lives : (b.ask operator).1.alive = true) : (b.attend turn).alive = true := by
  cases alive : (b.attend turn).alive with
  | true => rfl
  | false =>
      rw [ask_of_turn b comes] at lives
      simp [alive] at lives

theorem ask_muted {b b' : Bench} {operator : Operator}
    (lives : (b.ask operator).1.alive = true)
    (lives' : (b'.ask operator.muted).1.alive = true) :
    (b'.ask operator.muted).2 = ((b.ask operator).2.1.muted, (b.ask operator).2.2.muted) := by
  cases comes : operator.turns with
  | nil =>
      have comes' : operator.muted.turns = [] := by rw [Operator.muted, comes]; rfl
      have stays : operator.muted.staysOpen = operator.staysOpen := rfl
      rw [ask_of_none b comes] at lives ⊢
      rw [ask_of_none b' comes', stays] at lives' ⊢
      cases opened : operator.staysOpen with
      | false => rfl
      | true =>
          simp only [opened, if_true] at lives lives' ⊢
          rw [lives, lives']
          rfl
  | cons turn turns =>
      have comes' : operator.muted.turns = turn.muted :: turns.map OperatorTurn.muted := by
        rw [Operator.muted, comes]
        rfl
      have alive := attend_alive comes lives
      have alive' := attend_alive comes' lives'
      have fails : turn.muted.fails = turn.fails := rfl
      rw [ask_of_turn b comes, ask_of_turn b' comes']
      simp only [alive, alive', Bool.not_true, Bool.false_eq_true, if_false, fails]
      cases turn.fails <;> rfl

end Bench

namespace Engine

variable {t t' : Engine}

/-- All is the same in the second session, but for its bench and the operator's commands. -/
def Shadows (t t' : Engine) : Prop := ∃ b, t' = { t.muted with bench := b }

theorem Shadows.dialogue (h : Shadows t t') : t'.dialogue = t.dialogue := by
  obtain ⟨b, rfl⟩ := h
  rfl

theorem Shadows.operator (h : Shadows t t') : t'.operator = t.operator.muted := by
  obtain ⟨b, rfl⟩ := h
  rfl

/-- No command of a line fails to be written. -/
def Writes (result : Engine × Option Ending) : Prop :=
  ∀ fault, result.2 ≠ some (.error (.send fault))

theorem act_send {command : Text} (writes : Writes (t.act (.send command))) :
    t.act (.send command) =
      ({ t with bench := (t.bench.send .operator command t.timeout).1 }, none) := by
  unfold Writes at writes
  rw [act] at writes ⊢
  cases sent : t.bench.send .operator command t.timeout with
  | mk bench result =>
      cases result with
      | ok response => rfl
      | error fault =>
          rw [sent] at writes
          exact absurd rfl (writes fault)

theorem act_shadows {deed deed' : Dialogue.Deed} (h : Shadows t t')
    (deeds : deed' = deed ∨ deed' = .nothing ∧ ∃ command, deed = .send command)
    (writes : Writes (t.act deed)) (writes' : Writes (t'.act deed')) :
    Shadows (t.act deed).1 (t'.act deed').1 ∧ (t'.act deed').2 = (t.act deed).2 := by
  obtain ⟨b, rfl⟩ := h
  rcases deeds with rfl | ⟨rfl, command, rfl⟩
  · cases deed' with
    | send command =>
        rw [act_send writes, act_send writes']
        exact ⟨⟨_, rfl⟩, rfl⟩
    | load path =>
        have files : ({ t.muted with bench := b } : Engine).files = t.files := rfl
        rw [act, act, files]
        cases Script.load t.files path <;> exact ⟨⟨_, rfl⟩, rfl⟩
    | _ => exact ⟨⟨_, rfl⟩, rfl⟩
  · rw [act_send writes]
    exact ⟨⟨_, rfl⟩, rfl⟩

theorem hear_muted (d : Dialogue) (text : Option Text) :
    (d.hear (text.map mutedLine)).1 = (d.hear text).1 ∧
      ((d.hear (text.map mutedLine)).2.2 = (d.hear text).2.2 ∨
        (d.hear (text.map mutedLine)).2.2 = .nothing ∧
          ∃ command, (d.hear text).2.2 = .send command) := by
  cases text with
  | none => exact ⟨rfl, .inl rfl⟩
  | some line =>
      rw [Option.map_some, Dialogue.hear, parse_mutedLine, Dialogue.hear]
      cases OperatorLine.parse line with
      | send command => exact ⟨rfl, .inr ⟨rfl, command, rfl⟩⟩
      | _ => exact ⟨rfl, .inl rfl⟩

theorem serve_ask_alive (lives : (t.serve .ask).1.bench.alive = true) :
    (t.bench.ask t.operator).1.alive = true := by
  rw [serve] at lives
  generalize t.bench.ask t.operator = asked at lives ⊢
  obtain ⟨bench, operator, heard⟩ := asked
  cases heard with
  | line text =>
      obtain ⟨events, acted⟩ := (act_orderly _ _).follows
      exact (Bench.notices_alive _ bench).symm.trans (acted.alive lives)
  | _ => exact lives

theorem ask_shadows (h : Shadows t t') (lives : (t.serve .ask).1.bench.alive = true)
    (lives' : (t'.serve .ask).1.bench.alive = true) (writes : Writes (t.serve .ask))
    (writes' : Writes (t'.serve .ask)) :
    Shadows (t.serve .ask).1 (t'.serve .ask).1 ∧ (t'.serve .ask).2 = (t.serve .ask).2 := by
  obtain ⟨b, rfl⟩ := h
  have same := Bench.ask_muted (serve_ask_alive lives) (serve_ask_alive lives')
  rw [serve] at writes writes' ⊢
  rw [serve]
  dsimp only [muted] at same writes' ⊢
  generalize t.bench.ask t.operator = asked at same writes ⊢
  generalize b.ask t.operator.muted = asked' at same writes' ⊢
  obtain ⟨bench, operator, heard⟩ := asked
  obtain ⟨bench', operator', heard'⟩ := asked'
  obtain ⟨rfl, rfl⟩ := Prod.mk.inj same
  cases heard with
  | line text =>
      obtain ⟨dialogue, deeds⟩ := hear_muted t.dialogue text
      refine act_shadows ⟨bench'.notices (t.dialogue.hear (text.map mutedLine)).2.1, ?_⟩ deeds
        writes writes'
      rw [dialogue]
      rfl
  | _ => exact ⟨⟨_, rfl⟩, rfl⟩

theorem script_shadows {request : Script.Request} (h : Shadows t t')
    (writes : Writes (t.serve (.script request))) (writes' : Writes (t'.serve (.script request))) :
    Shadows (t.serve (.script request)).1 (t'.serve (.script request)).1 ∧
      (t'.serve (.script request)).2 = (t.serve (.script request)).2 := by
  obtain ⟨b, rfl⟩ := h
  cases request with
  | send command =>
      unfold Writes at writes writes'
      simp only [serve, Script.Stage.serve, muted] at writes writes' ⊢
      cases sent : t.bench.send .script command t.timeout with
      | mk c result =>
          cases sent' : b.send .script command t.timeout with
          | mk c' result' =>
              rw [sent] at writes
              rw [sent'] at writes'
              cases result with
              | error fault => exact absurd rfl (writes fault)
              | ok response =>
                  cases result' with
                  | error fault => exact absurd rfl (writes' fault)
                  | ok response' => exact ⟨⟨_, rfl⟩, rfl⟩
  | load path script line =>
      simp only [serve, Script.Stage.serve, muted]
      cases Script.load t.files path <;> exact ⟨⟨_, rfl⟩, rfl⟩
  | _ => exact ⟨⟨_, rfl⟩, rfl⟩

theorem stepScript_request (d : Dialogue) : ∃ request, d.stepScript.2.2 = .script request := by
  rw [Dialogue.stepScript]
  cases d.machine.step with
  | mk machine rest =>
      obtain ⟨notices, request⟩ := rest
      cases request <;> exact ⟨_, rfl⟩

theorem Scripted.step_eq (h : t.Scripted) :
    t.step = serve { t with
      dialogue := t.dialogue.stepScript.1
      bench := t.bench.notices t.dialogue.stepScript.2.1 } t.dialogue.stepScript.2.2 := by
  rw [Engine.step, h.alive, Dialogue.next_of_scripted h.linked h.mode]

theorem Over.step_shadows (h : Shadows t t') (ended : t.Over) (ended' : t'.Over) :
    Shadows t.step.1 t'.step.1 ∧ t'.step.2 = t.step.2 := by
  obtain ⟨notices, stepped⟩ := ended.step
  obtain ⟨notices', stepped'⟩ := ended'.step
  obtain ⟨b, rfl⟩ := h
  rw [stepped, stepped']
  exact ⟨⟨_, rfl⟩, rfl⟩

theorem Scripted.step_shadows (h : Shadows t t') (scripted : t.Scripted) (scripted' : t'.Scripted)
    (writes : Writes t.step) (writes' : Writes t'.step) :
    Shadows t.step.1 t'.step.1 ∧ t'.step.2 = t.step.2 := by
  obtain ⟨b, rfl⟩ := h
  obtain ⟨request, asks⟩ := stepScript_request t.dialogue
  have asks' : Dialogue.stepScript { t.muted with bench := b }.dialogue = t.dialogue.stepScript :=
    rfl
  rw [scripted.step_eq, asks] at writes ⊢
  rw [scripted'.step_eq, asks', asks] at writes' ⊢
  exact script_shadows ⟨_, rfl⟩ writes writes'

theorem Interactive.step_shadows (h : Shadows t t') (interactive : t.Interactive)
    (interactive' : t'.Interactive) (lives : t.step.1.bench.alive = true)
    (lives' : t'.step.1.bench.alive = true) (writes : Writes t.step) (writes' : Writes t'.step) :
    Shadows t.step.1 t'.step.1 ∧ t'.step.2 = t.step.2 := by
  rw [interactive.step] at lives writes ⊢
  rw [interactive'.step] at lives' writes' ⊢
  exact ask_shadows h lives lives' writes writes'

theorem step_shadows (h : Shadows t t') (linked : t.dialogue.linked = true)
    (lives : t.step.1.bench.alive = true) (lives' : t'.step.1.bench.alive = true)
    (writes : Writes t.step) (writes' : Writes t'.step) :
    (Shadows t.step.1 t'.step.1 ∧ t'.step.2 = t.step.2) ∧
      ∃ deals, Bench.Deals t.bench t.step.1.bench deals ∧
        Bench.Deals t'.bench t'.step.1.bench (deals.filterMap Deal.muted?) := by
  obtain ⟨events, follows, -⟩ := t.step_heeds
  obtain ⟨events', follows', -⟩ := t'.step_heeds
  have alive := follows.alive lives
  have alive' := follows'.alive lives'
  have linked' : t'.dialogue.linked = true := h.dialogue ▸ linked
  rcases t.turn with unlinked | ended | scripted | interactive
  · rw [linked] at unlinked
    cases unlinked
  · have halted : t'.dialogue.mode = .halted :=
      h.dialogue ▸ ended.ended.resolve_left fun dead => by simp [alive] at dead
    have ended' : t'.Over := ⟨linked', .inr halted⟩
    exact ⟨ended.step_shadows h ended', _, ended.deals, ended'.deals⟩
  · have scripted' : t'.Scripted := ⟨linked', alive', h.dialogue ▸ scripted.mode⟩
    refine ⟨scripted.step_shadows h scripted' writes writes', _, scripted.deals, ?_⟩
    have dealt := scripted'.deals
    rw [h.dialogue] at dealt
    rw [Deal.muted?_script]
    exact dealt
  · have interactive' : t'.Interactive := ⟨linked', alive', h.dialogue ▸ interactive.mode⟩
    refine ⟨interactive.step_shadows h interactive' lives lives' writes writes', _,
      interactive.deals, ?_⟩
    rw [interactive.step] at lives
    rw [interactive'.step] at lives'
    have asked' := serve_ask_alive lives'
    have dealt := interactive'.deals
    rw [h.operator] at dealt asked'
    rw [Bench.ask_muted (serve_ask_alive lives) asked', Heard.deals_muted] at dealt
    exact dealt

/-- The link check goes before the operator's turns, so both sessions have it in common. -/
theorem step_muted_of_unlinked {e : Engine} (unlinked : e.dialogue.linked = false) :
    e.muted.step = (e.step.1.muted, e.step.2) := by
  have unlinked' : e.muted.dialogue.linked = false := unlinked
  rw [step_of_unlinked unlinked, step_of_unlinked unlinked']
  simp only [serve, muted]
  cases e.bench.checkLink e.linkCheck e.timeout with
  | mk bench result => cases result <;> rfl

theorem advance_writes {e : Engine} {n : Nat} (writes : Writes (advance step (n + 1) e)) :
    Writes (advance step n e) := by
  rw [advance_succ] at writes
  cases reached : advance step n e with
  | mk t ending =>
      rw [reached] at writes
      cases ending with
      | some ending => exact writes
      | none => exact fun fault failed => by cases failed

/-- However far the two sessions go: they have ended in the same way, or not at all, and all
that has been dealt is the same but for the operator's commands. -/
structure InStep (e : Engine) (result result' : Engine × Option Ending) : Prop where
  shadows : Shadows result.1 result'.1
  ending : result'.2 = result.2
  deals : ∃ deals, Bench.Deals e.bench result.1.bench deals ∧
    Bench.Deals e.bench result'.1.bench (deals.filterMap Deal.muted?)

theorem InStep.step {e t t' : Engine} (h : InStep e (t, none) (t', none))
    (common : t.dialogue.linked = true ∨ t' = t.muted)
    (lives : t.step.1.bench.alive = true) (lives' : t'.step.1.bench.alive = true)
    (writes : Writes t.step) (writes' : Writes t'.step) : InStep e t.step t'.step := by
  obtain ⟨deals, dealt, dealt'⟩ := h.deals
  have combine {later : List Deal} (k : Bench.Deals t.bench t.step.1.bench later)
      (k' : Bench.Deals t'.bench t'.step.1.bench (later.filterMap Deal.muted?)) :
      ∃ deals, Bench.Deals e.bench t.step.1.bench deals ∧
        Bench.Deals e.bench t'.step.1.bench (deals.filterMap Deal.muted?) := by
    refine ⟨_, dealt.trans k, ?_⟩
    rw [List.filterMap_append]
    exact dealt'.trans k'
  cases linked : t.dialogue.linked with
  | true =>
      obtain ⟨⟨shadows, ending⟩, later, k, k'⟩ :=
        step_shadows h.shadows linked lives lives' writes writes'
      exact ⟨shadows, ending, combine k k'⟩
  | false =>
      -- Up to the link check the sessions still share their bench, so its answer is the same.
      obtain rfl : t' = t.muted := common.resolve_left (by simp [linked])
      have same := step_muted_of_unlinked linked
      have dealt : Bench.Deals t.bench t.step.1.bench
          [.write .script (wire t.linkCheck.command)] := by
        rw [step_of_unlinked linked]
        exact t.checkLink_deals
      rw [same] at combine ⊢
      exact ⟨⟨_, rfl⟩, rfl, combine dealt dealt⟩

/-- A session whose script waits for the operator in the middle, who sends a command ahead of
letting it go on, and one behind. -/
def relayEngine : Engine where
  bench := .start (fun _ w => .ofData (w.data ++ Utf8.encode "\r\nOK\r\n".toList))
    Sentry.defaults (.ofMillis 10) .none
  dialogue := .start ⟨[.ofText "a.scom".toList "AT+A\nenman\nAT+B\nenman".toList], none⟩ false
  operator := ⟨["ATX".toList, "enscom".toList, "ATY ".toList, "exit".toList].map
    fun line => ⟨some 3, none, false, line⟩, 0, false⟩
  files := .bare
  timeout := .ofMillis 50
  linkCheck := ⟨"AT".toList, "OK".toList⟩

def endsWell (result : Engine × Option Ending) : Bool :=
  result.1.bench.alive && match result.2 with
    | some (.ok ()) => true
    | _ => false

end Engine
end ModemDialog
