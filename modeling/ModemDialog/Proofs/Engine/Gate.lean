import ModemDialog.Proofs.Engine.Chaining
import ModemDialog.Proofs.Engine.OperatorTurns
import ModemDialog.Proofs.Script.Reading
import ModemDialog.Proofs.Session.Attribution

/-! The link check as a gate: without the right answer nothing else happens, and behind it
nothing is written that neither a script line nor an operator line asks for. -/
namespace ModemDialog

theorem LinkCheck.judge_of_expected {check : LinkCheck} {text : Text}
    (expected : check.expect <:+: text) : check.judge ⟨text, false⟩ = .ok () := by
  rw [judge]
  cases found : firstAt? check.expect text with
  | none => exact absurd expected (firstAt?_eq_none_iff.mp found)
  | some i => rfl

theorem LinkCheck.judge_of_unexpected {check : LinkCheck} {text : Text}
    (unexpected : ¬ check.expect <:+: text) :
    check.judge ⟨text, false⟩ = .error (.mismatch check.command check.expect text) := by
  rw [judge]
  simp [firstAt?_eq_none_iff.mpr unexpected]

namespace Bench

/-- A response consists of bytes that have come behind the write of its command. -/
theorem response_behind_write {b : Bench} {origin : Origin} {command : Text} {timeout : Duration}
    {taken : Taken}
    (answered : (b.exchange origin command timeout).2 = .ok (.answered taken)) :
    ∃ ahead behind, (b.send origin command timeout).1.history =
        b.history ++ ahead ++ .wrote (wire command) :: behind ∧
      ahead.flatMap Event.written = [] ∧ taken.response <:+: Event.arrivals behind := by
  obtain ⟨ahead, behind, account⟩ := b.send_account origin command timeout
  obtain ⟨frame, -, taken_eq, -⟩ :=
    AnsweredOn.exists_frame ⟨answered, account.arrivedSince⟩
  refine ⟨.noticed (.sending origin command) :: ahead, behind, ?_, ?_, ?_⟩
  · rw [account.history]
    simp
  · refine List.flatMap_eq_nil_iff.mpr fun e member => ?_
    rcases List.mem_cons.mp member with rfl | recorded
    · rfl
    · exact Event.written_of_quiet (by rw [Event.quiet, account.ahead_aside e recorded]; rfl)
  · rw [taken_eq]
    exact (List.take_prefix _ _).isInfix.trans (List.drop_suffix _ _).isInfix

end Bench

namespace Engine

variable {e : Engine}

/-- The link check is answered before its timeout, and by the text that is expected. -/
structure LinkAnswered (e : Engine) (taken : Taken) : Prop where
  answered : (e.bench.exchange .script e.linkCheck.command e.timeout).2 = .ok (.answered taken)
  expected : e.linkCheck.expect <:+: Response.withoutEcho taken.response e.linkCheck.command

theorem checkLink_of_answered {taken : Taken} (h : e.LinkAnswered taken) :
    ∃ notices, e.serve .checkLink =
      ({ e with
        dialogue := e.dialogue.link.1
        bench := (e.bench.send .script e.linkCheck.command e.timeout).1.notices notices }, none) := by
  have result := e.bench.send_result .script e.linkCheck.command e.timeout
  rw [h.answered] at result
  have judged := LinkCheck.judge_of_expected h.expected
  rw [serve, Bench.checkLink]
  cases sent : e.bench.send .script e.linkCheck.command e.timeout with
  | mk bench outcome =>
      rw [sent] at result
      obtain rfl : outcome = .ok ⟨_, false⟩ := result
      simp only [judged]
      exact ⟨.linkAnswered e.linkCheck.command :: e.dialogue.link.2, rfl⟩

theorem checkLink_of_unanswered (h : ∀ taken, ¬ e.LinkAnswered taken) :
    ∃ fault, e.serve .checkLink =
      ({ e with bench := (e.bench.send .script e.linkCheck.command e.timeout).1 },
        some (.error (.link fault))) := by
  have result := e.bench.send_result .script e.linkCheck.command e.timeout
  rw [serve, Bench.checkLink]
  cases sent : e.bench.send .script e.linkCheck.command e.timeout with
  | mk bench outcome =>
      rw [sent] at result
      cases ended : (e.bench.exchange .script e.linkCheck.command e.timeout).2 with
      | error fault =>
          rw [ended] at result
          obtain rfl : outcome = .error fault := result
          exact ⟨_, rfl⟩
      | ok ending =>
          rw [ended] at result
          obtain rfl : outcome = .ok (ending.response e.linkCheck.command) := result
          cases ending with
          | answered taken =>
              have wrong : ¬ e.linkCheck.expect <:+:
                  Response.withoutEcho taken.response e.linkCheck.command :=
                fun expected => h taken ⟨ended, expected⟩
              have judged := LinkCheck.judge_of_unexpected wrong
              simp only [Exchange.Ending.response, judged]
              exact ⟨_, rfl⟩
          | stopped => exact ⟨_, rfl⟩
          | expired => exact ⟨_, rfl⟩

def Reads (e : Engine) (n : Nat) (r : Script.Reading) (below : List Script) : Prop :=
  ∃ k < n, ∃ t, advance step k e = (t, none) ∧ t.Scripted ∧ t.dialogue.machine = r.ahead below

/-- The bytes are a command of a script line that the session has come to. -/
def OfScript (e : Engine) (n : Nat) (data : Bytes) : Prop :=
  ∃ r below, e.Reads n r below ∧ ∃ command ∈ r.commands, data = wire command

theorem Reads.succ {n : Nat} {r : Script.Reading} {below : List Script} (h : e.Reads n r below) :
    e.Reads (n + 1) r below := by
  obtain ⟨k, lt, read⟩ := h
  exact ⟨k, Nat.lt_succ_of_lt lt, read⟩

theorem OfScript.succ {n : Nat} {data : Bytes} (h : e.OfScript n data) :
    e.OfScript (n + 1) data := by
  obtain ⟨r, below, read, command⟩ := h
  exact ⟨r, below, read.succ, command⟩

/-- The scripts are idle while it is not their turn, and else at a line that they have come
to. -/
structure AtLine (e : Engine) (n : Nat) (t : Engine) : Prop where
  linked : t.dialogue.linked = true
  busy : Script.Busy (e.Reads n) t.dialogue.machine
  idle : t.dialogue.mode = .scripted ∨ t.dialogue.machine.loop = none

theorem reads_here {n : Nat} {t : Engine} (reached : advance step n e = (t, none))
    (scripted : t.Scripted) {r : Script.Reading} {below : List Script}
    (read : e.Reads n r below ∨ t.dialogue.machine = r.ahead below) :
    e.Reads (n + 1) r below :=
  read.elim Reads.succ fun here => ⟨n, Nat.lt_succ_self n, t, reached, scripted, here⟩

theorem AtLine.step {n : Nat} {t : Engine} (h : e.AtLine n t)
    (reached : advance Engine.step n e = (t, none)) (goesOn : t.step.2 = none) :
    e.AtLine (n + 1) t.step.1 := by
  have linked := linked_of_goesOn goesOn
  rcases turn_of_goesOn h.linked goesOn with scripted | interactive
  · obtain ⟨mode, change, kept, stepped, -⟩ := scripted.step
    have busy := h.busy.serve ⟨t.files, t.timeout⟩
      (t.bench.notices (t.dialogue.machine.step.2.1 ++ change))
    rw [stepped] at linked ⊢
    refine ⟨linked, busy.mono fun r below => reads_here reached scripted, ?_⟩
    rcases kept with ⟨rfl, -⟩ | ⟨outcome, finishes⟩
    · exact .inl rfl
    · rw [finishes]
      refine .inr ?_
      rcases h.busy.finishes finishes with ⟨-, empty⟩ | ⟨-, r, below, -, -, behind⟩
      · rw [empty]
        rfl
      · dsimp only [Script.Stage.serve]
        rw [behind]
        rfl
  · -- The operator may put a script on top, which would cut off a loop under way.
    have idle : t.dialogue.machine.loop = none :=
      h.idle.resolve_left fun mode => by simp [interactive.mode] at mode
    have stays : t.step.1.dialogue.machine.loop = none := by
      rw [interactive.step]
      obtain ⟨mode, same | ⟨s, pushed⟩⟩ := t.ask_dialogue
      · rw [same]
        exact idle
      · rw [pushed]
        exact idle
    exact ⟨linked, .inl stays, .inr stays⟩

theorem AtLine.writes {n : Nat} {t : Engine} (h : e.AtLine n t)
    (reached : advance Engine.step n e = (t, none)) :
    ∃ deals, Bench.Deals t.bench t.step.1.bench deals ∧
      ∀ data, .write .script data ∈ deals → e.OfScript (n + 1) data := by
  rcases t.turn with unlinked | ended | scripted | interactive
  · rw [h.linked] at unlinked
    cases unlinked
  · exact ⟨[], ended.deals, by simp⟩
  · refine ⟨_, scripted.deals, fun data member => ?_⟩
    cases request : t.dialogue.machine.step.2.2 with
    | send command =>
        rw [request] at member
        obtain ⟨r, below, read, gives, -⟩ := h.busy.sends request
        have same : data = wire command := by simpa [Script.Request.writes] using member
        exact ⟨r, below, reads_here reached scripted read, command, gives, same⟩
    | _ => simp [request, Script.Request.writes] at member
  · refine ⟨_, interactive.deals, fun data member => ?_⟩
    cases heard : (t.bench.ask t.operator).2.2 with
    | line text =>
        cases text with
        | some line => simp [heard, Heard.deals, Deal.ofLine_eq] at member
        | none => simp [heard, Heard.deals] at member
    | _ => simp [heard, Heard.deals] at member

theorem advance_script_writes (unlinked : e.dialogue.linked = false)
    (idle : e.dialogue.machine.loop = none) (n : Nat) :
    (∃ later, Bench.Deals e.bench (advance Engine.step (n + 1) e).1.bench
        (.write .script (wire e.linkCheck.command) :: later) ∧
      ∀ data, .write .script data ∈ later → e.OfScript (n + 1) data) ∧
    ((advance Engine.step (n + 1) e).2 = none →
      e.AtLine (n + 1) (advance Engine.step (n + 1) e).1) := by
  induction n with
  | zero =>
      have first : advance Engine.step (0 + 1) e = e.step := by
        rw [advance_succ, advance]
      rw [first]
      refine ⟨⟨[], ?_, by simp⟩, fun goesOn => ?_⟩
      · rw [step_of_unlinked unlinked]
        exact e.checkLink_deals
      · have linked := linked_of_goesOn goesOn
        have stays : e.step.1.dialogue.machine.loop = none := by
          rw [step_of_unlinked unlinked, checkLink_machine]
          exact idle
        exact ⟨linked, .inl stays, .inr stays⟩
  | succ n ih =>
      obtain ⟨⟨later, deals, own⟩, line⟩ := ih
      rw [advance_succ]
      cases reached : advance Engine.step (n + 1) e with
      | mk t ending =>
          rw [reached] at deals line
          cases ending with
          | some ending =>
              exact ⟨⟨later, deals, fun data member => (own data member).succ⟩, by simp⟩
          | none =>
              have here := line rfl
              obtain ⟨more, dealt, gives⟩ := here.writes reached
              refine ⟨⟨later ++ more, deals.trans dealt, fun data member => ?_⟩, fun goesOn => ?_⟩
              · rcases List.mem_append.mp member with early | late
                · exact (own data early).succ
                · exact gives data late
              · exact here.step reached goesOn

theorem advance_history (e : Engine) (n : Nat) :
    ∃ events, (advance Engine.step n e).1.bench.history = e.bench.history ++ events := by
  obtain ⟨given, missed, takes⟩ := e.advance_takes n
  obtain ⟨deals, ⟨events, history, -⟩, -⟩ := takes.deals
  exact ⟨events, history⟩

theorem answer_behind_first_write (unlinked : e.dialogue.linked = false) {taken : Taken}
    (answered : e.LinkAnswered taken) (n : Nat) :
    ∃ ahead behind, (advance Engine.step (n + 1) e).1.bench.history =
        e.bench.history ++ ahead ++ .wrote (wire e.linkCheck.command) :: behind ∧
      ahead.flatMap Event.written = [] ∧ taken.response <:+: Event.arrivals behind := by
  obtain ⟨notices, checked⟩ := checkLink_of_answered answered
  obtain ⟨ahead, behind, sent, unwritten, inside⟩ := Bench.response_behind_write answered.answered
  have goesOn := (step_of_unlinked unlinked).trans checked
  rw [advance_of_goesOn goesOn]
  obtain ⟨events, later⟩ := advance_history
    { e with
      dialogue := e.dialogue.link.1
      bench := (e.bench.send .script e.linkCheck.command e.timeout).1.notices notices } n
  refine ⟨ahead, behind ++ (notices.map .noticed ++ events), ?_, unwritten, ?_⟩
  · rw [later, Bench.notices_history, sent]
    simp
  · rw [Event.arrivals_append]
    exact inside.trans (List.prefix_append _ _).isInfix

/-- What a line has asked for: for bytes that are written, a script line that the session has
come to, or a line that the operator has handed over. -/
def Asked (e : Engine) (n : Nat) (deals : List Deal) : Deal → Prop
  | .line _ => True
  | .write .script data => e.OfScript n data
  | .write .operator data => ∃ line, .line line ∈ deals ∧ data ∈ (OperatorLine.parse line).writes

theorem exists_line_of_write {deals : List Deal} {given : List OperatorTurn}
    (own : deals.filter Deal.ofOperator = given.flatMap fun turn => Deal.ofLine turn.line)
    {data : Bytes} (member : .write .operator data ∈ deals) :
    ∃ line, .line line ∈ deals ∧ data ∈ (OperatorLine.parse line).writes := by
  have kept : Deal.write .operator data ∈ deals.filter Deal.ofOperator :=
    List.mem_filter.mpr ⟨member, rfl⟩
  rw [own] at kept
  obtain ⟨turn, taken, dealt⟩ := List.mem_flatMap.mp kept
  have line : Deal.line turn.line ∈ deals.filter Deal.ofOperator := by
    rw [own]
    exact List.mem_flatMap.mpr ⟨turn, taken, List.mem_cons_self⟩
  refine ⟨turn.line, (List.mem_filter.mp line).1, ?_⟩
  simpa [Deal.ofLine_eq] using dealt

/-- The link check as a gate, for each session and whatever its device does. If it is not
answered by what is expected, in time and by bytes that have come behind its write, the session
ends with an error: one write has been made, nothing read, and nothing taken from the operator.
If it is, its write is the first one, and a line has asked for each that comes behind it. -/
theorem link_check_gates_session (bench : Bench) (stack : List Script) (manual : Bool)
    (operator : Operator) (files : FileTree) (timeout : Duration) (linkCheck : LinkCheck)
    (n : Nat) :
    let e : Engine := ⟨bench, .start ⟨stack, none⟩ manual, operator, files, timeout, linkCheck⟩
    let run := advance Engine.step (n + 1) e
    ((∀ taken, ¬ e.LinkAnswered taken) →
      (∃ fault, run.2 = some (.error (.link fault))) ∧
        Bench.Sends bench run.1.bench .script linkCheck.command ∧
        run.1 = { e with bench := run.1.bench }) ∧
    ∀ taken, e.LinkAnswered taken →
      (∃ ahead behind, run.1.bench.history =
          bench.history ++ ahead ++ .wrote (wire linkCheck.command) :: behind ∧
        ahead.flatMap Event.written = [] ∧ taken.response <:+: Event.arrivals behind) ∧
      ∃ later, Bench.Deals bench run.1.bench
          (.write .script (wire linkCheck.command) :: later) ∧
        ∀ d ∈ later, e.Asked (n + 1) later d := by
  intro e run
  refine ⟨fun unanswered => ?_, fun taken answered => ⟨?_, ?_⟩⟩
  · obtain ⟨fault, checked⟩ := checkLink_of_unanswered unanswered
    have ended : run = _ := advance_of_ends ((step_of_unlinked rfl).trans checked) n
    rw [ended]
    exact ⟨⟨fault, rfl⟩, bench.send_sends .script linkCheck.command timeout, rfl⟩
  · exact answer_behind_first_write rfl answered n
  · obtain ⟨⟨later, deals, scripts⟩, -⟩ := advance_script_writes (e := e) rfl rfl n
    obtain ⟨given, missed, takes⟩ := e.advance_takes (n + 1)
    obtain ⟨same, dealt, own⟩ := takes.deals
    obtain rfl := deals.unique dealt
    have behind : later.filter Deal.ofOperator =
        given.flatMap fun turn => Deal.ofLine turn.line := own
    refine ⟨later, deals, fun d member => ?_⟩
    cases d with
    | line text => exact trivial
    | write origin data =>
        cases origin with
        | script => exact scripts data member
        | operator => exact exists_line_of_write behind member

def gatedEngine : Engine where
  bench := .start Bench.promptDevice Sentry.defaults (.ofMillis 10) .none
  dialogue := .start ⟨[.ofText "a.scom".toList "AT+A".toList], none⟩ false
  operator := ⟨[], 0, false⟩
  files := .bare
  timeout := .ofMillis 50
  linkCheck := ⟨"AT".toList, "OK".toList⟩

/-- The gate opens, and the script comes to its command behind it. -/
theorem link_check_gates_session_of_gatedEngine :
    let run := advance Engine.step 3 gatedEngine
    gatedEngine.LinkAnswered ⟨[], Utf8.encode "AT\r\r\nOK\r\n".toList⟩ ∧
      run.1.bench.writes.map Write.data = [wire "AT+A".toList, wire "AT".toList] ∧
      Bench.Deals gatedEngine.bench run.1.bench
        [.write .script (wire "AT".toList), .write .script (wire "AT+A".toList)] ∧
      gatedEngine.OfScript 3 (wire "AT+A".toList) := by
  intro run
  have answered : gatedEngine.LinkAnswered ⟨[], Utf8.encode "AT\r\r\nOK\r\n".toList⟩ :=
    ⟨by decide +kernel, by decide +kernel⟩
  obtain ⟨-, later, deals, asked⟩ := (link_check_gates_session gatedEngine.bench
    gatedEngine.dialogue.machine.stack false gatedEngine.operator .bare gatedEngine.timeout
    gatedEngine.linkCheck 2).2 _ answered
  have dealt : Event.deals .script run.1.bench.history =
      [.write .script (wire "AT".toList), .write .script (wire "AT+A".toList)] := by
    decide +kernel
  obtain rfl : later = [.write .script (wire "AT+A".toList)] := by
    obtain ⟨events, history, own⟩ := deals
    have all : run.1.bench.history = events := history
    rw [all, own] at dealt
    exact (List.cons.inj dealt).2
  exact ⟨answered, by decide +kernel, deals, asked _ List.mem_cons_self⟩

end Engine
end ModemDialog
