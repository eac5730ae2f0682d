import ModemDialog.Proofs.Session.Calm

/-! Who has written what. Each write stands behind the announcement of a command, and is
made for the one who gave that command. -/
namespace ModemDialog
namespace Event

def owned (origin : Origin) (own : Bool) : Event → Bool
  | .noticed (.sending who _) => who = origin
  | _ => own

def written : Event → List Bytes
  | .wrote data => [data]
  | _ => []

/-- The bytes written for `origin`; `own` tells if the command announced last is its. -/
def writes (origin : Origin) : (own : Bool) → List Event → List Bytes
  | _, [] => []
  | own, e :: rest => (if own then e.written else []) ++ writes origin (e.owned origin own) rest

def quiet (e : Event) : Bool := e.aside || e.ofLine

theorem written_of_quiet {e : Event} (h : e.quiet = true) : e.written = [] := by
  cases e with
  | wrote data => cases h
  | _ => rfl

theorem owned_of_quiet {e : Event} (h : e.quiet = true) (origin : Origin) (own : Bool) :
    e.owned origin own = own := by
  unfold owned
  split
  · cases h
  · rfl

theorem writes_append (origin : Origin) (own : Bool) (events later : List Event) :
    writes origin own (events ++ later) =
      writes origin own events ++ writes origin (events.foldl (owned origin) own) later := by
  induction events generalizing own with
  | nil => rfl
  | cons e rest ih =>
      rw [List.cons_append, writes, writes, ih, List.foldl_cons, List.append_assoc]

theorem writes_of_quiet {events : List Event} (silent : ∀ e ∈ events, e.quiet = true)
    (origin : Origin) (own : Bool) : writes origin own events = [] := by
  induction events with
  | nil => rfl
  | cons e rest ih =>
      have ⟨first, behind⟩ := List.forall_mem_cons.mp silent
      rw [writes, owned_of_quiet first, written_of_quiet first, ih behind]
      cases own <;> rfl

theorem owned_of_all_quiet {events : List Event} (silent : ∀ e ∈ events, e.quiet = true)
    (origin : Origin) (own : Bool) : events.foldl (owned origin) own = own := by
  induction events with
  | nil => rfl
  | cons e rest ih =>
      have ⟨first, behind⟩ := List.forall_mem_cons.mp silent
      rw [List.foldl_cons, owned_of_quiet first, ih behind]

end Event

namespace Bench

def written (b : Bench) (origin : Origin) : List Bytes := Event.writes origin false b.history

theorem Advances.written {before after : Bench} {events : List Event}
    (h : Advances before after events) (silent : ∀ e ∈ events, e.quiet = true)
    (origin : Origin) : after.written origin = before.written origin := by
  rw [Bench.written, h.history, Event.writes_append, Event.writes_of_quiet silent,
    List.append_nil]
  rfl

theorem Passes.written {before after : Bench} (h : Passes before after) (origin : Origin) :
    after.written origin = before.written origin := by
  obtain ⟨events, advances, line⟩ := h
  exact advances.written (fun e member => by rw [Event.quiet, line e member, Bool.or_true]) origin

theorem send_written (b : Bench) (who : Origin) (command : Text) (timeout : Duration)
    (origin : Origin) :
    (b.send who command timeout).1.written origin =
      b.written origin ++ if who = origin then [wire command] else [] := by
  obtain ⟨ahead, behind, account⟩ := b.send_account who command timeout
  have before : ∀ e ∈ ahead, e.quiet = true := by
    intro e member
    rw [Event.quiet, account.ahead_aside e member, Bool.true_or]
  have after : ∀ e ∈ behind, e.quiet = true := by
    intro e member
    rw [Event.quiet, Bool.or_eq_true]
    exact account.behind_only e member
  rw [written, account.history, Event.writes_append, List.cons_append, Event.writes,
    Event.writes_append, Event.writes_of_quiet before, Event.owned_of_all_quiet before,
    Event.writes, Event.writes_of_quiet after]
  simp [Event.written, Event.owned, written]

theorem perform_written (b : Bench) {act : Act} (own : act.ofOperator = true) :
    (b.perform act).written .script = b.written .script := by
  cases act with
  | send origin command timeout =>
      cases origin with
      | script => cases own
      | operator =>
          rw [perform, send_written, if_neg (by decide), List.append_nil]
  | wait d => exact (b.sleep_line d).passes.written .script
  | arrive a => exact (b.arrive_line a).passes.written .script
  | plan delay a => exact (b.plan_line delay a).passes.written .script
  | print data => exact (b.print_advances data).written (by simp [Event.quiet, Event.aside]) .script

theorem session_written (b : Bench) {acts : List Act}
    (own : ∀ act ∈ acts, act.ofOperator = true) :
    (b.session acts).written .script = b.written .script := by
  induction acts generalizing b with
  | nil => rfl
  | cons act acts ih =>
      have ⟨first, others⟩ := List.forall_mem_cons.mp own
      exact (ih (b.perform act) others).trans (b.perform_written first)

end Bench
end ModemDialog
