import ModemDialog.Proofs.Session.Idling

/-! What passes between a session and those who give it commands: the operator's lines as they
are handed over, and what is written, each for the one who has given the command. -/
namespace ModemDialog

inductive Deal where
  | line (text : Text)
  | write (origin : Origin) (data : Bytes)
  deriving DecidableEq, Repr

namespace Event

/-- For whom a command is on its way, if it was for `who` until then. -/
def origin (who : Origin) : Event → Origin
  | .noticed (.sending origin _) => origin
  | _ => who

def deal? (who : Origin) : Event → Option Deal
  | .wrote data => some (.write who data)
  | .typed line => some (.line line)
  | _ => none

def deals : (who : Origin) → List Event → List Deal
  | _, [] => []
  | who, e :: rest => (e.deal? who).toList ++ deals (e.origin who) rest

variable {events : List Event}

theorem deals_append (who : Origin) (events later : List Event) :
    deals who (events ++ later) = deals who events ++ deals (events.foldl origin who) later := by
  induction events generalizing who with
  | nil => rfl
  | cons e rest ih => rw [List.cons_append, deals, deals, ih, List.foldl_cons, List.append_assoc]

theorem deal?_of_incidental {e : Event} (incidental : e.incidental = true) (who : Origin) :
    e.deal? who = none := by
  cases e with
  | wrote data => cases incidental
  | typed line => cases incidental
  | _ => rfl

theorem origin_of_incidental {e : Event} (incidental : e.incidental = true) (who : Origin) :
    e.origin who = who := by
  unfold origin
  split
  · cases incidental
  · rfl

theorem deals_of_incidental (incidental : ∀ e ∈ events, e.incidental = true) (who : Origin) :
    deals who events = [] := by
  induction events with
  | nil => rfl
  | cons e rest ih =>
      have ⟨first, behind⟩ := List.forall_mem_cons.mp incidental
      rw [deals, deal?_of_incidental first, origin_of_incidental first, ih behind]
      rfl

theorem origin_of_all_incidental (incidental : ∀ e ∈ events, e.incidental = true)
    (who : Origin) : events.foldl origin who = who := by
  induction events with
  | nil => rfl
  | cons e rest ih =>
      have ⟨first, behind⟩ := List.forall_mem_cons.mp incidental
      rw [List.foldl_cons, origin_of_incidental first, ih behind]

theorem deals_of_notices (who : Origin) (notices : List Notice) :
    deals who (notices.map noticed) = [] := by
  induction notices generalizing who with
  | nil => rfl
  | cons n rest ih => exact ih _

end Event

namespace Bench

/-- From `before` to `after` just these deals are made. Whoever gave the command ahead of them
does not matter: each write stands behind its own announcement. -/
def Deals (before after : Bench) (deals : List Deal) : Prop :=
  ∃ events, after.history = before.history ++ events ∧ ∀ who, Event.deals who events = deals

namespace Deals

variable {before mid after : Bench} {deals later : List Deal}

theorem refl (b : Bench) : Deals b b [] := ⟨[], (List.append_nil _).symm, fun _ => rfl⟩

theorem trans (h : Deals before mid deals) (k : Deals mid after later) :
    Deals before after (deals ++ later) := by
  obtain ⟨events, history, dealt⟩ := h
  obtain ⟨events', history', dealt'⟩ := k
  refine ⟨events ++ events', ?_, fun who => ?_⟩
  · rw [history', history, List.append_assoc]
  · rw [Event.deals_append, dealt, dealt']

theorem idles (h : Deals before mid deals) (k : Deals mid after []) :
    Deals before after deals := by
  rw [← List.append_nil deals]
  exact h.trans k

theorem unique (h : Deals before after deals) (k : Deals before after later) : deals = later := by
  obtain ⟨events, history, dealt⟩ := h
  obtain ⟨events', history', dealt'⟩ := k
  obtain rfl : events = events' := List.append_cancel_left (history.symm.trans history')
  rw [← dealt .script, ← dealt' .script]

end Deals

theorem Idles.deals {before after : Bench} (h : Idles before after) : Deals before after [] := by
  obtain ⟨events, history, incidental⟩ := h.history
  exact ⟨events, history, Event.deals_of_incidental incidental⟩

theorem notices_deals (ns : List Notice) (b : Bench) : Deals b (b.notices ns) [] :=
  ⟨_, b.notices_history ns, fun who => Event.deals_of_notices who ns⟩

theorem print_deals (b : Bench) (data : Bytes) : Deals b (b.print data) [] :=
  (Idles.happen b (e := .printed data) rfl).deals

theorem typed_deals (b : Bench) (line : Text) : Deals b (b.happen (.typed line)) [.line line] :=
  ⟨[.typed line], by simp [happen, history], fun _ => rfl⟩

theorem send_deals (b : Bench) (who : Origin) (command : Text) (timeout : Duration) :
    Deals b (b.send who command timeout).1 [.write who (wire command)] := by
  obtain ⟨ahead, behind, history, before, after⟩ := (b.send_sends who command timeout).history
  refine ⟨_, history, fun other => ?_⟩
  rw [List.cons_append, Event.deals, Event.deals_append, Event.deals_of_incidental before,
    Event.deals, Event.deals_of_incidental after, Event.origin_of_all_incidental before]
  rfl

end Bench
end ModemDialog
