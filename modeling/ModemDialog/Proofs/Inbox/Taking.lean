import ModemDialog.Inbox
import ModemDialog.Proofs.Framing.Closing

/-! What a take removes from the receive buffer. It cuts the buffer into three pieces, of which
the middle one is a complete frame by itself, as framing looks at nothing behind the end that it
reports. Over any run of appends and takes no byte is lost, doubled or moved. -/
namespace ModemDialog

namespace Sentry

theorem stop?_of_append {s : Sentry} {data more : Bytes} {start stop : Nat}
    (ends : s.stop? (data ++ more) start = some stop) (inside : stop ≤ data.length) :
    s.stop? data start = some stop := by
  have behind := le_stop?_of_eq_some ends
  unfold stop? at ends ⊢
  cases tail : s.wildcard with
  | none => simpa only [tail] using ends
  | some d =>
      simp only [tail, Option.map_eq_some_iff] at ends ⊢
      obtain ⟨offset, found, rfl⟩ := ends
      rw [List.drop_append_of_le_length (by omega)] at found
      refine ⟨offset, firstAt?_of_append found ?_, rfl⟩
      rw [List.length_drop]
      omega

end Sentry

namespace Framing

variable {sentries : List Sentry} {data more : Bytes} {start index : Nat} {s : Sentry}
  {frame : Frame}

theorem Wins.of_append_inside (wins : Wins sentries (data ++ more) start index s)
    (inside : start + s.bytes.length ≤ data.length) : Wins sentries data start index s where
  listed := wins.listed
  stands := by
    rcases Sentry.position?_of_append wins.stands with known | reaches
    · exact known
    · omega
  ahead := by
    intro j t q listed found
    exact wins.ahead j t q listed (Sentry.position?_append found)

/-- Framing looks at nothing behind the end it reports. -/
theorem frame?_of_append (found : frame? sentries (data ++ more) = some frame)
    (inside : frame.stop ≤ data.length) : frame? sentries data = some frame := by
  obtain ⟨start, s, wins, ends⟩ := frame?_eq_some_iff.mp found
  have behind := Sentry.le_stop?_of_eq_some ends
  rw [frame?_eq_some_iff]
  exact ⟨start, s, wins.of_append_inside (by omega), Sentry.stop?_of_append ends inside⟩

theorem frame?_take (found : frame? sentries data = some frame) :
    frame? sentries (data.take frame.stop) = some frame := by
  have inside := frame?_stop_le found
  rw [← List.take_append_drop frame.stop data] at found
  apply frame?_of_append found
  rw [List.length_take]
  omega

end Framing

namespace Inbox

open Framing (frame? Leads)

variable {box rest : Inbox} {data anchor : Bytes} {sentries : List Sentry} {mark : Nat}
  {taken : Taken}

theorem le_anchorAt (data : Bytes) (mark : Nat) (anchor : Bytes) :
    min mark data.length ≤ anchorAt data mark anchor := by
  unfold anchorAt
  dsimp only
  split <;> omega

theorem anchorAt_le (data : Bytes) (mark : Nat) (anchor : Bytes) :
    anchorAt data mark anchor ≤ data.length := by
  unfold anchorAt
  dsimp only
  split
  · next offset found =>
    have inside := firstAt?_add_length_le found
    rw [List.length_drop] at inside
    omega
  · omega

theorem take?_eq_none_iff :
    box.take? sentries mark anchor = none ↔
      frame? sentries (box.data.drop (anchorAt box.data mark anchor)) = none := by
  simp [take?]

/-- All places at which a take cuts lie within the bytes that it cuts: where framing starts,
where the literal ends behind which a delimiter is looked for, and where the frame ends. -/
structure InRange (sentries : List Sentry) (mark : Nat) (anchor data : Bytes) : Prop where
  anchored : anchorAt data mark anchor ≤ data.length
  literal : ∀ start index s, Leads sentries (data.drop (anchorAt data mark anchor)) start index s →
    start + s.bytes.length ≤ (data.drop (anchorAt data mark anchor)).length
  stop : ∀ frame, frame? sentries (data.drop (anchorAt data mark anchor)) = some frame →
    anchorAt data mark anchor + frame.stop ≤ data.length

theorem inRange (sentries : List Sentry) (mark : Nat) (anchor data : Bytes) :
    InRange sentries mark anchor data where
  anchored := anchorAt_le data mark anchor
  literal start index s leads :=
    Sentry.position?_add_length_le (Framing.leads_iff_wins.mp leads).stands
  stop frame found := by
    have within := anchorAt_le data mark anchor
    have inside := Framing.frame?_stop_le found
    rw [List.length_drop] at inside
    omega

/-- How a take cuts `data`. The response is the frame of what was behind the stray bytes, and
has the same frame without the bytes that are left. -/
structure Cut (sentries : List Sentry) (mark : Nat) (data : Bytes) (taken : Taken)
    (left : Bytes) : Prop where
  pieces : data = taken.stray ++ taken.response ++ left
  behindMark : min mark data.length ≤ taken.stray.length
  nonempty : taken.response ≠ []
  framed : ∃ index,
    frame? sentries (taken.response ++ left) = some ⟨taken.response.length, index⟩ ∧
    frame? sentries taken.response = some ⟨taken.response.length, index⟩

theorem take?_cut (found : box.take? sentries mark anchor = some (taken, rest)) :
    Cut sentries mark box.data taken rest.data ∧ rest.received = box.received := by
  simp only [take?, Option.map_eq_some_iff, Prod.mk.injEq] at found
  obtain ⟨frame, framed, rfl, rfl⟩ := found
  have within := anchorAt_le box.data mark anchor
  have behind := le_anchorAt box.data mark anchor
  generalize anchorAt box.data mark anchor = start at *
  have inside := Framing.frame?_stop_le framed
  have positive := Framing.frame?_stop_pos framed
  have size : ((box.data.drop start).take frame.stop).length = frame.stop := by
    rw [List.length_take]
    omega
  have whole : (box.data.drop start).take frame.stop ++ box.data.drop (start + frame.stop) =
      box.data.drop start := by
    rw [← List.drop_drop, List.take_append_drop]
  refine ⟨⟨?_, ?_, ?_, frame.sentry, ?_, ?_⟩, rfl⟩
  · rw [List.append_assoc, whole, List.take_append_drop]
  · rw [List.length_take]
    omega
  · rw [← List.length_pos_iff, size]
    exact positive
  · rw [whole, size]
    exact framed
  · rw [size]
    exact Framing.frame?_take framed

inductive Act where
  | append (chunk : Bytes)
  | take (sentries : List Sentry) (mark : Nat) (anchor : Bytes)

def perform (box : Inbox) : Act → Inbox
  | .append chunk => box.append chunk
  | .take sentries mark anchor =>
      match box.take? sentries mark anchor with
      | some (_, rest) => rest
      | none => box

def after (box : Inbox) (acts : List Act) : Inbox := acts.foldl perform box

def given (box : Inbox) : Act → Bytes
  | .append _ => []
  | .take sentries mark anchor =>
      match box.take? sentries mark anchor with
      | some (taken, _) => taken.stray ++ taken.response
      | none => []

def givenBy (box : Inbox) : List Act → Bytes
  | [] => []
  | a :: more => box.given a ++ (box.perform a).givenBy more

def Act.appended : Act → Bytes
  | .append chunk => chunk
  | .take _ _ _ => []

theorem perform_balances (box : Inbox) (a : Act) :
    box.given a ++ (box.perform a).data = box.data ++ a.appended ∧
      (box.perform a).received = box.received + a.appended.length := by
  cases a with
  | append chunk => exact ⟨rfl, rfl⟩
  | take sentries mark anchor =>
      cases found : box.take? sentries mark anchor with
      | none => simp [given, perform, found, Act.appended]
      | some pair =>
          obtain ⟨taken, rest⟩ := pair
          obtain ⟨cut, received⟩ := take?_cut found
          simp [given, perform, found, Act.appended, received, cut.pieces]

theorem after_balances (box : Inbox) (acts : List Act) :
    box.givenBy acts ++ (box.after acts).data = box.data ++ acts.flatMap Act.appended ∧
      (box.after acts).received = box.received + (acts.flatMap Act.appended).length := by
  induction acts generalizing box with
  | nil => simp [givenBy, after]
  | cons a more ih =>
      obtain ⟨bytes, received⟩ := ih (box.perform a)
      obtain ⟨now, counted⟩ := box.perform_balances a
      have further : box.after (a :: more) = (box.perform a).after more := rfl
      constructor
      · rw [givenBy, further, List.append_assoc, bytes, ← List.append_assoc, now,
          List.flatMap_cons, List.append_assoc]
      · rw [further, received, counted, List.flatMap_cons, List.length_append]
        omega

/-- What holds of the buffer that acts have led to, and of every take that comes next. -/
structure Accounts (acts : List Act) (box : Inbox) : Prop where
  bytes : empty.givenBy acts ++ box.data = acts.flatMap Act.appended
  received : box.received = (acts.flatMap Act.appended).length
  inRange : ∀ sentries mark anchor, InRange sentries mark anchor box.data
  incomplete : ∀ sentries mark anchor, box.take? sentries mark anchor = none ↔
    frame? sentries (box.data.drop (anchorAt box.data mark anchor)) = none
  kept : ∀ sentries mark anchor, box.take? sentries mark anchor = none →
    box.perform (.take sentries mark anchor) = box
  cut : ∀ sentries mark anchor taken rest, box.take? sentries mark anchor = some (taken, rest) →
    Cut sentries mark box.data taken rest.data ∧ rest.received = box.received

theorem takes_account_for_all (acts : List Act) : Accounts acts (empty.after acts) where
  bytes := (empty.after_balances acts).1
  received := by
    rw [(empty.after_balances acts).2]
    exact Nat.zero_add _
  inRange sentries mark anchor := Inbox.inRange sentries mark anchor _
  incomplete _ _ _ := take?_eq_none_iff
  kept sentries mark anchor untaken := by simp [perform, untaken]
  cut _ _ _ _ _ found := take?_cut found

end Inbox
end ModemDialog
