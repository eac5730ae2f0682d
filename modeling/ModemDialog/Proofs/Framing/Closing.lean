import ModemDialog.Proofs.Framing.Growth

/-! Which sentry closes a frame, and where. All is said by places in the data: the first place
of each literal, the earliest of these, and the first delimiter behind it. -/
namespace ModemDialog

/-- `needle` stands at `place`, and nowhere from `limit` up to there. -/
structure StandsFirst {α : Type} (needle hay : List α) (limit place : Nat) : Prop where
  reached : limit ≤ place
  stands : needle <+: hay.drop place
  first : ∀ j, limit ≤ j → j < place → ¬ needle <+: hay.drop j

theorem standsFirst_iff {α : Type} [BEq α] [LawfulBEq α] {needle hay : List α}
    {limit place : Nat} :
    StandsFirst needle hay limit place ↔
      ∃ offset, firstAt? needle (hay.drop limit) = some offset ∧ limit + offset = place := by
  simp only [firstAt?_eq_some_iff, List.drop_drop]
  constructor
  · intro h
    have same : limit + (place - limit) = place := by
      have := h.reached
      omega
    refine ⟨place - limit, ⟨?_, ?_⟩, same⟩
    · rw [same]
      exact h.stands
    · intro j before
      apply h.first <;> omega
  · rintro ⟨offset, ⟨stands, first⟩, rfl⟩
    refine ⟨by omega, stands, ?_⟩
    intro j reached before
    have earlier := first (j - limit) (by omega)
    rwa [show limit + (j - limit) = j by omega] at earlier

theorem standsFirst_zero_iff {α : Type} [BEq α] [LawfulBEq α] {needle hay : List α}
    {place : Nat} : StandsFirst needle hay 0 place ↔ firstAt? needle hay = some place := by
  simp [standsFirst_iff]

namespace Sentry

def ClosesAt (s : Sentry) (data : Bytes) (start stop : Nat) : Prop :=
  match s.wildcard with
  | none => stop = start + s.bytes.length
  | some d => ∃ place, StandsFirst (Utf8.encode d.text) data (start + s.bytes.length) place ∧
      stop = place + (Utf8.encode d.text).length

theorem stop?_eq_some_iff {s : Sentry} {data : Bytes} {start stop : Nat} :
    s.stop? data start = some stop ↔ s.ClosesAt data start stop := by
  unfold stop? ClosesAt
  cases s.wildcard with
  | none => simp [eq_comm]
  | some d =>
      simp only [Option.map_eq_some_iff, standsFirst_iff]
      constructor
      · rintro ⟨offset, found, rfl⟩
        exact ⟨_, ⟨offset, found, rfl⟩, rfl⟩
      · rintro ⟨_, ⟨offset, found, rfl⟩, rfl⟩
        exact ⟨offset, found, rfl⟩

theorem position?_eq_some_iff_standsFirst {s : Sentry} {data : Bytes} {start : Nat} :
    s.position? data = some start ↔ s.literal ≠ [] ∧ StandsFirst s.bytes data 0 start := by
  rw [position?_eq_some_iff, standsFirst_zero_iff]

theorem stop?_eq_none_of_open {s : Sentry} {data : Bytes} {start : Nat} {d : Delimiter}
    (tail : s.wildcard = some d)
    (absent : ¬ Utf8.encode d.text <:+: data.drop (start + s.bytes.length)) :
    s.stop? data start = none := by
  simp [stop?, tail, firstAt?_eq_none_iff.mpr absent]

end Sentry

namespace Framing

/-- The first place of the literal of the sentry at `index` is `start`; no literal has an
earlier one, and none that is listed ahead has the same. Empty literals do not count. -/
structure Leads (sentries : List Sentry) (data : Bytes) (start index : Nat) (s : Sentry) :
    Prop where
  listed : sentries[index]? = some s
  nonempty : s.literal ≠ []
  stands : StandsFirst s.bytes data 0 start
  earliest : ∀ t ∈ sentries, ∀ q, t.literal ≠ [] → StandsFirst t.bytes data 0 q → start ≤ q
  foremost : ∀ j < index, ∀ t, sentries[j]? = some t → t.literal ≠ [] →
    ¬ StandsFirst t.bytes data 0 start

variable {sentries : List Sentry} {data : Bytes} {start index : Nat} {s : Sentry}

theorem leads_iff_wins : Leads sentries data start index s ↔ Wins sentries data start index s := by
  constructor
  · intro h
    refine ⟨h.listed, Sentry.position?_eq_some_iff_standsFirst.mpr ⟨h.nonempty, h.stands⟩, ?_⟩
    intro j t q listed found
    obtain ⟨nonempty, stands⟩ := Sentry.position?_eq_some_iff_standsFirst.mp found
    have le := h.earliest t (List.mem_of_getElem? listed) q nonempty stands
    by_cases same : start = q
    · right
      refine ⟨same, Nat.le_of_not_lt ?_⟩
      intro ahead
      apply h.foremost j ahead t listed nonempty
      rwa [same]
    · left
      omega
  · intro h
    obtain ⟨nonempty, stands⟩ := Sentry.position?_eq_some_iff_standsFirst.mp h.stands
    refine ⟨h.listed, nonempty, stands, ?_, ?_⟩
    · intro t member q nonempty' stands'
      obtain ⟨j, listed⟩ := List.mem_iff_getElem?.mp member
      have := h.ahead j t q listed
        (Sentry.position?_eq_some_iff_standsFirst.mpr ⟨nonempty', stands'⟩)
      omega
    · intro j ahead t listed nonempty' stands'
      have := h.ahead j t start listed
        (Sentry.position?_eq_some_iff_standsFirst.mpr ⟨nonempty', stands'⟩)
      omega

theorem frame?_eq_some_iff_leads {frame : Frame} :
    frame? sentries data = some frame ↔
      ∃ start s, Leads sentries data start frame.sentry s ∧ s.ClosesAt data start frame.stop := by
  simp only [frame?_eq_some_iff, leads_iff_wins, Sentry.stop?_eq_some_iff]

theorem Leads.frame?_eq_some_iff {frame : Frame} (leads : Leads sentries data start index s) :
    frame? sentries data = some frame ↔
      ∃ stop, s.ClosesAt data start stop ∧ ⟨stop, index⟩ = frame := by
  rw [frame?, earliest?_eq_some_iff.mpr (leads_iff_wins.mp leads)]
  simp only [Option.map_eq_some_iff, Sentry.stop?_eq_some_iff]

/-- A leading wildcard sentry without its delimiter keeps the frame open, whatever stands
behind it. -/
theorem frame?_eq_none_of_open {d : Delimiter} (leads : Leads sentries data start index s)
    (tail : s.wildcard = some d)
    (absent : ¬ Utf8.encode d.text <:+: data.drop (start + s.bytes.length)) :
    frame? sentries data = none := by
  unfold frame?
  rw [earliest?_eq_some_iff.mpr (leads_iff_wins.mp leads)]
  simp [Sentry.stop?_eq_none_of_open tail absent]

/-- A frame is complete just if the sentry that leads closes, and its end is where that sentry
closes, within the data. In all other cases it is incomplete; so it is while the leading
sentry waits for its delimiter, even if another one has closed. -/
theorem frame_closed_by_leading_sentry (sentries : List Sentry) (data : Bytes) :
    (∀ frame : Frame, frame? sentries data = some frame ↔
      ∃ start s, Leads sentries data start frame.sentry s ∧
        s.ClosesAt data start frame.stop) ∧
    (frame? sentries data = none ↔ ∀ start index s stop,
      Leads sentries data start index s → ¬ s.ClosesAt data start stop) ∧
    (∀ start index s d, Leads sentries data start index s → s.wildcard = some d →
      ¬ Utf8.encode d.text <:+: data.drop (start + s.bytes.length) →
      frame? sentries data = none) ∧
    ∀ frame, frame? sentries data = some frame → frame.stop ≤ data.length := by
  refine ⟨?_, ?_, ?_, ?_⟩
  · intro frame
    exact frame?_eq_some_iff_leads
  · rw [Option.eq_none_iff_forall_ne_some]
    constructor
    · intro incomplete start index s stop leads closes
      apply incomplete ⟨stop, index⟩
      exact frame?_eq_some_iff_leads.mpr ⟨start, s, leads, closes⟩
    · intro never frame found
      obtain ⟨start, s, leads, closes⟩ := frame?_eq_some_iff_leads.mp found
      exact never start frame.sentry s frame.stop leads closes
  · intro start index s d leads tail absent
    exact frame?_eq_none_of_open leads tail absent
  · intro frame found
    exact frame?_stop_le found

def mixedSentries : List Sentry :=
  [.plain [], .plain "K\r\n".toList, ⟨"+E:".toList, some .crLf⟩, .plain "OK".toList,
    .plain "OK\r\n".toList]

/-- `OK` has come, but ahead of it stands a literal whose delimiter has not. -/
theorem frame_open_at_leading_wildcard :
    Leads mixedSentries (Utf8.encode "+E:2 OK".toList) 0 2 ⟨"+E:".toList, some .crLf⟩ ∧
      frame? mixedSentries (Utf8.encode "+E:2 OK".toList) = none ∧
      frame? mixedSentries (Utf8.encode "+E:2 OK\r\n".toList) = some ⟨9, 2⟩ ∧
      frame? mixedSentries (Utf8.encode "2 OK\r\n".toList) = some ⟨4, 3⟩ := by
  have leads : Leads mixedSentries (Utf8.encode "+E:2 OK".toList) 0 2
      ⟨"+E:".toList, some .crLf⟩ :=
    leads_iff_wins.mpr (earliest?_eq_some_iff.mp (by decide +kernel))
  obtain ⟨-, -, waiting, -⟩ :=
    frame_closed_by_leading_sentry mixedSentries (Utf8.encode "+E:2 OK".toList)
  refine ⟨leads, ?_, by decide +kernel, by decide +kernel⟩
  exact waiting 0 2 _ .crLf leads rfl (by decide +kernel)

end Framing
end ModemDialog
