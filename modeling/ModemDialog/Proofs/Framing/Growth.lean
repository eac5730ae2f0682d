import ModemDialog.Framing
import ModemDialog.Proofs.Text.Occurrence

/-! The sentry that wins a run of bytes, and when it keeps winning as the run grows.
A longer literal may start ahead of the winner and be complete only later; a set in
which no literal lies inside another one leaves no room for that. -/
namespace ModemDialog
namespace Sentry

/-- No literal stands inside the literal of another sentry, its last byte left out. -/
def Apart (sentries : List Sentry) : Prop :=
  ∀ s ∈ sentries, ∀ t ∈ sentries, s ≠ t → s.literal ≠ [] → ¬ s.bytes <:+: t.bytes.dropLast

instance (sentries : List Sentry) : Decidable (Apart sentries) :=
  inferInstanceAs (Decidable (∀ s ∈ sentries, ∀ t ∈ sentries, _))

theorem defaults_apart : Apart defaults := by decide +kernel

theorem bytes_eq_nil_iff {s : Sentry} : s.bytes = [] ↔ s.literal = [] := Utf8.encode_eq_nil_iff

theorem position?_eq_some_iff {s : Sentry} {data : Bytes} {start : Nat} :
    s.position? data = some start ↔ s.literal ≠ [] ∧ firstAt? s.bytes data = some start := by
  unfold position?
  split
  · rename_i empty
    simp [List.isEmpty_iff.mp empty]
  · rename_i nonempty
    rw [List.isEmpty_iff] at nonempty
    simp [nonempty]

theorem position?_append {s : Sentry} {data more : Bytes} {start : Nat}
    (found : s.position? data = some start) : s.position? (data ++ more) = some start := by
  obtain ⟨nonempty, first⟩ := position?_eq_some_iff.mp found
  exact position?_eq_some_iff.mpr ⟨nonempty, firstAt?_append first⟩

theorem position?_add_length_le {s : Sentry} {data : Bytes} {start : Nat}
    (found : s.position? data = some start) : start + s.bytes.length ≤ data.length :=
  firstAt?_add_length_le (position?_eq_some_iff.mp found).2

theorem position?_of_append {s : Sentry} {data more : Bytes} {start : Nat}
    (found : s.position? (data ++ more) = some start) :
    s.position? data = some start ∨ data.length < start + s.bytes.length := by
  obtain ⟨nonempty, first⟩ := position?_eq_some_iff.mp found
  by_cases inside : start + s.bytes.length ≤ data.length
  · exact .inl (position?_eq_some_iff.mpr ⟨nonempty, firstAt?_of_append first inside⟩)
  · exact .inr (by omega)

theorem stop?_append {s : Sentry} {data more : Bytes} {start stop : Nat}
    (inside : start + s.bytes.length ≤ data.length) (ends : s.stop? data start = some stop) :
    s.stop? (data ++ more) start = some stop := by
  unfold stop? at ends ⊢
  cases tail : s.wildcard with
  | none => simpa only [tail] using ends
  | some d =>
      simp only [tail, Option.map_eq_some_iff] at ends ⊢
      obtain ⟨offset, found, rfl⟩ := ends
      rw [List.drop_append_of_le_length inside]
      exact ⟨offset, firstAt?_append found, rfl⟩

theorem le_stop?_of_eq_some {s : Sentry} {data : Bytes} {start stop : Nat}
    (ends : s.stop? data start = some stop) : start + s.bytes.length ≤ stop := by
  unfold stop? at ends
  split at ends
  · exact Nat.le_of_eq (Option.some.inj ends)
  · obtain ⟨offset, -, rfl⟩ := Option.map_eq_some_iff.mp ends
    omega

theorem stop?_le_length {s : Sentry} {data : Bytes} {start stop : Nat}
    (inside : start + s.bytes.length ≤ data.length) (ends : s.stop? data start = some stop) :
    stop ≤ data.length := by
  unfold stop? at ends
  split at ends
  · rw [← Option.some.inj ends]
    exact inside
  · obtain ⟨offset, found, rfl⟩ := Option.map_eq_some_iff.mp ends
    have room := firstAt?_add_length_le found
    rw [List.length_drop] at room
    omega

end Sentry

namespace Framing

/-- The literal of the sentry at `index` stands at `start`, ahead of those of all
others; among equals it is the first one listed. -/
structure Wins (sentries : List Sentry) (data : Bytes) (start index : Nat) (s : Sentry) :
    Prop where
  listed : sentries[index]? = some s
  stands : s.position? data = some start
  ahead : ∀ (j : Nat) (t : Sentry) (q : Nat), sentries[j]? = some t →
    t.position? data = some q → start < q ∨ start = q ∧ index ≤ j

variable {sentries : List Sentry} {data more : Bytes} {start index : Nat} {s : Sentry}

theorem Wins.unique {start' index' : Nat} {s' : Sentry} (h : Wins sentries data start index s)
    (h' : Wins sentries data start' index' s') : start = start' ∧ index = index' ∧ s = s' := by
  have order := h.ahead _ _ _ h'.listed h'.stands
  have order' := h'.ahead _ _ _ h.listed h.stands
  have same : index = index' := by omega
  subst same
  exact ⟨by omega, rfl, Option.some.inj (h.listed.symm.trans h'.listed)⟩

theorem Wins.head {rest : List Sentry} (stands : s.position? data = some start)
    (behind : ∀ (j : Nat) (t : Sentry) (q : Nat),
      rest[j]? = some t → t.position? data = some q → start ≤ q) :
    Wins (s :: rest) data start 0 s where
  listed := rfl
  stands := stands
  ahead := by
    intro j t q listed found
    cases j with
    | zero =>
        obtain rfl := Option.some.inj listed
        exact .inr ⟨Option.some.inj (stands.symm.trans found), Nat.le_refl 0⟩
    | succ j =>
        have := behind j t q listed found
        omega

theorem Wins.tail {t : Sentry} (h : Wins sentries data start index s)
    (behind : ∀ q, t.position? data = some q → start < q) :
    Wins (t :: sentries) data start (index + 1) s where
  listed := h.listed
  stands := h.stands
  ahead := by
    intro j u q listed found
    cases j with
    | zero =>
        obtain rfl := Option.some.inj listed
        exact .inl (behind q found)
    | succ j =>
        have := h.ahead j u q listed found
        omega

theorem earliest?_spec (data : Bytes) (first : Nat) (sentries : List Sentry) :
    match earliest? data first sentries with
    | none => ∀ t ∈ sentries, t.position? data = none
    | some (start, i, s) => ∃ index, i = first + index ∧ Wins sentries data start index s := by
  induction sentries generalizing first with
  | nil => simp [earliest?]
  | cons s rest ih =>
      have later := ih (first + 1)
      cases here : s.position? data with
      | none =>
          have none_here : ∀ q, ¬ s.position? data = some q := by simp [here]
          cases found : earliest? data (first + 1) rest with
          | none =>
              rw [found] at later
              simpa [earliest?, here, found] using later
          | some won =>
              obtain ⟨q, i, t⟩ := won
              rw [found] at later
              obtain ⟨index, rfl, wins⟩ := later
              simp only [earliest?, here, found]
              exact ⟨index + 1, by omega, wins.tail fun q at_q => absurd at_q (none_here q)⟩
      | some p =>
          cases found : earliest? data (first + 1) rest with
          | none =>
              rw [found] at later
              simp only [earliest?, here, found]
              refine ⟨0, rfl, Wins.head here fun j t q listed at_q => ?_⟩
              rw [later t (List.mem_of_getElem? listed)] at at_q
              cases at_q
          | some won =>
              obtain ⟨q, i, t⟩ := won
              rw [found] at later
              obtain ⟨index, rfl, wins⟩ := later
              simp only [earliest?, here, found]
              by_cases earlier : q < p
              · rw [if_pos earlier]
                refine ⟨index + 1, by omega, wins.tail fun q' at_q => ?_⟩
                obtain rfl := Option.some.inj (here.symm.trans at_q)
                exact earlier
              · rw [if_neg earlier]
                refine ⟨0, rfl, Wins.head here fun j u q' listed at_q => ?_⟩
                have := wins.ahead j u q' listed at_q
                omega

theorem earliest?_eq_some_iff :
    earliest? data 0 sentries = some (start, index, s) ↔ Wins sentries data start index s := by
  have spec := earliest?_spec data 0 sentries
  constructor
  · intro found
    rw [found] at spec
    obtain ⟨i, rfl, wins⟩ := spec
    rwa [Nat.zero_add]
  · intro wins
    cases found : earliest? data 0 sentries with
    | none =>
        rw [found] at spec
        have missing := spec s (List.mem_of_getElem? wins.listed)
        rw [wins.stands] at missing
        cases missing
    | some won =>
        obtain ⟨q, i, t⟩ := won
        rw [found] at spec
        obtain ⟨j, rfl, wins'⟩ := spec
        obtain ⟨rfl, rfl, rfl⟩ := wins.unique wins'
        rw [Nat.zero_add]

theorem frame?_eq_some_iff {frame : Frame} :
    frame? sentries data = some frame ↔
      ∃ start s, Wins sentries data start frame.sentry s ∧
        s.stop? data start = some frame.stop := by
  unfold frame?
  constructor
  · intro found
    split at found
    · cases found
    · rename_i start index s won
      obtain ⟨stop, ends, rfl⟩ := Option.map_eq_some_iff.mp found
      exact ⟨start, s, earliest?_eq_some_iff.mp won, ends⟩
  · rintro ⟨start, s, wins, ends⟩
    rw [earliest?_eq_some_iff.mpr wins]
    simp [ends]

theorem frame?_stop_le {frame : Frame} (found : frame? sentries data = some frame) :
    frame.stop ≤ data.length := by
  obtain ⟨start, s, wins, ends⟩ := frame?_eq_some_iff.mp found
  exact Sentry.stop?_le_length (Sentry.position?_add_length_le wins.stands) ends

theorem frame?_stop_pos {frame : Frame} (found : frame? sentries data = some frame) :
    0 < frame.stop := by
  obtain ⟨start, s, wins, ends⟩ := frame?_eq_some_iff.mp found
  have nonempty : s.bytes ≠ [] :=
    mt Sentry.bytes_eq_nil_iff.mp (Sentry.position?_eq_some_iff.mp wins.stands).1
  have positive := List.length_pos_iff.mpr nonempty
  have behind := Sentry.le_stop?_of_eq_some ends
  omega

/-- After an append the same sentry wins at the same place, or another one that starts no
later, comes first in the list if it starts there too, and was not complete before. -/
theorem Wins.of_append {start' index' : Nat} {s' : Sentry}
    (before : Wins sentries data start index s)
    (after : Wins sentries (data ++ more) start' index' s') :
    (start' = start ∧ index' = index ∧ s' = s) ∨
      data.length < start' + s'.bytes.length ∧
        (start' < start ∨ start' = start ∧ index' < index) := by
  have order := after.ahead index s start before.listed (Sentry.position?_append before.stands)
  rcases Sentry.position?_of_append after.stands with known | reaches
  · left
    have order' := before.ahead index' s' start' after.listed known
    have same : index' = index := by omega
    subst same
    have listed := after.listed
    rw [before.listed] at listed
    exact ⟨by omega, rfl, (Option.some.inj listed).symm⟩
  · right
    refine ⟨reaches, ?_⟩
    by_cases same : index' = index
    · subst same
      have listed := after.listed
      rw [before.listed] at listed
      obtain rfl := Option.some.inj listed
      have inside := Sentry.position?_add_length_le before.stands
      omega
    · omega

theorem exists_wins {place : Nat} (member : s ∈ sentries)
    (position : s.position? data = some place) :
    ∃ start index t, Wins sentries data start index t ∧ start ≤ place := by
  cases found : earliest? data 0 sentries with
  | none =>
      have spec := earliest?_spec data 0 sentries
      rw [found] at spec
      have missing := spec s member
      rw [position] at missing
      cases missing
  | some won =>
      obtain ⟨start, index, t⟩ := won
      have wins := earliest?_eq_some_iff.mp found
      obtain ⟨j, listed⟩ := List.mem_iff_getElem?.mp member
      have first := wins.ahead j s place listed position
      exact ⟨start, index, t, wins, by omega⟩

theorem Wins.exists_append (before : Wins sentries data start index s) (more : Bytes) :
    ∃ start' index' s', Wins sentries (data ++ more) start' index' s' := by
  obtain ⟨start', index', s', wins, -⟩ :=
    exists_wins (List.mem_of_getElem? before.listed) (Sentry.position?_append before.stands)
  exact ⟨start', index', s', wins⟩

/-- A sentry that overtook the winner would be complete only in what is new, so that the
winner's literal would lie inside its own. -/
theorem Wins.append (apart : Sentry.Apart sentries) (wins : Wins sentries data start index s) :
    Wins sentries (data ++ more) start index s := by
  obtain ⟨start', index', s', after⟩ := wins.exists_append more
  rcases wins.of_append after with ⟨rfl, rfl, rfl⟩ | ⟨reaches, overtakes⟩
  · exact after
  · exfalso
    have inside := Sentry.position?_add_length_le wins.stands
    obtain ⟨nonempty, first⟩ := Sentry.position?_eq_some_iff.mp wins.stands
    have inner : s.bytes <+: (data ++ more).drop start :=
      (firstAt?_eq_some_iff.mp (firstAt?_append first)).1
    have around : s'.bytes <+: (data ++ more).drop start' :=
      (firstAt?_eq_some_iff.mp (Sentry.position?_eq_some_iff.mp after.stands).2).1
    have different : s ≠ s' := by
      rintro rfl
      omega
    apply apart s (List.mem_of_getElem? wins.listed) s' (List.mem_of_getElem? after.listed)
      different nonempty
    apply infix_dropLast_of_overlap inner around <;> omega

/-- In a set of literals that lie apart a complete response stays as it is, whatever
comes behind it. -/
theorem frame?_append (apart : Sentry.Apart sentries) {frame : Frame}
    (found : frame? sentries data = some frame) :
    frame? sentries (data ++ more) = some frame := by
  obtain ⟨start, s, wins, ends⟩ := frame?_eq_some_iff.mp found
  exact frame?_eq_some_iff.mpr ⟨start, s, wins.append apart,
    Sentry.stop?_append (Sentry.position?_add_length_le wins.stands) ends⟩

theorem frame?_of_begins (apart : Sentry.Apart sentries) {frame : Frame} {stream : Bytes}
    (found : frame? sentries data = some frame) (begins : data <+: stream) :
    frame? sentries stream = some frame ∧ data.take frame.stop = stream.take frame.stop := by
  obtain ⟨more, rfl⟩ := begins
  exact ⟨frame?_append apart found, (List.take_append_of_le_length (frame?_stop_le found)).symm⟩

end Framing
end ModemDialog
