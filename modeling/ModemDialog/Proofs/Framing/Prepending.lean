import ModemDialog.Proofs.Framing.Closing

/-! Bytes in front of a run of data. If no literal begins in them they only move the frame that
the data has alone; else the sentry that leads begins in them. -/
namespace ModemDialog

section

variable {α : Type} [BEq α] [LawfulBEq α] {needle front data : List α}

theorem firstAt?_append_left (clear : ∀ p < front.length, ¬ needle <+: (front ++ data).drop p) :
    firstAt? needle (front ++ data) = (firstAt? needle data).map (front.length + ·) := by
  induction front with
  | nil => simp
  | cons a front ih =>
      have here : ¬ needle <+: a :: (front ++ data) := clear 0 (by simp)
      have behind : firstAt? needle (front ++ data) =
          (firstAt? needle data).map (front.length + ·) := by
        apply ih
        intro p inside
        exact clear (p + 1) (by simpa using inside)
      rw [List.cons_append, firstAt?, if_neg (mt List.isPrefixOf_iff_prefix.mp here), behind,
        Option.map_map]
      congr 1
      funext p
      simp only [Function.comp_apply, List.length_cons]
      omega

end

namespace Framing

/-- No sentry's literal begins in `front` when `data` comes behind it. -/
def Clear (sentries : List Sentry) (front data : Bytes) : Prop :=
  ∀ s ∈ sentries, s.literal ≠ [] → ∀ p < front.length, ¬ s.bytes <+: (front ++ data).drop p

instance (sentries : List Sentry) (front data : Bytes) : Decidable (Clear sentries front data) :=
  inferInstanceAs (Decidable (∀ s ∈ sentries, _))

end Framing

namespace Sentry

theorem position?_append_left {s : Sentry} {front data : Bytes}
    (clear : s.literal ≠ [] → ∀ p < front.length, ¬ s.bytes <+: (front ++ data).drop p) :
    s.position? (front ++ data) = (s.position? data).map (front.length + ·) := by
  unfold position?
  split
  · rfl
  · next literal =>
    apply firstAt?_append_left
    apply clear
    simpa using literal

theorem stop?_append_left (s : Sentry) (front data : Bytes) (start : Nat) :
    s.stop? (front ++ data) (front.length + start) =
      (s.stop? data start).map (front.length + ·) := by
  unfold stop?
  cases s.wildcard with
  | none => simp [Nat.add_assoc]
  | some d =>
      simp only [Nat.add_assoc, List.drop_length_add_append, Option.map_map]
      rfl

end Sentry

namespace Framing

variable {sentries : List Sentry} {front data : Bytes}

theorem earliest?_append_left (clear : Clear sentries front data) (index : Nat) :
    earliest? (front ++ data) index sentries =
      (earliest? data index sentries).map fun (start, i, s) => (front.length + start, i, s) := by
  induction sentries generalizing index with
  | nil => rfl
  | cons s rest ih =>
      have here := Sentry.position?_append_left (clear s (by simp))
      have later := ih (fun t member => clear t (by simp [member])) (index + 1)
      rw [earliest?, earliest?, here, later]
      cases s.position? data with
      | none => rfl
      | some p =>
          rcases earliest? data (index + 1) rest with _ | ⟨q, i, t⟩
          · rfl
          · by_cases earlier : q < p <;> simp [earlier]

theorem frame?_append_left (clear : Clear sentries front data) :
    frame? sentries (front ++ data) =
      (frame? sentries data).map fun frame => ⟨front.length + frame.stop, frame.sentry⟩ := by
  unfold frame?
  rw [earliest?_append_left clear]
  rcases earliest? data 0 sentries with _ | ⟨start, index, s⟩
  · rfl
  · simp only [Option.map_some, Sentry.stop?_append_left, Option.map_map]
    rfl

theorem clear_iff_leads :
    Clear sentries front data ↔
      ∀ start index s, Leads sentries (front ++ data) start index s → front.length ≤ start := by
  constructor
  · intro clear start index s leads
    apply Nat.le_of_not_lt
    intro inside
    exact clear s (List.mem_of_getElem? leads.listed) leads.nonempty start inside
      leads.stands.stands
  · intro behind s member nonempty p inside stands
    obtain ⟨place, le, found⟩ := firstAt?_isSome_of_prefix_drop stands
    obtain ⟨start, index, t, wins, before⟩ :=
      exists_wins member (Sentry.position?_eq_some_iff.mpr ⟨nonempty, found⟩)
    have reached := behind start index t (leads_iff_wins.mpr wins)
    omega

end Framing
end ModemDialog
