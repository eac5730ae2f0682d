import Mathlib.Data.Nat.Digits.Lemmas
import ModemDialog.Number.Integer

/-! Which numerals are read, and as what: decimal digits, at least one, with a plus sign or
without, that make up a number within the bound. Zeros in front do not count. -/
namespace ModemDialog.Numeral

variable {c : Char} {t : Text} {n d largest value : Nat}

def Denotes (t : Text) (n : Nat) : Prop :=
  ∃ ds : List Nat, ds ≠ [] ∧ (∀ d ∈ ds, d < 10) ∧ Nat.ofDigits 10 ds.reverse = n ∧
    (t = ds.map Nat.digitChar ∨ t = '+' :: ds.map Nat.digitChar)

theorem Denotes.ne_nil (h : Denotes t n) : t ≠ [] := by
  obtain ⟨ds, nonempty, -, -, rfl | rfl⟩ := h
  · exact mt List.map_eq_nil_iff.mp nonempty
  · exact List.cons_ne_nil _ _

theorem digit?_eq_some_iff : digit? c = some d ↔ d < 10 ∧ c = Nat.digitChar d := by
  unfold digit?
  simp only [Bool.and_eq_true, decide_eq_true_eq, Option.ite_none_right_eq_some, Option.some.injEq,
    Char.le_def, UInt32.le_iff_toNat_le]
  constructor
  · rintro ⟨⟨low, high⟩, rfl⟩
    have low : 48 ≤ c.toNat := low
    have high : c.toNat ≤ 57 := high
    refine ⟨by simp only [Char.reduceToNat]; omega, ?_⟩
    apply Char.toNat_inj.mp
    rw [Nat.toNat_digitChar_of_lt_ten]
    · simp only [Char.reduceToNat]
      omega
    · simp only [Char.reduceToNat]
      omega
  · rintro ⟨small, rfl⟩
    revert d
    decide

theorem digit?_digitChar (small : d < 10) : digit? (Nat.digitChar d) = some d :=
  digit?_eq_some_iff.mpr ⟨small, rfl⟩

def onward (value : Nat) (ds : List Nat) : Nat :=
  value * 10 ^ ds.length + Nat.ofDigits 10 ds.reverse

theorem onward_cons (value d : Nat) (ds : List Nat) :
    onward value (d :: ds) = onward (value * 10 + d) ds := by
  unfold onward
  rw [List.reverse_cons, Nat.ofDigits_append, List.length_reverse, Nat.ofDigits_singleton,
    List.length_cons]
  ring

theorem le_onward (value : Nat) (ds : List Nat) : value ≤ onward value ds :=
  (Nat.le_mul_of_pos_right value (Nat.pow_pos (by decide))).trans (Nat.le_add_right _ _)

/-- What has been read only grows, so a bound that is passed on the way stays passed. -/
theorem digits_map {ds : List Nat} (small : ∀ d ∈ ds, d < 10) (within : value ≤ largest) :
    digits largest value (ds.map Nat.digitChar) =
      if onward value ds ≤ largest then .ok (onward value ds) else .error .tooLarge := by
  induction ds generalizing value with
  | nil =>
      have same : onward value [] = value := by simp [onward]
      rw [same, if_pos within]
      rfl
  | cons d ds ih =>
      rw [List.forall_mem_cons] at small
      rw [onward_cons, List.map_cons, digits, digit?_digitChar small.1]
      dsimp only
      split
      · next passed =>
        rw [if_neg (Nat.not_le_of_lt (Nat.lt_of_lt_of_le passed (le_onward _ ds)))]
      · next fits => exact ih small.2 (Nat.le_of_not_lt fits)

theorem exists_digits (read : digits largest value t = .ok n) :
    ∃ ds : List Nat, (∀ d ∈ ds, d < 10) ∧ t = ds.map Nat.digitChar := by
  induction t generalizing value with
  | nil => exact ⟨[], by simp, rfl⟩
  | cons c rest ih =>
      rw [digits] at read
      cases first : digit? c with
      | none => simp [first] at read
      | some d =>
          obtain ⟨less, rfl⟩ := digit?_eq_some_iff.mp first
          rw [first] at read
          dsimp only at read
          split at read
          · cases read
          · obtain ⟨ds, small, rfl⟩ := ih read
            exact ⟨d :: ds, List.forall_mem_cons.mpr ⟨less, small⟩, rfl⟩

theorem digits_eq_ok_iff :
    digits largest 0 t = .ok n ↔
      ∃ ds : List Nat, (∀ d ∈ ds, d < 10) ∧ t = ds.map Nat.digitChar ∧
        Nat.ofDigits 10 ds.reverse = n ∧ n ≤ largest := by
  have whole (ds : List Nat) : onward 0 ds = Nat.ofDigits 10 ds.reverse := by simp [onward]
  constructor
  · intro read
    obtain ⟨ds, small, rfl⟩ := exists_digits read
    rw [digits_map small (Nat.zero_le _), whole] at read
    split at read
    · next fits =>
      obtain rfl := Except.ok.inj read
      exact ⟨ds, small, rfl, rfl, fits⟩
    · cases read
  · rintro ⟨ds, small, rfl, rfl, fits⟩
    rw [digits_map small (Nat.zero_le _), whole, if_pos fits]

theorem digitChar_ne_plus (small : d < 10) : Nat.digitChar d ≠ '+' := by
  revert d
  decide

/-- A sign alone is no numeral, and a second sign no digit. -/
theorem parse_eq_ok_iff : parse largest t = .ok n ↔ Denotes t n ∧ n ≤ largest := by
  have signless {ds : List Nat} (nonempty : ds ≠ []) (small : ∀ d ∈ ds, d < 10) :
      parse largest (ds.map Nat.digitChar) = digits largest 0 (ds.map Nat.digitChar) := by
    cases ds with
    | nil => exact absurd rfl nonempty
    | cons d ds =>
        have plain := digitChar_ne_plus (small d List.mem_cons_self)
        rw [List.map_cons, parse.eq_4]
        · exact fun empty => by cases empty
        · exact fun sign => absurd (List.cons.inj sign).1 plain
        · exact fun rest sign => absurd (List.cons.inj sign).1 plain
  constructor
  · intro read
    unfold parse at read
    split at read
    · cases read
    · cases read
    · next rest followed =>
      obtain ⟨ds, small, rfl, value, fits⟩ := digits_eq_ok_iff.mp read
      refine ⟨⟨ds, ?_, small, value, .inr rfl⟩, fits⟩
      rintro rfl
      exact followed rfl
    · next nonempty _ _ =>
      obtain ⟨ds, small, rfl, value, fits⟩ := digits_eq_ok_iff.mp read
      refine ⟨⟨ds, ?_, small, value, .inl rfl⟩, fits⟩
      rintro rfl
      exact nonempty rfl
  · rintro ⟨⟨ds, nonempty, small, value, rfl | rfl⟩, fits⟩
    · rw [signless nonempty small]
      exact digits_eq_ok_iff.mpr ⟨ds, small, rfl, value, fits⟩
    · rw [parse.eq_3]
      · exact digits_eq_ok_iff.mpr ⟨ds, small, rfl, value, fits⟩
      · intro empty
        exact nonempty (List.map_eq_nil_iff.mp empty)

end ModemDialog.Numeral
