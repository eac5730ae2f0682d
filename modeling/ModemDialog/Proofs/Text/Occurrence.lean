import Mathlib.Data.List.Basic
import ModemDialog.Text.Utf8

/-! Where a run of elements stands in another, and what of that is settled before
all of it is known. -/
namespace ModemDialog

variable {α : Type} {needle hay more : List α}

theorem length_le_of_prefix_drop {i : Nat} (nonempty : needle ≠ [])
    (stands : needle <+: hay.drop i) : i + needle.length ≤ hay.length := by
  have room := stands.length_le
  have positive := List.length_pos_iff.mpr nonempty
  simp only [List.length_drop] at room
  omega

/-- Only the elements under the needle decide whether it stands somewhere. -/
theorem prefix_drop_append_iff {i : Nat} (inside : i + needle.length ≤ hay.length) :
    needle <+: (hay ++ more).drop i ↔ needle <+: hay.drop i := by
  rw [List.drop_append_of_le_length (by omega)]
  constructor
  · intro stands
    exact List.prefix_of_prefix_length_le stands (List.prefix_append _ _)
      (by rw [List.length_drop]; omega)
  · intro stands
    exact stands.trans (List.prefix_append _ _)

theorem infix_of_prefix_drop {i : Nat} (stands : needle <+: hay.drop i) : needle <:+: hay :=
  stands.isInfix.trans (List.drop_suffix i hay).isInfix

theorem exists_prefix_drop (inside : needle <:+: hay) : ∃ i, needle <+: hay.drop i := by
  obtain ⟨front, back, rfl⟩ := inside
  exact ⟨front.length, by simp⟩

theorem infix_dropLast_of_overlap {outer : List α} {p q : Nat}
    (inner : needle <+: hay.drop p) (around : outer <+: hay.drop q) (starts : q ≤ p)
    (ends : p + needle.length < q + outer.length) : needle <:+: outer.dropLast := by
  have shorter : outer.dropLast <+: hay.drop q := (List.dropLast_prefix outer).trans around
  have stands : needle <+: (outer.dropLast).drop (p - q) := by
    have whole : hay.drop p = (hay.drop q).drop (p - q) := by
      rw [List.drop_drop]
      congr 1
      omega
    obtain ⟨rest, split⟩ := shorter
    rw [whole, ← split] at inner
    exact (prefix_drop_append_iff (by rw [List.length_dropLast]; omega)).mp inner
  exact infix_of_prefix_drop stands

variable [BEq α] [LawfulBEq α]

theorem firstAt?_eq_some_iff {i : Nat} :
    firstAt? needle hay = some i ↔
      needle <+: hay.drop i ∧ ∀ j < i, ¬ needle <+: hay.drop j := by
  induction hay generalizing i with
  | nil =>
      cases needle with
      | nil =>
          simp only [firstAt?, List.isEmpty_nil, if_true, List.nil_prefix, not_true_eq_false,
            imp_false, true_and, Option.some.injEq]
          exact ⟨fun h => by omega, fun h => by have := h 0; omega⟩
      | cons a needle => simp [firstAt?]
  | cons a rest ih =>
      by_cases here : needle <+: a :: rest
      · rw [firstAt?, if_pos (List.isPrefixOf_iff_prefix.mpr here)]
        constructor
        · intro found
          obtain rfl := Option.some.inj found
          exact ⟨here, fun j before => absurd before (Nat.not_lt_zero j)⟩
        · rintro ⟨-, first⟩
          cases i with
          | zero => rfl
          | succ i => exact absurd here (first 0 (Nat.succ_pos i))
      · rw [firstAt?, if_neg (mt List.isPrefixOf_iff_prefix.mp here), Option.map_eq_some_iff]
        constructor
        · rintro ⟨k, found, rfl⟩
          obtain ⟨stands, first⟩ := ih.mp found
          refine ⟨stands, fun j before => ?_⟩
          cases j with
          | zero => exact here
          | succ j => exact first j (by omega)
        · rintro ⟨stands, first⟩
          cases i with
          | zero => exact absurd stands here
          | succ i =>
              exact ⟨i, ih.mpr ⟨stands, fun j before => first (j + 1) (by omega)⟩, rfl⟩

theorem firstAt?_isSome_of_prefix_drop {i : Nat} (stands : needle <+: hay.drop i) :
    ∃ j ≤ i, firstAt? needle hay = some j := by
  induction i using Nat.strongRecOn with
  | ind i ih =>
      by_cases earlier : ∃ j < i, needle <+: hay.drop j
      · obtain ⟨j, before, standsEarlier⟩ := earlier
        obtain ⟨k, le, found⟩ := ih j before standsEarlier
        exact ⟨k, by omega, found⟩
      · exact ⟨i, Nat.le_refl i, firstAt?_eq_some_iff.mpr
          ⟨stands, fun j before standsEarlier => earlier ⟨j, before, standsEarlier⟩⟩⟩

theorem firstAt?_eq_none_iff : firstAt? needle hay = none ↔ ¬ needle <:+: hay := by
  constructor
  · intro missing inside
    obtain ⟨i, stands⟩ := exists_prefix_drop inside
    obtain ⟨j, -, found⟩ := firstAt?_isSome_of_prefix_drop stands
    rw [missing] at found
    cases found
  · intro absent
    cases found : firstAt? needle hay with
    | none => rfl
    | some i => exact absurd (infix_of_prefix_drop (firstAt?_eq_some_iff.mp found).1) absent

@[simp] theorem firstAt?_nil : firstAt? [] hay = some 0 :=
  firstAt?_eq_some_iff.mpr ⟨List.nil_prefix, fun j before => absurd before (Nat.not_lt_zero j)⟩

theorem firstAt?_add_length_le {i : Nat} (found : firstAt? needle hay = some i) :
    i + needle.length ≤ hay.length := by
  by_cases empty : needle = []
  · subst empty
    rw [firstAt?_nil] at found
    obtain rfl := Option.some.inj found
    simp
  · exact length_le_of_prefix_drop empty (firstAt?_eq_some_iff.mp found).1

theorem firstAt?_append {i : Nat} (found : firstAt? needle hay = some i) :
    firstAt? needle (hay ++ more) = some i := by
  have room := firstAt?_add_length_le found
  obtain ⟨stands, first⟩ := firstAt?_eq_some_iff.mp found
  refine firstAt?_eq_some_iff.mpr ⟨(prefix_drop_append_iff room).mpr stands, fun j before => ?_⟩
  rw [prefix_drop_append_iff (by omega)]
  exact first j before

theorem firstAt?_of_append {i : Nat} (found : firstAt? needle (hay ++ more) = some i)
    (inside : i + needle.length ≤ hay.length) : firstAt? needle hay = some i := by
  obtain ⟨stands, first⟩ := firstAt?_eq_some_iff.mp found
  refine firstAt?_eq_some_iff.mpr
    ⟨(prefix_drop_append_iff inside).mp stands, fun j before standsEarlier => ?_⟩
  exact first j before ((prefix_drop_append_iff (by omega)).mpr standsEarlier)

theorem firstAt?_eq_zero (starts : needle <+: hay) : firstAt? needle hay = some 0 :=
  firstAt?_eq_some_iff.mpr ⟨starts, fun j before => absurd before (Nat.not_lt_zero j)⟩

theorem isPrefixOf?_eq_none_iff :
    needle.isPrefixOf? hay = none ↔ ¬ needle <+: hay := by
  rw [Option.eq_none_iff_forall_ne_some]
  simp only [ne_eq, List.isPrefixOf?_eq_some_iff_append_eq, List.IsPrefix, not_exists]

theorem isSuffixOf?_eq_none_iff :
    needle.isSuffixOf? hay = none ↔ ¬ needle <:+ hay := by
  rw [Option.eq_none_iff_forall_ne_some]
  simp only [ne_eq, List.isSuffixOf?_eq_some_iff_append_eq, List.IsSuffix, not_exists]

namespace Utf8

theorem encode_append (s t : Text) : encode (s ++ t) = encode s ++ encode t := by
  simp [encode]

@[simp] theorem encode_eq_nil_iff {t : Text} : encode t = [] ↔ t = [] := by
  constructor
  · intro empty
    cases t with
    | nil => rfl
    | cons c t =>
        have size := congrArg List.length empty
        have positive := Char.utf8Size_pos c
        simp only [encode, List.flatMap_cons, List.length_append, String.length_utf8EncodeChar,
          List.length_nil] at size
        omega
  · rintro rfl
    rfl

end Utf8
end ModemDialog
