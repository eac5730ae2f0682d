import ModemDialog.Text.Escaped

/-! Escaped text between quotes can be read back, whatever stands behind it. Each character is
written as itself, as a backslash with a letter, or as a backslash with `x` and two digits, and
the first element tells which; so no text can write an end of its own. -/
namespace ModemDialog.Escaped

variable {c : Char} {t rest : Text}

def hexValue (digit : Char) : Nat :=
  if digit.toNat < 58 then digit.toNat - 48 else digit.toNat - 87

def letter : Char → Char
  | 'r' => '\r'
  | 'n' => '\n'
  | 't' => '\t'
  | c => c

/-- The text up to the first quote that no backslash escapes, and what is behind the quote. -/
def field? : Text → Option (Text × Text)
  | [] => none
  | '\x27' :: rest => some ([], rest)
  | '\\' :: 'x' :: high :: low :: rest =>
      (field? rest).map fun (t, behind) =>
        (Char.ofNat (hexValue high * 16 + hexValue low) :: t, behind)
  | '\\' :: c :: rest => (field? rest).map fun (t, behind) => (letter c :: t, behind)
  | c :: rest => (field? rest).map fun (t, behind) => (c :: t, behind)

theorem hexValue_hexDigit {n : Nat} (small : n < 16) : hexValue (hexDigit n) = n := by
  revert n
  decide

theorem hexDigit_plain {n : Nat} (small : n < 16) :
    0x20 ≤ (hexDigit n).toNat ∧ (hexDigit n).toNat ≠ 0x7F ∧ hexDigit n ≠ '\x27' := by
  revert n
  decide

theorem field?_cons (unquoted : c ≠ '\x27') (plain : c ≠ '\\') :
    field? (c :: rest) = (field? rest).map fun (t, behind) => (c :: t, behind) := by
  rw [field?.eq_5]
  · exact unquoted
  · exact fun _ _ _ slash _ => plain slash
  · exact fun _ _ slash _ => plain slash

inductive Token : Char → Text → Prop where
  | named {l : Char} (named : l = 'r' ∨ l = 'n' ∨ l = 't' ∨ l = '\\' ∨ l = '\x27') :
      Token (letter l) ['\\', l]
  | numbered {c : Char} (small : c.toNat < 128) (unquoted : c ≠ '\x27') :
      Token c ['\\', 'x', hexDigit (c.toNat / 16), hexDigit (c.toNat % 16)]
  | plain {c : Char} (visible : 0x20 ≤ c.toNat ∧ c.toNat ≠ 0x7F) (slash : c ≠ '\\')
      (unquoted : c ≠ '\x27') : Token c [c]

theorem encodeChar_token (c : Char) : Token c (encodeChar c) := by
  unfold encodeChar
  split
  · next cr =>
    subst cr
    exact .named (l := 'r') (by decide)
  split
  · next lf =>
    subst lf
    exact .named (l := 'n') (by decide)
  split
  · next tab =>
    subst tab
    exact .named (l := 't') (by decide)
  split
  · next slash =>
    subst slash
    exact .named (l := '\\') (by decide)
  split
  · next quote =>
    subst quote
    exact .named (l := '\x27') (by decide)
  split
  · next slash unquoted control =>
    simp only [Bool.or_eq_true, decide_eq_true_eq] at control
    exact .numbered (by omega) unquoted
  · next slash unquoted visible =>
    simp only [Bool.or_eq_true, decide_eq_true_eq] at visible
    exact .plain (by omega) slash unquoted

namespace Token

variable {token : Text}

theorem read (h : Token c token) (rest : Text) :
    field? (token ++ rest) = (field? rest).map fun (t, behind) => (c :: t, behind) := by
  cases h with
  | named named => rcases named with rfl | rfl | rfl | rfl | rfl <;> rfl
  | numbered small =>
      have value : hexValue (hexDigit (c.toNat / 16)) * 16 + hexValue (hexDigit (c.toNat % 16)) =
          c.toNat := by
        rw [hexValue_hexDigit (by omega), hexValue_hexDigit (by omega)]
        omega
      simp only [List.cons_append, List.nil_append, field?, value, Char.ofNat_toNat]
  | plain _ slash unquoted => exact field?_cons unquoted slash

theorem visible (h : Token c token) : ∀ d ∈ token, 0x20 ≤ d.toNat ∧ d.toNat ≠ 0x7F := by
  cases h with
  | named named =>
      simp only [List.forall_mem_cons, List.not_mem_nil, false_imp_iff, implies_true, and_true]
      exact ⟨by decide, by rcases named with rfl | rfl | rfl | rfl | rfl <;> decide⟩
  | numbered small =>
      have high := hexDigit_plain (n := c.toNat / 16) (by omega)
      have low := hexDigit_plain (n := c.toNat % 16) (by omega)
      simp only [List.forall_mem_cons, List.not_mem_nil, false_imp_iff, implies_true, and_true]
      exact ⟨by decide, by decide, ⟨high.1, high.2.1⟩, low.1, low.2.1⟩
  | plain visible => simpa using visible

theorem of_quote (h : Token c token) (quote : '\x27' ∈ token) : c = '\x27' := by
  cases h with
  | named named =>
      simp only [List.mem_cons, List.not_mem_nil, or_false] at quote
      rcases quote with slash | rfl
      · exact absurd slash (by decide)
      · rfl
  | numbered small unquoted =>
      have high := hexDigit_plain (n := c.toNat / 16) (by omega)
      have low := hexDigit_plain (n := c.toNat % 16) (by omega)
      simp [high.2.2.symm, low.2.2.symm] at quote
  | plain _ _ unquoted =>
      rw [List.mem_singleton] at quote
      exact quote.symm

end Token

theorem encode_cons (c : Char) (t : Text) : encode (c :: t) = encodeChar c ++ encode t :=
  List.flatMap_cons

theorem field?_encode (t rest : Text) : field? (encode t ++ '\x27' :: rest) = some (t, rest) := by
  induction t with
  | nil => rfl
  | cons c t ih => rw [encode_cons, List.append_assoc, (encodeChar_token c).read, ih, Option.map_some]

theorem encode_injective : Function.Injective encode := by
  intro s t same
  have back := field?_encode s []
  rw [same, field?_encode] at back
  exact (Prod.mk.inj (Option.some.inj back)).1.symm

theorem visible_of_mem_encode (mem : c ∈ encode t) : 0x20 ≤ c.toNat ∧ c.toNat ≠ 0x7F := by
  obtain ⟨d, -, inside⟩ := List.mem_flatMap.mp mem
  exact (encodeChar_token d).visible c inside

/-- A quote in an escaped text stands for a quote of the text, and the backslash in front of it
is its own. -/
theorem split_encode_at_quote {front back : Text} (split : encode t = front ++ '\x27' :: back) :
    ∃ t₁ t₂, t = t₁ ++ '\x27' :: t₂ ∧ front = encode t₁ ++ ['\\'] ∧ back = encode t₂ := by
  induction t generalizing front with
  | nil => simp [encode] at split
  | cons c t ih =>
      rw [encode_cons] at split
      rcases List.append_eq_append_iff.mp split with ⟨mid, rfl, later⟩ | ⟨mid, here, later⟩
      · obtain ⟨t₁, t₂, rfl, rfl, rfl⟩ := ih later
        exact ⟨c :: t₁, t₂, rfl, by rw [encode_cons, List.append_assoc], rfl⟩
      · cases mid with
        | nil =>
            have at_front : encode t = [] ++ '\x27' :: back := later.symm
            obtain ⟨t₁, t₂, -, empty, -⟩ := ih at_front
            simp at empty
        | cons q mid =>
            obtain ⟨rfl, rfl⟩ := List.cons_eq_cons.mp later
            obtain rfl := (encodeChar_token c).of_quote (by simp [here])
            have own : ['\\', '\x27'] = front ++ '\x27' :: mid := here
            rcases front with _ | ⟨a, _ | ⟨b, front⟩⟩
            · simp at own
            · simp only [List.cons_append, List.nil_append, List.cons.injEq, true_and] at own
              obtain ⟨rfl, rfl⟩ := own
              exact ⟨[], t, rfl, rfl, rfl⟩
            · simp at own

end ModemDialog.Escaped
