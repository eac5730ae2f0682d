import ModemDialog.Proofs.Text.Occurrence

/-! Text through UTF-8 and back, with whatever bytes behind it. A text is read back from its
bytes; and a character that is read, the replacement left out, has its own bytes there. -/
namespace ModemDialog.Utf8

variable {range : Nat × Nat} {want value used : Nat} {rest : Bytes}

theorem ofNat_eq_of_toNat {n : Nat} {b : UInt8} (same : n = b.toNat) : UInt8.ofNat n = b := by
  rw [same, UInt8.ofNat_toNat]

theorem gather_ofNat {m : Nat} (small : m < 256) (low : range.1 ≤ m) (high : m ≤ range.2) :
    gather range (want + 1) value used (UInt8.ofNat m :: rest) =
      gather (0x80, 0xBF) want (value * 64 + (m - 0x80)) (used + 1) rest := by
  simp only [gather, UInt8.toNat_ofNat_of_lt' small, low, high, decide_true, Bool.and_self, if_true]

theorem gather_tail (k : Nat) :
    gather (0x80, 0xBF) (want + 1) value used (UInt8.ofNat (k % 64 + 128) :: rest) =
      gather (0x80, 0xBF) want (value * 64 + k % 64) (used + 1) rest := by
  rw [gather_ofNat (by omega) (by dsimp only; omega) (by dsimp only; omega), Nat.add_sub_cancel]

theorem leadOf_eq_some_iff {n share : Nat} :
    leadOf n = some (want, share) ↔
      (want = 0 ∧ n ≤ 0x7F ∧ n = share) ∨
      (want = 1 ∧ 0xC2 ≤ n ∧ n ≤ 0xDF ∧ n = 0xC0 + share) ∨
      (want = 2 ∧ 0xE0 ≤ n ∧ n ≤ 0xEF ∧ n = 0xE0 + share) ∨
      (want = 3 ∧ 0xF0 ≤ n ∧ n ≤ 0xF4 ∧ n = 0xF0 + share) := by
  unfold leadOf
  simp only [Bool.and_eq_true, decide_eq_true_eq]
  repeat' split
  all_goals
    simp only [Option.some.injEq, Prod.mk.injEq, reduceCtorEq, false_iff]
    omega

theorem secondRange_iff {n m : Nat} :
    ((secondRange n).1 ≤ m ∧ m ≤ (secondRange n).2) ↔
      0x80 ≤ m ∧ m ≤ 0xBF ∧ (n = 0xE0 → 0xA0 ≤ m) ∧ (n = 0xED → m ≤ 0x9F) ∧
        (n = 0xF0 → 0x90 ≤ m) ∧ (n = 0xF4 → m ≤ 0x8F) := by
  unfold secondRange
  repeat' split
  all_goals
    dsimp only
    omega

theorem head_ofNat {n share : Nat} (small : n < 256) (lead : leadOf n = some (want, share)) :
    head (UInt8.ofNat n) rest =
      ((gather (secondRange n) want share 0 rest).1.map Char.ofNat,
        (gather (secondRange n) want share 0 rest).2) := by
  simp only [head, UInt8.toNat_ofNat_of_lt' small, lead]

theorem head_encodeChar (c : Char) (rest : Bytes) :
    ∃ b more, String.utf8EncodeChar c = b :: more ∧
      head b (more ++ rest) = (some c, more.length) := by
  have scalar : c.val.toNat < 0xD800 ∨ 0xDFFF < c.val.toNat ∧ c.val.toNat < 0x110000 := c.valid
  have same : Char.ofNat c.val.toNat = c := Char.ofNat_toNat c
  unfold String.utf8EncodeChar
  generalize c.val.toNat = n at scalar same
  dsimp only
  split
  · next one =>
    have lead : leadOf n = some (0, n) := leadOf_eq_some_iff.mpr (by omega)
    refine ⟨_, _, rfl, ?_⟩
    rw [head_ofNat (by omega) lead]
    simp [gather, same]
  split
  · next two =>
    have lead : leadOf (n / 64 % 32 + 192) = some (1, n / 64) :=
      leadOf_eq_some_iff.mpr (by omega)
    have second := secondRange_iff (n := n / 64 % 32 + 192) (m := n % 64 + 128)
      |>.mpr (by omega)
    refine ⟨_, _, rfl, ?_⟩
    rw [head_ofNat (by omega) lead, List.cons_append,
      gather_ofNat (by omega) second.1 second.2,
      show n / 64 * 64 + (n % 64 + 128 - 0x80) = n by omega]
    simp [gather, same]
  split
  · next three =>
    have lead : leadOf (n / 4096 % 16 + 224) = some (2, n / 4096) :=
      leadOf_eq_some_iff.mpr (by omega)
    have second := secondRange_iff (n := n / 4096 % 16 + 224) (m := n / 64 % 64 + 128)
      |>.mpr (by omega)
    refine ⟨_, _, rfl, ?_⟩
    rw [head_ofNat (by omega) lead, List.cons_append, List.cons_append,
      gather_ofNat (by omega) second.1 second.2, gather_tail,
      show (n / 4096 * 64 + (n / 64 % 64 + 128 - 0x80)) * 64 + n % 64 = n by omega]
    simp [gather, same]
  · next two three =>
    have lead : leadOf (n / 262144 % 8 + 240) = some (3, n / 262144) :=
      leadOf_eq_some_iff.mpr (by omega)
    have second := secondRange_iff (n := n / 262144 % 8 + 240) (m := n / 4096 % 64 + 128)
      |>.mpr (by omega)
    refine ⟨_, _, rfl, ?_⟩
    rw [head_ofNat (by omega) lead, List.cons_append, List.cons_append, List.cons_append,
      gather_ofNat (by omega) second.1 second.2, gather_tail, gather_tail,
      show ((n / 262144 * 64 + (n / 4096 % 64 + 128 - 0x80)) * 64 + n / 64 % 64) * 64 + n % 64 =
        n by omega]
    simp [gather, same]

theorem gather_zero_iff {v u : Nat} :
    gather range 0 value used rest = (some v, u) ↔ value = v ∧ used = u := by
  simp [gather]

theorem exists_of_gather {v u : Nat}
    (found : gather range (want + 1) value used rest = (some v, u)) :
    ∃ b more, rest = b :: more ∧ range.1 ≤ b.toNat ∧ b.toNat ≤ range.2 ∧
      gather (0x80, 0xBF) want (value * 64 + (b.toNat - 0x80)) (used + 1) more = (some v, u) := by
  cases rest with
  | nil => simp [gather] at found
  | cons b more =>
      simp only [gather] at found
      split at found
      · next fits =>
        simp only [Bool.and_eq_true, decide_eq_true_eq] at fits
        exact ⟨b, more, rfl, fits.1, fits.2, found⟩
      · simp at found

theorem encodeChar_ofNat {n : Nat} (valid : n.isValidChar) :
    String.utf8EncodeChar (Char.ofNat n) =
      if n ≤ 0x7F then [UInt8.ofNat n]
      else if n ≤ 0x7FF then [UInt8.ofNat (n / 64 % 32 + 192), UInt8.ofNat (n % 64 + 128)]
      else if n ≤ 0xFFFF then
        [UInt8.ofNat (n / 4096 % 16 + 224), UInt8.ofNat (n / 64 % 64 + 128),
          UInt8.ofNat (n % 64 + 128)]
      else
        [UInt8.ofNat (n / 262144 % 8 + 240), UInt8.ofNat (n / 4096 % 64 + 128),
          UInt8.ofNat (n / 64 % 64 + 128), UInt8.ofNat (n % 64 + 128)] := by
  have scalar : (Char.ofNat n).val.toNat = n := by
    rw [Char.ofNat, dif_pos valid]
    rfl
  simp only [String.utf8EncodeChar, scalar]

theorem encodeChar_of_head {b : UInt8} {c : Char} (found : head b rest = (some c, used)) :
    String.utf8EncodeChar c = b :: rest.take used := by
  unfold head at found
  split at found
  · simp at found
  next want share lead =>
  cases gathered : gather (secondRange b.toNat) want share 0 rest with
  | mk value? u =>
  simp only [gathered, Prod.mk.injEq, Option.map_eq_some_iff] at found
  obtain ⟨⟨v, rfl, rfl⟩, rfl⟩ := found
  rcases leadOf_eq_some_iff.mp lead with one | two | three | four
  · obtain ⟨rfl, small, rfl⟩ := one
    obtain ⟨rfl, rfl⟩ := gather_zero_iff.mp gathered
    rw [encodeChar_ofNat (by left; omega), if_pos small, UInt8.ofNat_toNat, List.take_zero]
  · obtain ⟨rfl, low, high, value⟩ := two
    obtain ⟨b₁, more, rfl, low₁, high₁, gathered⟩ := exists_of_gather gathered
    obtain ⟨rfl, rfl⟩ := gather_zero_iff.mp gathered
    have bounds := secondRange_iff.mp ⟨low₁, high₁⟩
    rw [encodeChar_ofNat (by left; omega), if_neg (by omega), if_pos (by omega),
      ofNat_eq_of_toNat (b := b) (by omega), ofNat_eq_of_toNat (b := b₁) (by omega)]
    rfl
  · obtain ⟨rfl, low, high, value⟩ := three
    obtain ⟨b₁, more, rfl, low₁, high₁, gathered⟩ := exists_of_gather gathered
    obtain ⟨b₂, more, rfl, low₂, high₂, gathered⟩ := exists_of_gather gathered
    obtain ⟨rfl, rfl⟩ := gather_zero_iff.mp gathered
    have bounds := secondRange_iff.mp ⟨low₁, high₁⟩
    dsimp only at low₂ high₂
    rw [encodeChar_ofNat (by unfold Nat.isValidChar; omega), if_neg (by omega), if_neg (by omega),
      if_pos (by omega), ofNat_eq_of_toNat (b := b) (by omega),
      ofNat_eq_of_toNat (b := b₁) (by omega), ofNat_eq_of_toNat (b := b₂) (by omega)]
    rfl
  · obtain ⟨rfl, low, high, value⟩ := four
    obtain ⟨b₁, more, rfl, low₁, high₁, gathered⟩ := exists_of_gather gathered
    obtain ⟨b₂, more, rfl, low₂, high₂, gathered⟩ := exists_of_gather gathered
    obtain ⟨b₃, more, rfl, low₃, high₃, gathered⟩ := exists_of_gather gathered
    obtain ⟨rfl, rfl⟩ := gather_zero_iff.mp gathered
    have bounds := secondRange_iff.mp ⟨low₁, high₁⟩
    dsimp only at low₂ high₂ low₃ high₃
    rw [encodeChar_ofNat (by right; omega), if_neg (by omega), if_neg (by omega),
      if_neg (by omega), ofNat_eq_of_toNat (b := b) (by omega),
      ofNat_eq_of_toNat (b := b₁) (by omega), ofNat_eq_of_toNat (b := b₂) (by omega),
      ofNat_eq_of_toNat (b := b₃) (by omega)]
    rfl

theorem eq_of_mem_encodeChar {a c : Char} (ascii : a.val.toNat ≤ 0x7F)
    (member : UInt8.ofNat a.val.toNat ∈ String.utf8EncodeChar c) : c = a := by
  have same : c.val.toNat = a.val.toNat := by
    unfold String.utf8EncodeChar at member
    dsimp only at member
    repeat' split at member
    all_goals
      simp only [List.mem_cons, List.not_mem_nil, or_false, ← UInt8.toNat_inj,
        UInt8.toNat_ofNat'] at member
      omega
  exact Char.ext (UInt32.toNat_inj.mp same)

theorem mem_of_byte_mem {a : Char} {t : Text} (ascii : a.val.toNat ≤ 0x7F)
    (member : UInt8.ofNat a.val.toNat ∈ encode t) : a ∈ t := by
  obtain ⟨c, inside, byte⟩ := List.mem_flatMap.mp member
  rwa [← eq_of_mem_encodeChar ascii byte]

theorem encode_cons (c : Char) (t : Text) :
    encode (c :: t) = String.utf8EncodeChar c ++ encode t := by
  simp [encode]

theorem decodeLossy_cons (b : UInt8) (rest : Bytes) :
    decodeLossy (b :: rest) =
      (head b rest).1.getD replacement :: decodeLossy (rest.drop (head b rest).2) := by
  rw [decodeLossy]

theorem decodeLossy_encode_append (t : Text) (rest : Bytes) :
    decodeLossy (encode t ++ rest) = t ++ decodeLossy rest := by
  induction t with
  | nil => simp [encode]
  | cons c t ih =>
      obtain ⟨b, more, bytes, read⟩ := head_encodeChar c (encode t ++ rest)
      rw [encode_cons, bytes, List.append_assoc, List.cons_append, decodeLossy_cons, read,
        List.drop_left, ih]
      rfl

theorem decodeLossy_encode (t : Text) : decodeLossy (encode t) = t := by
  have read := decodeLossy_encode_append t []
  rw [List.append_nil] at read
  rw [read]
  simp [decodeLossy]

theorem encode_injective : Function.Injective encode :=
  Function.LeftInverse.injective decodeLossy_encode

/-- A text at the front of what is read has its bytes at the front of the data, if it holds no
replacement character: one of those is also read for bytes that are ill-formed. -/
theorem encode_prefix_of_decodeLossy {t : Text} {data : Bytes} (faithful : replacement ∉ t)
    (front : t <+: decodeLossy data) : encode t <+: data := by
  induction t generalizing data with
  | nil => simp [encode]
  | cons c t ih =>
      rw [List.mem_cons, not_or] at faithful
      cases data with
      | nil => simp [decodeLossy] at front
      | cons b rest =>
          rw [decodeLossy_cons, List.cons_prefix_cons] at front
          obtain ⟨first, behind⟩ := front
          cases read : head b rest with
          | mk c? used =>
              rw [read] at first behind
              cases c? with
              | none => exact absurd first.symm faithful.1
              | some c' =>
                  obtain rfl : c = c' := first
                  have tail := ih faithful.2 behind
                  have whole : rest.take used ++ encode t <+: rest.take used ++ rest.drop used :=
                    (List.prefix_append_right_inj _).mpr tail
                  rw [List.take_append_drop] at whole
                  rw [encode_cons, encodeChar_of_head read, List.cons_append]
                  exact (List.prefix_cons_inj b).mpr whole

end ModemDialog.Utf8
