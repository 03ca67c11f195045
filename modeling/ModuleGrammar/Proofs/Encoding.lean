/-
# Encoding and decoding

The encoding of a text decodes to the text, and bytes that decode are the encoding of what
they decode to. So a text that is written to a file is read back as it was, and writing the
text of a file leaves its bytes as they were. The second part holds because decoding refuses
long forms, surrogates and numbers beyond the last code point.
-/
import Mathlib.Data.List.Basic
import ModuleGrammar.Text.Utf8

namespace ModuleGrammar.Utf8

theorem toNat_toUInt8 {n : Nat} (byte : n < 256) : n.toUInt8.toNat = n := by
  rw [Nat.toUInt8_eq, UInt8.toNat_ofNat', Nat.mod_eq_of_lt byte]

theorem toUInt8_eq {n : Nat} (byte : UInt8) (same : n = byte.toNat) : n.toUInt8 = byte := by
  rw [same, Nat.toUInt8_eq, UInt8.ofNat_toNat]

/-- The four kinds of first bytes. -/
theorem lead?_eq_some_iff {byte : UInt8} {n : Nat} (value : byte.toNat = n) {lead : Lead} :
    lead? byte = some lead ↔
      (n < 0x80 ∧ lead = ⟨0, 0x80, 0xBF, n⟩) ∨
      (0xC2 ≤ n ∧ n < 0xE0 ∧ lead = ⟨1, 0x80, 0xBF, n - 0xC0⟩) ∨
      (0xE0 ≤ n ∧ n < 0xF0 ∧ lead =
        ⟨2, if n = 0xE0 then 0xA0 else 0x80, if n = 0xED then 0x9F else 0xBF, n - 0xE0⟩) ∨
      (0xF0 ≤ n ∧ n < 0xF5 ∧ lead =
        ⟨3, if n = 0xF0 then 0x90 else 0x80, if n = 0xF4 then 0x8F else 0xBF, n - 0xF0⟩) := by
  simp only [lead?, value]
  split_ifs <;> grind

/-- One following byte is read if it lies in its range. -/
theorem follow_succ_iff {count lowest highest number : Nat} {bytes : Bytes}
    {result : Nat × Bytes} :
    follow (count + 1) lowest highest number bytes = .ok result ↔
      ∃ byte others, bytes = byte :: others ∧ lowest ≤ byte.toNat ∧ byte.toNat ≤ highest ∧
        follow count 0x80 0xBF (number * 0x40 + (byte.toNat - 0x80)) others = .ok result := by
  cases bytes with
  | nil => simp [follow]
  | cons byte others =>
      by_cases inRange : lowest ≤ byte.toNat ∧ byte.toNat ≤ highest
      · cases later : follow count 0x80 0xBF (number * 0x40 + (byte.toNat - 0x80)) others <;>
          simp [follow, inRange, later]
      · have refused : follow (count + 1) lowest highest number (byte :: others) =
            .error (.invalidContinuation, 0) := by
          rw [follow, if_neg (by simpa using inRange)]
        constructor
        · intro read
          rw [refused] at read
          cases read
        · rintro ⟨_, _, same, lower, upper, -⟩
          cases same
          exact absurd ⟨lower, upper⟩ inRange

theorem decodeChar_eq_ok_iff {byte : UInt8} {bytes rest : Bytes} {c : Char} :
    decodeChar byte bytes = .ok (c, rest) ↔
      ∃ lead number, lead? byte = some lead ∧
        follow lead.followers lead.lowest lead.highest lead.bits bytes = .ok (number, rest) ∧
        Char.ofNat number = c := by
  rw [decodeChar]
  cases first : lead? byte with
  | none => simp
  | some lead =>
      cases others : follow lead.followers lead.lowest lead.highest lead.bits bytes with
      | error failure => simp [others]
      | ok found =>
          constructor
          · intro decoded
            simp only [others] at decoded
            cases decoded
            exact ⟨lead, found.1, rfl, others, rfl⟩
          · rintro ⟨_, number, same, read, rfl⟩
            cases same
            simp only [read]

/-- The last six bits of a number as a following byte. -/
theorem follow_six_bits {count lowest highest number six : Nat} {bytes : Bytes}
    {result : Nat × Bytes} (bits : six < 0x40) (lower : lowest ≤ 0x80 + six)
    (upper : 0x80 + six ≤ highest)
    (later : follow count 0x80 0xBF (number * 0x40 + six) bytes = .ok result) :
    follow (count + 1) lowest highest number ((0x80 + six).toUInt8 :: bytes) = .ok result := by
  have value : (0x80 + six).toUInt8.toNat = 0x80 + six := toNat_toUInt8 (by omega)
  refine follow_succ_iff.mpr ⟨_, _, rfl, ?_, ?_, ?_⟩
  · rwa [value]
  · rwa [value]
  · rwa [value, Nat.add_sub_cancel_left]

theorem follow_zero {number n : Nat} (same : number = n) (lowest highest : Nat) (bytes : Bytes) :
    follow 0 lowest highest number bytes = .ok (n, bytes) := by
  rw [follow, same]

/-- The encoding of a character is read as the character, whatever follows. -/
theorem decodeChar_encodeChar (c : Char) (rest : Bytes) :
    ∃ byte bytes, encodeChar c = byte :: bytes ∧
      decodeChar byte (bytes ++ rest) = .ok (c, rest) := by
  have valid : c.toNat < 0xD800 ∨ 0xDFFF < c.toNat ∧ c.toNat < 0x110000 := c.valid
  have back : Char.ofNat c.toNat = c := Char.ofNat_toNat c
  rw [encodeChar]
  generalize c.toNat = n at valid back
  have six (m : Nat) : m % 0x40 < 0x40 := Nat.mod_lt m (by decide)
  split_ifs with one two three
  · have first : n.toUInt8.toNat = n := toNat_toUInt8 (by omega)
    have lead := (lead?_eq_some_iff first).mpr (.inl ⟨one, rfl⟩)
    exact ⟨_, _, rfl, decodeChar_eq_ok_iff.mpr ⟨_, n, lead, follow_zero rfl _ _ _, back⟩⟩
  · have first : (0xC0 + n / 0x40).toUInt8.toNat = 0xC0 + n / 0x40 := toNat_toUInt8 (by omega)
    have lead := (lead?_eq_some_iff first).mpr (.inr (.inl ⟨by omega, by omega, rfl⟩))
    refine ⟨_, _, rfl, decodeChar_eq_ok_iff.mpr ⟨_, n, lead, ?_, back⟩⟩
    exact follow_six_bits (six n) (by dsimp only; omega) (by dsimp only; omega)
      (follow_zero (by dsimp only; omega) _ _ _)
  · have first : (0xE0 + n / 0x1000).toUInt8.toNat = 0xE0 + n / 0x1000 :=
      toNat_toUInt8 (by omega)
    have lead := (lead?_eq_some_iff first).mpr (.inr (.inr (.inl ⟨by omega, by omega, rfl⟩)))
    refine ⟨_, _, rfl, decodeChar_eq_ok_iff.mpr ⟨_, n, lead, ?_, back⟩⟩
    refine follow_six_bits (six _) ?_ ?_ (follow_six_bits (six n) (by omega) (by omega)
      (follow_zero (by dsimp only; omega) _ _ _))
    · dsimp only
      split <;> omega
    · dsimp only
      split <;> omega
  · have first : (0xF0 + n / 0x40000).toUInt8.toNat = 0xF0 + n / 0x40000 :=
      toNat_toUInt8 (by omega)
    have lead := (lead?_eq_some_iff first).mpr (.inr (.inr (.inr ⟨by omega, by omega, rfl⟩)))
    refine ⟨_, _, rfl, decodeChar_eq_ok_iff.mpr ⟨_, n, lead, ?_, back⟩⟩
    refine follow_six_bits (six _) ?_ ?_ (follow_six_bits (six _) (by omega) (by omega)
      (follow_six_bits (six n) (by omega) (by omega) (follow_zero (by dsimp only; omega) _ _ _)))
    · dsimp only
      split <;> omega
    · dsimp only
      split <;> omega

theorem encodeChar_ofNat {n : Nat} (valid : n < 0xD800 ∨ 0xDFFF < n ∧ n < 0x110000) :
    encodeChar (Char.ofNat n) =
      if n < 0x80 then [n.toUInt8]
      else if n < 0x800 then [(0xC0 + n / 0x40).toUInt8, (0x80 + n % 0x40).toUInt8]
      else if n < 0x10000 then
        [(0xE0 + n / 0x1000).toUInt8, (0x80 + n / 0x40 % 0x40).toUInt8, (0x80 + n % 0x40).toUInt8]
      else
        [(0xF0 + n / 0x40000).toUInt8, (0x80 + n / 0x1000 % 0x40).toUInt8,
          (0x80 + n / 0x40 % 0x40).toUInt8, (0x80 + n % 0x40).toUInt8] := by
  have isChar : n.isValidChar := valid
  have number : (Char.ofNat n).toNat = n := by
    rw [Char.ofNat, dif_pos isChar]
    rfl
  rw [encodeChar, number]

/-- A character that was read has the encoding that it was read from. -/
theorem eq_encodeChar_of_decodeChar {byte : UInt8} {bytes rest : Bytes} {c : Char}
    (decoded : decodeChar byte bytes = .ok (c, rest)) : byte :: bytes = encodeChar c ++ rest := by
  obtain ⟨lead, number, first, followed, rfl⟩ := decodeChar_eq_ok_iff.mp decoded
  rcases (lead?_eq_some_iff rfl).mp first with ⟨upper, rfl⟩ | ⟨lower, upper, rfl⟩ |
    ⟨lower, upper, rfl⟩ | ⟨lower, upper, rfl⟩
  · simp only [follow, Except.ok.injEq, Prod.mk.injEq] at followed
    obtain ⟨rfl, rfl⟩ := followed
    rw [encodeChar_ofNat (by omega), if_pos upper, toUInt8_eq byte rfl]
    rfl
  · obtain ⟨second, others, rfl, lower₂, upper₂, followed⟩ := follow_succ_iff.mp followed
    simp only [follow, Except.ok.injEq, Prod.mk.injEq] at followed lower₂ upper₂
    obtain ⟨rfl, rfl⟩ := followed
    rw [encodeChar_ofNat (by omega), if_neg (by omega), if_pos (by omega),
      toUInt8_eq byte (by omega), toUInt8_eq second (by omega)]
    rfl
  · obtain ⟨second, others, rfl, lower₂, upper₂, followed⟩ := follow_succ_iff.mp followed
    obtain ⟨third, others, rfl, lower₃, upper₃, followed⟩ := follow_succ_iff.mp followed
    simp only [follow, Except.ok.injEq, Prod.mk.injEq] at followed lower₂ upper₂
    obtain ⟨rfl, rfl⟩ := followed
    -- The narrower ranges are those without long forms and surrogates.
    have lowest : 0x80 ≤ second.toNat ∧ (byte.toNat = 0xE0 → 0xA0 ≤ second.toNat) := by
      split at lower₂ <;> omega
    have highest : second.toNat ≤ 0xBF ∧ (byte.toNat = 0xED → second.toNat ≤ 0x9F) := by
      split at upper₂ <;> omega
    rw [encodeChar_ofNat (by omega), if_neg (by omega), if_neg (by omega), if_pos (by omega),
      toUInt8_eq byte (by omega), toUInt8_eq second (by omega), toUInt8_eq third (by omega)]
    rfl
  · obtain ⟨second, others, rfl, lower₂, upper₂, followed⟩ := follow_succ_iff.mp followed
    obtain ⟨third, others, rfl, lower₃, upper₃, followed⟩ := follow_succ_iff.mp followed
    obtain ⟨fourth, others, rfl, lower₄, upper₄, followed⟩ := follow_succ_iff.mp followed
    simp only [follow, Except.ok.injEq, Prod.mk.injEq] at followed lower₂ upper₂
    obtain ⟨rfl, rfl⟩ := followed
    -- Here they are those without long forms and numbers beyond the last code point.
    have lowest : 0x80 ≤ second.toNat ∧ (byte.toNat = 0xF0 → 0x90 ≤ second.toNat) := by
      split at lower₂ <;> omega
    have highest : second.toNat ≤ 0xBF ∧ (byte.toNat = 0xF4 → second.toNat ≤ 0x8F) := by
      split at upper₂ <;> omega
    rw [encodeChar_ofNat (by omega), if_neg (by omega), if_neg (by omega), if_neg (by omega),
      toUInt8_eq byte (by omega), toUInt8_eq second (by omega), toUInt8_eq third (by omega),
      toUInt8_eq fourth (by omega)]
    rfl

theorem decodeFrom_cons {byte : UInt8} {bytes rest : Bytes} {c : Char}
    (decoded : decodeChar byte bytes = .ok (c, rest)) (position : Nat) :
    decodeFrom position (byte :: bytes) =
      (decodeFrom (position + (encodeChar c).length) rest).map (c :: ·) := by
  rw [decodeFrom]
  split
  case h_1 d others same =>
    rw [decoded] at same
    cases same
    cases decodeFrom (position + (encodeChar c).length) rest <;> rfl
  case h_2 fault length same =>
    rw [decoded] at same
    cases same

/-- What is written is read back. -/
theorem decodeFrom_encode (text : Text) (position : Nat) :
    decodeFrom position (encode text) = .ok text := by
  induction text generalizing position with
  | nil => rw [encode, List.flatMap_nil, decodeFrom]
  | cons c text ih =>
      obtain ⟨byte, bytes, encoded, decoded⟩ := decodeChar_encodeChar c (encode text)
      have whole : encode (c :: text) = byte :: (bytes ++ encode text) := by
        rw [encode, List.flatMap_cons, encoded]
        rfl
      rw [whole, decodeFrom_cons decoded, ih]
      rfl

theorem decode_encode (text : Text) : decode (encode text) = .ok text :=
  decodeFrom_encode text 0

theorem encode_inj {first second : Text} : encode first = encode second ↔ first = second := by
  constructor
  · intro same
    have decoded := decode_encode first
    rw [same, decode_encode] at decoded
    exact (Except.ok.inj decoded).symm
  · exact congrArg encode

/-- What was read would be written as it was. -/
theorem encode_of_decodeFrom {position : Nat} {bytes : Bytes} {text : Text}
    (decoded : decodeFrom position bytes = .ok text) : encode text = bytes := by
  induction position, bytes using decodeFrom.induct generalizing text with
  | case1 position =>
      rw [decodeFrom] at decoded
      cases decoded
      rfl
  | case2 position byte bytes c rest first _ others found ih =>
      rw [decodeFrom_cons first, found] at decoded
      cases decoded
      rw [eq_encodeChar_of_decodeChar first, encode, List.flatMap_cons, ← encode, ih found]
  | case3 position byte bytes c rest first _ error found ih =>
      rw [decodeFrom_cons first, found] at decoded
      cases decoded
  | case4 position byte bytes fault length first =>
      rw [decodeFrom] at decoded
      split at decoded
      case h_1 c rest same =>
        rw [first] at same
        cases same
      case h_2 => cases decoded

theorem encode_of_decode {bytes : Bytes} {text : Text} (decoded : decode bytes = .ok text) :
    encode text = bytes :=
  encode_of_decodeFrom decoded

end ModuleGrammar.Utf8
