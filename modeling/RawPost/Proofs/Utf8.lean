import RawPost.Text.Utf8
import Mathlib.Tactic

/-!
# Decoding what was encoded

The encoding of a character is a lead octet and up to three continuations.  The lead octet tells how many
continuations follow and what the first of them may be, every continuation adds six bits, and the last one
completes the character; so a text that is encoded and decoded again comes back as it was.
-/

namespace RawPost.Text

/-! ## Octets of an encoded character -/

def continuation (bits : Nat) : UInt8 :=
  .ofNat (bits + 0x80)

theorem continuation_toNat {bits : Nat} (hbits : bits < 64) :
    (continuation bits).toNat = bits + 0x80 := by
  simp only [continuation, UInt8.toNat_ofNat']
  omega

theorem Unfinished.accepts_continuation {u : Unfinished} {bits : Nat}
    (hbits : bits < 64) (hlow : u.low.toNat ≤ bits + 0x80)
    (hhigh : bits + 0x80 ≤ u.high.toNat) :
    u.accepts (continuation bits) = true := by
  have htoNat := continuation_toNat hbits
  simp only [Unfinished.accepts, UInt8.le_iff_toNat_le, Bool.and_eq_true,
    decide_eq_true_eq]
  omega

/-- A continuation that may stand where it stands adds its six bits. -/
theorem decodeFrom_continuation {u : Unfinished} {bits : Nat} {rest : Octets}
    (hbits : bits < 64) (hlow : u.low.toNat ≤ bits + 0x80)
    (hhigh : bits + 0x80 ≤ u.high.toNat) :
    decodeFrom (some u) (continuation bits :: rest) =
      if u.missing ≤ 1 then
        Char.ofNat (64 * u.bits + bits) :: decodeFrom none rest
      else
        decodeFrom
          (some ⟨64 * u.bits + bits, u.missing - 1, 0x80, 0xBF⟩) rest := by
  have haccepts := Unfinished.accepts_continuation hbits hlow hhigh
  have htoNat : (continuation bits).toNat - 0x80 = bits := by
    rw [continuation_toNat hbits]
    omega
  rw [decodeFrom]
  simp only [advance, haccepts, if_true, Unfinished.extend, htoNat]
  by_cases hmissing : u.missing ≤ 1
  · simp [hmissing, Begun.split]
  · simp [hmissing, Begun.split]

theorem decodeFrom_last {value bits : Nat} {rest : Octets}
    (hbits : bits < 64) :
    decodeFrom (some ⟨value, 1, 0x80, 0xBF⟩) (continuation bits :: rest) =
      Char.ofNat (64 * value + bits) :: decodeFrom none rest := by
  rw [decodeFrom_continuation hbits]
  · simp
  · exact Nat.le_add_left _ _
  · change bits + 128 ≤ 191
    omega

theorem decodeFrom_more {value missing bits : Nat} {low high : UInt8}
    {rest : Octets} (hbits : bits < 64) (hlow : low.toNat ≤ bits + 0x80)
    (hhigh : bits + 0x80 ≤ high.toNat) :
    decodeFrom (some ⟨value, missing + 2, low, high⟩)
        (continuation bits :: rest) =
      decodeFrom
        (some ⟨64 * value + bits, missing + 1, 0x80, 0xBF⟩) rest := by
  rw [decodeFrom_continuation hbits hlow hhigh]
  simp

theorem decodeFrom_next {value missing bits : Nat} {rest : Octets}
    (hbits : bits < 64) :
    decodeFrom (some ⟨value, missing + 2, 0x80, 0xBF⟩)
        (continuation bits :: rest) =
      decodeFrom
        (some ⟨64 * value + bits, missing + 1, 0x80, 0xBF⟩) rest := by
  apply decodeFrom_more hbits
  · exact Nat.le_add_left _ _
  · change bits + 128 ≤ 191
    omega

theorem decodeFrom_begin {b : UInt8} {u : Unfinished} {rest : Octets}
    (hbegin : begin b = .unfinished u) :
    decodeFrom none (b :: rest) = decodeFrom (some u) rest := by
  simp [decodeFrom, advance, hbegin, Begun.split]

/-! ## Lead octets -/

theorem begin_one {bits : Nat} (hbits : bits < 0x80) :
    begin (.ofNat bits) = .whole (Char.ofNat bits) := by
  have htoNat : (UInt8.ofNat bits).toNat = bits := by
    rw [UInt8.toNat_ofNat']
    omega
  have hlt : UInt8.ofNat bits < 0x80 := by
    rw [UInt8.lt_iff_toNat_lt, htoNat]
    exact hbits
  rw [begin, if_pos hlt, htoNat]

theorem begin_two {bits : Nat} (hleast : 2 ≤ bits) (hbits : bits < 0x20) :
    begin (.ofNat (bits + 0xC0)) = .unfinished ⟨bits, 1, 0x80, 0xBF⟩ := by
  interval_cases bits <;> rfl

/-- The bounds of the first continuation of three leave out overlong forms and surrogates. -/
def lowOfThree (bits : Nat) : UInt8 :=
  if bits = 0 then 0xA0 else 0x80

def highOfThree (bits : Nat) : UInt8 :=
  if bits = 0xD then 0x9F else 0xBF

theorem begin_three {bits : Nat} (hbits : bits < 0x10) :
    begin (.ofNat (bits + 0xE0)) =
      .unfinished ⟨bits, 2, lowOfThree bits, highOfThree bits⟩ := by
  interval_cases bits <;> rfl

def lowOfFour (bits : Nat) : UInt8 :=
  if bits = 0 then 0x90 else 0x80

def highOfFour (bits : Nat) : UInt8 :=
  if bits = 4 then 0x8F else 0xBF

theorem begin_four {bits : Nat} (hbits : bits ≤ 4) :
    begin (.ofNat (bits + 0xF0)) =
      .unfinished ⟨bits, 3, lowOfFour bits, highOfFour bits⟩ := by
  interval_cases bits <;> rfl

/-! ## Bounds of the first continuation -/

theorem bounds_three {value : Nat} (hlow : 0x7FF < value) (hhigh : value ≤ 0xFFFF)
    (hvalid : value < 0xD800 ∨ 0xDFFF < value) :
    (lowOfThree (value / 4096 % 0x10)).toNat ≤ value / 64 % 0x40 + 0x80 ∧
      value / 64 % 0x40 + 0x80 ≤ (highOfThree (value / 4096 % 0x10)).toNat := by
  unfold lowOfThree highOfThree
  constructor
  · split
    · change 160 ≤ _
      omega
    · exact Nat.le_add_left _ _
  · split
    · change _ ≤ 159
      omega
    · change _ ≤ 191
      omega

theorem bounds_four {value : Nat} (hlow : 0xFFFF < value) (hhigh : value < 0x110000) :
    (lowOfFour (value / 262144 % 0x08)).toNat ≤ value / 4096 % 0x40 + 0x80 ∧
      value / 4096 % 0x40 + 0x80 ≤ (highOfFour (value / 262144 % 0x08)).toNat := by
  unfold lowOfFour highOfFour
  constructor
  · split
    · change 144 ≤ _
      omega
    · exact Nat.le_add_left _ _
  · split
    · change _ ≤ 143
      omega
    · change _ ≤ 191
      omega

/-! ## Characters and texts -/

theorem decodeFrom_one {value : Nat} {rest : Octets} (hvalue : value ≤ 0x7F) :
    decodeFrom none (.ofNat value :: rest) =
      Char.ofNat value :: decodeFrom none rest := by
  have hbegin : begin (.ofNat value) = .whole (Char.ofNat value) :=
    begin_one (by omega)
  simp [decodeFrom, advance, hbegin, Begun.split]

theorem decodeFrom_two {value : Nat} {rest : Octets}
    (hlow : 0x7F < value) (hhigh : value ≤ 0x7FF) :
    decodeFrom none
        (.ofNat (value / 64 % 0x20 + 0xC0) ::
          continuation (value % 0x40) :: rest) =
      Char.ofNat value :: decodeFrom none rest := by
  have hsum : 64 * (value / 64 % 0x20) + value % 0x40 = value := by omega
  rw [decodeFrom_begin (begin_two (by omega) (by omega)),
    decodeFrom_last (by omega), hsum]

theorem decodeFrom_three {value : Nat} {rest : Octets}
    (hlow : 0x7FF < value) (hhigh : value ≤ 0xFFFF)
    (hvalid : value < 0xD800 ∨ 0xDFFF < value) :
    decodeFrom none
        (.ofNat (value / 4096 % 0x10 + 0xE0) ::
          continuation (value / 64 % 0x40) ::
          continuation (value % 0x40) :: rest) =
      Char.ofNat value :: decodeFrom none rest := by
  have hsum : 64 * (64 * (value / 4096 % 0x10) + value / 64 % 0x40) +
      value % 0x40 = value := by
    omega
  obtain ⟨hleast, hmost⟩ := bounds_three hlow hhigh hvalid
  rw [decodeFrom_begin (begin_three (by omega)),
    decodeFrom_more (by omega) hleast hmost, decodeFrom_last (by omega), hsum]

theorem decodeFrom_four {value : Nat} {rest : Octets}
    (hlow : 0xFFFF < value) (hhigh : value < 0x110000) :
    decodeFrom none
        (.ofNat (value / 262144 % 0x08 + 0xF0) ::
          continuation (value / 4096 % 0x40) ::
          continuation (value / 64 % 0x40) ::
          continuation (value % 0x40) :: rest) =
      Char.ofNat value :: decodeFrom none rest := by
  have hsum : 64 * (64 * (64 * (value / 262144 % 0x08) +
      value / 4096 % 0x40) + value / 64 % 0x40) + value % 0x40 = value := by
    omega
  obtain ⟨hleast, hmost⟩ := bounds_four hlow hhigh
  rw [decodeFrom_begin (begin_four (by omega)),
    decodeFrom_more (by omega) hleast hmost, decodeFrom_next (by omega),
    decodeFrom_last (by omega), hsum]

theorem decodeFrom_encodeChar (c : Char) (rest : Octets) :
    decodeFrom none (String.utf8EncodeChar c ++ rest) =
      c :: decodeFrom none rest := by
  have hvalid : c.val.toNat < 0xD800 ∨
      (0xDFFF < c.val.toNat ∧ c.val.toNat < 0x110000) := c.valid
  have hchar : Char.ofNat c.val.toNat = c := Char.ofNat_toNat c
  unfold String.utf8EncodeChar
  generalize c.val.toNat = value at hvalid hchar
  rw [← hchar]
  -- The cases are the lengths of the encoding.
  by_cases hone : value ≤ 0x7F
  · simp only [if_pos hone]
    exact decodeFrom_one hone
  · by_cases htwo : value ≤ 0x7FF
    · simp only [if_neg hone, if_pos htwo]
      exact decodeFrom_two (by omega) htwo
    · by_cases hthree : value ≤ 0xFFFF
      · simp only [if_neg hone, if_neg htwo, if_pos hthree]
        exact decodeFrom_three (by omega) hthree (by omega)
      · simp only [if_neg hone, if_neg htwo, if_neg hthree]
        exact decodeFrom_four (by omega) (by omega)

theorem decodeFrom_encode (text : List Char) :
    decodeFrom none (text.flatMap String.utf8EncodeChar) = text := by
  induction text with
  | nil => rfl
  | cons c text ih =>
      rw [List.flatMap_cons, decodeFrom_encodeChar, ih]

theorem encode_append (first second : String) :
    encode (first ++ second) = encode first ++ encode second := by
  simp [encode]

theorem encode_join (texts : List String) :
    encode (String.join texts) = texts.flatMap encode := by
  induction texts with
  | nil => rfl
  | cons text texts ih =>
      rw [String.join_cons, encode_append, ih, List.flatMap_cons]

theorem decode_encode (text : String) : decode (encode text) = text := by
  rw [decode, encode, decodeFrom_encode, String.ofList_toList]

end RawPost.Text
