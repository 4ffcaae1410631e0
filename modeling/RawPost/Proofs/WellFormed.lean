import RawPost.Proofs.Locality
import Mathlib.Data.List.Forall2

/-!
# Well-formed octets

Which sequences of octets are characters is given by a table.  A row has bounds for each octet of a
sequence; the second bounds leave out overlong forms, surrogates and what is beyond the last code point.
Octets are well-formed if they are characters one after another.

The sequences of the table are the encodings of characters.  So well-formed octets are the encodings of
texts, and they are the octets that come back when they are decoded and encoded again.
-/

namespace RawPost.Text

/-- The bounds of an octet, both included. -/
structure Bounds where
  low : UInt8
  high : UInt8
  deriving DecidableEq, Repr

namespace Bounds

def Admits (bounds : Bounds) (b : UInt8) : Prop :=
  bounds.low ≤ b ∧ b ≤ bounds.high

theorem admits_iff {low high b : UInt8} :
    Admits ⟨low, high⟩ b ↔ low.toNat ≤ b.toNat ∧ b.toNat ≤ high.toNat := by
  simp only [Admits, UInt8.le_iff_toNat_le]

end Bounds

/-- The bounds of a continuation that nothing more is known of. -/
def anyContinuation : Bounds := ⟨0x80, 0xBF⟩

theorem admits_anyContinuation_iff {b : UInt8} :
    anyContinuation.Admits b ↔ 0x80 ≤ b.toNat ∧ b.toNat ≤ 0xBF :=
  Bounds.admits_iff

/-- The sequences of octets that are characters, by the bounds of their octets. -/
def characterRows : List (List Bounds) :=
  [[⟨0x00, 0x7F⟩],
   [⟨0xC2, 0xDF⟩, anyContinuation],
   [⟨0xE0, 0xE0⟩, ⟨0xA0, 0xBF⟩, anyContinuation],
   [⟨0xE1, 0xEC⟩, anyContinuation, anyContinuation],
   [⟨0xED, 0xED⟩, ⟨0x80, 0x9F⟩, anyContinuation],
   [⟨0xEE, 0xEF⟩, anyContinuation, anyContinuation],
   [⟨0xF0, 0xF0⟩, ⟨0x90, 0xBF⟩, anyContinuation, anyContinuation],
   [⟨0xF1, 0xF3⟩, anyContinuation, anyContinuation, anyContinuation],
   [⟨0xF4, 0xF4⟩, ⟨0x80, 0x8F⟩, anyContinuation, anyContinuation]]

/-- As many octets as bounds, each inside its own. -/
abbrev Fits : List Bounds → Octets → Prop :=
  List.Forall₂ Bounds.Admits

/-- An octet that begins a row of the table; the octets behind it have to be inside these bounds. -/
def Leads (b : UInt8) (others : List Bounds) : Prop :=
  ∃ first : Bounds, first :: others ∈ characterRows ∧ first.Admits b

inductive IsCharacter : Octets → Prop where
  | mk {b : UInt8} {others : List Bounds} {rest : Octets} (hleads : Leads b others)
      (hrest : Fits others rest) : IsCharacter (b :: rest)

inductive WellFormed : Octets → Prop where
  | nil : WellFormed []
  | cons {character rest : Octets} (hcharacter : IsCharacter character)
      (hrest : WellFormed rest) : WellFormed (character ++ rest)

/-! ## Rows by their first octet -/

theorem leads_iff {b : UInt8} {others : List Bounds} :
    Leads b others ↔
      (b.toNat ≤ 0x7F ∧ others = []) ∨
      ((0xC2 ≤ b.toNat ∧ b.toNat ≤ 0xDF) ∧ others = [anyContinuation]) ∨
      (b.toNat = 0xE0 ∧ others = [⟨0xA0, 0xBF⟩, anyContinuation]) ∨
      ((0xE1 ≤ b.toNat ∧ b.toNat ≤ 0xEC) ∧ others = [anyContinuation, anyContinuation]) ∨
      (b.toNat = 0xED ∧ others = [⟨0x80, 0x9F⟩, anyContinuation]) ∨
      ((0xEE ≤ b.toNat ∧ b.toNat ≤ 0xEF) ∧ others = [anyContinuation, anyContinuation]) ∨
      (b.toNat = 0xF0 ∧ others = [⟨0x90, 0xBF⟩, anyContinuation, anyContinuation]) ∨
      ((0xF1 ≤ b.toNat ∧ b.toNat ≤ 0xF3) ∧
        others = [anyContinuation, anyContinuation, anyContinuation]) ∨
      (b.toNat = 0xF4 ∧ others = [⟨0x80, 0x8F⟩, anyContinuation, anyContinuation]) := by
  have hrow (low high : UInt8) (behind : List Bounds) :
      (∃ first : Bounds, first :: others = ⟨low, high⟩ :: behind ∧ first.Admits b) ↔
        (low.toNat ≤ b.toNat ∧ b.toNat ≤ high.toNat) ∧ others = behind := by
    constructor
    · rintro ⟨first, hfirst, hadmits⟩
      rw [List.cons.injEq] at hfirst
      rw [hfirst.1, Bounds.admits_iff] at hadmits
      exact ⟨hadmits, hfirst.2⟩
    · rintro ⟨hadmits, rfl⟩
      exact ⟨_, rfl, Bounds.admits_iff.mpr hadmits⟩
  have hsame (n : Nat) : (n ≤ b.toNat ∧ b.toNat ≤ n) ↔ b.toNat = n := by omega
  simp only [Leads, characterRows, List.mem_cons, List.not_mem_nil, or_false, or_and_right,
    exists_or, hrow]
  simp [hsame]

theorem fits_cons_iff {bounds : Bounds} {others : List Bounds} {octets : Octets} :
    Fits (bounds :: others) octets ↔
      ∃ b rest, octets = b :: rest ∧ bounds.Admits b ∧ Fits others rest := by
  constructor
  · rintro (_ | ⟨hadmits, hrest⟩)
    exact ⟨_, _, rfl, hadmits, hrest⟩
  · rintro ⟨b, rest, rfl, hadmits, hrest⟩
    exact .cons hadmits hrest

theorem fits_nil_iff {octets : Octets} : Fits [] octets ↔ octets = [] :=
  List.forall₂_nil_left_iff

/-! ## The sequences of the table are encodings -/

theorem val_ofNat {value : Nat}
    (hvalue : value < 0xD800 ∨ (0xDFFF < value ∧ value < 0x110000)) :
    (Char.ofNat value).val.toNat = value := by
  have hvalid : value.isValidChar := hvalue
  have hchar : Char.ofNat value = Char.ofNatAux value hvalid := dif_pos hvalid
  rw [hchar]
  rfl

theorem ofNat_eq {n : Nat} {b : UInt8} (hn : n = b.toNat) : UInt8.ofNat n = b := by
  rw [hn, UInt8.ofNat_toNat]

theorem encodeChar_one {a : UInt8} (ha : a.toNat ≤ 0x7F) :
    String.utf8EncodeChar (Char.ofNat a.toNat) = [a] := by
  unfold String.utf8EncodeChar
  rw [val_ofNat (by omega)]
  simp only [if_pos ha, UInt8.ofNat_toNat]

theorem encodeChar_two {a b : UInt8} {value : Nat}
    (hvalue : value = 64 * (a.toNat - 0xC0) + (b.toNat - 0x80))
    (ha : 0xC2 ≤ a.toNat ∧ a.toNat ≤ 0xDF) (hb : 0x80 ≤ b.toNat ∧ b.toNat ≤ 0xBF) :
    String.utf8EncodeChar (Char.ofNat value) = [a, b] := by
  have hmore : ¬ value ≤ 0x7F := by omega
  have htwo : value ≤ 0x7FF := by omega
  unfold String.utf8EncodeChar
  rw [val_ofNat (by omega)]
  simp only [if_neg hmore, if_pos htwo]
  rw [ofNat_eq (b := a) (by omega), ofNat_eq (b := b) (by omega)]

theorem encodeChar_three {a b c : UInt8} {value : Nat}
    (hvalue : value = 4096 * (a.toNat - 0xE0) + 64 * (b.toNat - 0x80) + (c.toNat - 0x80))
    (ha : 0xE0 ≤ a.toNat ∧ a.toNat ≤ 0xEF) (hb : 0x80 ≤ b.toNat ∧ b.toNat ≤ 0xBF)
    (hc : 0x80 ≤ c.toNat ∧ c.toNat ≤ 0xBF) (hleast : 0x7FF < value)
    (hvalid : value < 0xD800 ∨ 0xDFFF < value) :
    String.utf8EncodeChar (Char.ofNat value) = [a, b, c] := by
  have hone : ¬ value ≤ 0x7F := by omega
  have htwo : ¬ value ≤ 0x7FF := by omega
  have hthree : value ≤ 0xFFFF := by omega
  unfold String.utf8EncodeChar
  rw [val_ofNat (by omega)]
  simp only [if_neg hone, if_neg htwo, if_pos hthree]
  rw [ofNat_eq (b := a) (by omega), ofNat_eq (b := b) (by omega),
    ofNat_eq (b := c) (by omega)]

theorem encodeChar_four {a b c d : UInt8} {value : Nat}
    (hvalue : value = 262144 * (a.toNat - 0xF0) + 4096 * (b.toNat - 0x80) +
      64 * (c.toNat - 0x80) + (d.toNat - 0x80))
    (ha : 0xF0 ≤ a.toNat ∧ a.toNat ≤ 0xF4) (hb : 0x80 ≤ b.toNat ∧ b.toNat ≤ 0xBF)
    (hc : 0x80 ≤ c.toNat ∧ c.toNat ≤ 0xBF) (hd : 0x80 ≤ d.toNat ∧ d.toNat ≤ 0xBF)
    (hleast : 0xFFFF < value) (hmost : value < 0x110000) :
    String.utf8EncodeChar (Char.ofNat value) = [a, b, c, d] := by
  have hone : ¬ value ≤ 0x7F := by omega
  have htwo : ¬ value ≤ 0x7FF := by omega
  have hthree : ¬ value ≤ 0xFFFF := by omega
  unfold String.utf8EncodeChar
  rw [val_ofNat (by omega)]
  simp only [if_neg hone, if_neg htwo, if_neg hthree]
  rw [ofNat_eq (b := a) (by omega), ofNat_eq (b := b) (by omega),
    ofNat_eq (b := c) (by omega), ofNat_eq (b := d) (by omega)]

theorem exists_encodeChar {octets : Octets} (hcharacter : IsCharacter octets) :
    ∃ c, octets = String.utf8EncodeChar c := by
  obtain ⟨hleads, hrest⟩ := hcharacter
  -- The cases are the rows; the bounds of a row keep the value in the range of its length.
  rcases leads_iff.mp hleads with ⟨ha, rfl⟩ | ⟨ha, rfl⟩ | ⟨ha, rfl⟩ | ⟨ha, rfl⟩ | ⟨ha, rfl⟩ |
      ⟨ha, rfl⟩ | ⟨ha, rfl⟩ | ⟨ha, rfl⟩ | ⟨ha, rfl⟩ <;>
    simp only [fits_cons_iff, fits_nil_iff, admits_anyContinuation_iff, Bounds.admits_iff,
      UInt8.reduceToNat] at hrest
  · rw [hrest]
    exact ⟨_, (encodeChar_one ha).symm⟩
  · obtain ⟨b, _, rfl, hb, rfl⟩ := hrest
    exact ⟨_, (encodeChar_two rfl ha hb).symm⟩
  · obtain ⟨b, _, rfl, hb, c, _, rfl, hc, rfl⟩ := hrest
    exact ⟨_, (encodeChar_three rfl (by omega) (by omega) hc (by omega) (by omega)).symm⟩
  · obtain ⟨b, _, rfl, hb, c, _, rfl, hc, rfl⟩ := hrest
    exact ⟨_, (encodeChar_three rfl (by omega) hb hc (by omega) (by omega)).symm⟩
  · obtain ⟨b, _, rfl, hb, c, _, rfl, hc, rfl⟩ := hrest
    exact ⟨_, (encodeChar_three rfl (by omega) (by omega) hc (by omega) (by omega)).symm⟩
  · obtain ⟨b, _, rfl, hb, c, _, rfl, hc, rfl⟩ := hrest
    exact ⟨_, (encodeChar_three rfl (by omega) hb hc (by omega) (by omega)).symm⟩
  · obtain ⟨b, _, rfl, hb, c, _, rfl, hc, d, _, rfl, hd, rfl⟩ := hrest
    exact ⟨_, (encodeChar_four rfl (by omega) (by omega) hc hd (by omega) (by omega)).symm⟩
  · obtain ⟨b, _, rfl, hb, c, _, rfl, hc, d, _, rfl, hd, rfl⟩ := hrest
    exact ⟨_, (encodeChar_four rfl (by omega) hb hc hd (by omega) (by omega)).symm⟩
  · obtain ⟨b, _, rfl, hb, c, _, rfl, hc, d, _, rfl, hd, rfl⟩ := hrest
    exact ⟨_, (encodeChar_four rfl (by omega) (by omega) hc hd (by omega) (by omega)).symm⟩

/-! ## Encodings are in the table -/

theorem leads_two {bits : Nat} (hleast : 2 ≤ bits) (hbits : bits < 0x20) :
    Leads (.ofNat (bits + 0xC0)) [anyContinuation] := by
  rw [leads_iff]
  interval_cases bits <;> decide

theorem leads_three {bits : Nat} (hbits : bits < 0x10) :
    Leads (.ofNat (bits + 0xE0)) [⟨lowOfThree bits, highOfThree bits⟩, anyContinuation] := by
  rw [leads_iff]
  interval_cases bits <;> decide

theorem leads_four {bits : Nat} (hbits : bits ≤ 4) :
    Leads (.ofNat (bits + 0xF0))
      [⟨lowOfFour bits, highOfFour bits⟩, anyContinuation, anyContinuation] := by
  rw [leads_iff]
  interval_cases bits <;> decide

theorem admits_continuation {bits : Nat} (hbits : bits < 0x40) :
    anyContinuation.Admits (continuation bits) := by
  rw [admits_anyContinuation_iff, continuation_toNat hbits]
  omega

theorem isCharacter_encodeChar (c : Char) : IsCharacter (String.utf8EncodeChar c) := by
  have hvalid : c.val.toNat < 0xD800 ∨
      (0xDFFF < c.val.toNat ∧ c.val.toNat < 0x110000) := c.valid
  unfold String.utf8EncodeChar
  generalize c.val.toNat = value at hvalid
  have htail (bits : Nat) : anyContinuation.Admits (continuation (bits % 0x40)) :=
    admits_continuation (Nat.mod_lt _ (by decide))
  by_cases hone : value ≤ 0x7F
  · simp only [if_pos hone]
    have hsmall : (UInt8.ofNat value).toNat ≤ 0x7F := by
      rw [UInt8.toNat_ofNat']
      omega
    have hleads : Leads (.ofNat value) [] := leads_iff.mpr (.inl ⟨hsmall, rfl⟩)
    exact .mk hleads .nil
  · by_cases htwo : value ≤ 0x7FF
    · simp only [if_neg hone, if_pos htwo]
      exact .mk (leads_two (by omega) (by omega)) (.cons (htail _) .nil)
    · by_cases hthree : value ≤ 0xFFFF
      · simp only [if_neg hone, if_neg htwo, if_pos hthree]
        have hbounds := bounds_three (by omega) hthree (by omega)
        rw [← continuation_toNat (by omega), ← Bounds.admits_iff] at hbounds
        exact .mk (leads_three (by omega)) (.cons hbounds (.cons (htail _) .nil))
      · simp only [if_neg hone, if_neg htwo, if_neg hthree]
        have hbounds := bounds_four (by omega) (by omega : value < 0x110000)
        rw [← continuation_toNat (by omega), ← Bounds.admits_iff] at hbounds
        exact .mk (leads_four (by omega))
          (.cons hbounds (.cons (htail _) (.cons (htail _) .nil)))

theorem isCharacter_iff {octets : Octets} :
    IsCharacter octets ↔ ∃ c, octets = String.utf8EncodeChar c := by
  refine ⟨exists_encodeChar, ?_⟩
  rintro ⟨c, rfl⟩
  exact isCharacter_encodeChar c

/-! ## Well-formed octets are encodings -/

theorem wellFormed_encode (text : String) : WellFormed (encode text) := by
  unfold encode
  induction text.toList with
  | nil => exact .nil
  | cons c chars ih =>
      rw [List.flatMap_cons]
      exact .cons (isCharacter_encodeChar c) ih

theorem exists_encode {octets : Octets} (hformed : WellFormed octets) :
    ∃ text, octets = encode text := by
  induction hformed with
  | nil => exact ⟨"", rfl⟩
  | @cons character rest hcharacter hrest ih =>
      obtain ⟨c, rfl⟩ := isCharacter_iff.mp hcharacter
      obtain ⟨text, rfl⟩ := ih
      refine ⟨String.ofList (c :: text.toList), ?_⟩
      simp [encode]

theorem wellFormed_iff {octets : Octets} :
    WellFormed octets ↔ ∃ text, octets = encode text := by
  refine ⟨exists_encode, ?_⟩
  rintro ⟨text, rfl⟩
  exact wellFormed_encode text

/-- What is shown of octets leads back to them exactly if they are well-formed. -/
theorem encode_decode_eq_iff {octets : Octets} :
    encode (decode octets) = octets ↔ WellFormed octets := by
  rw [wellFormed_iff]
  constructor
  · intro hencode
    exact ⟨_, hencode.symm⟩
  · rintro ⟨text, rfl⟩
    rw [decode_encode]

end RawPost.Text
