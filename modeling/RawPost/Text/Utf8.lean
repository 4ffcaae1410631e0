/-!
# Text as octets

Encoding is UTF-8.  Decoding reads any octets: a maximal part of a malformed sequence, that is a lead
octet with as many continuations as may still follow it, or an octet that cannot begin a character, is
shown as one replacement character, and reading goes on with the octet that did not fit.

The reader keeps the character it is in the middle of: the bits read so far, how many octets are still to
come, and the bounds of the next one.  The bounds after the lead octets E0, ED, F0 and F4 leave out
overlong forms, surrogates and code points above U+10FFFF; later continuations are all of 80 to BF.
-/

namespace RawPost

abbrev Octets := List UInt8

namespace Text

def encode (text : String) : Octets :=
  text.toList.flatMap String.utf8EncodeChar

def replacement : Char := '\uFFFD'

structure Unfinished where
  bits : Nat
  missing : Nat
  low : UInt8
  high : UInt8
  deriving DecidableEq, Repr

inductive Begun where
  | whole (c : Char)
  | unfinished (rest : Unfinished)
  deriving DecidableEq, Repr

def begin (b : UInt8) : Begun :=
  if b < 0x80 then .whole (Char.ofNat b.toNat)
  else if b < 0xC2 then .whole replacement
  else if b < 0xE0 then .unfinished ⟨b.toNat - 0xC0, 1, 0x80, 0xBF⟩
  else if b = 0xE0 then .unfinished ⟨0, 2, 0xA0, 0xBF⟩
  else if b = 0xED then .unfinished ⟨0xD, 2, 0x80, 0x9F⟩
  else if b < 0xF0 then .unfinished ⟨b.toNat - 0xE0, 2, 0x80, 0xBF⟩
  else if b = 0xF0 then .unfinished ⟨0, 3, 0x90, 0xBF⟩
  else if b < 0xF4 then .unfinished ⟨b.toNat - 0xF0, 3, 0x80, 0xBF⟩
  else if b = 0xF4 then .unfinished ⟨4, 3, 0x80, 0x8F⟩
  else .whole replacement

def Unfinished.extend (u : Unfinished) (b : UInt8) : Begun :=
  let bits := 64 * u.bits + (b.toNat - 0x80)
  if u.missing ≤ 1 then
    .whole (Char.ofNat bits)
  else
    .unfinished ⟨bits, u.missing - 1, 0x80, 0xBF⟩

def Unfinished.accepts (u : Unfinished) (b : UInt8) : Bool :=
  u.low ≤ b && b ≤ u.high

/-- What is shown at once of something begun, and what stays unfinished. -/
def Begun.split : Begun → List Char × Option Unfinished
  | .whole c => ([c], none)
  | .unfinished u => ([], some u)

def advance (state : Option Unfinished) (b : UInt8) : List Char × Option Unfinished :=
  match state with
  | none => (begin b).split
  | some u =>
    if u.accepts b then
      (u.extend b).split
    else
      let (shown, state) := (begin b).split
      (replacement :: shown, state)

def finish : Option Unfinished → List Char
  | none => []
  | some _ => [replacement]

/-- Reads octets in the middle of a character or at the beginning of one. -/
def decodeFrom (state : Option Unfinished) : Octets → List Char
  | [] => finish state
  | b :: rest =>
    let (shown, state) := advance state b
    shown ++ decodeFrom state rest

def decode (octets : Octets) : String :=
  String.ofList (decodeFrom none octets)

end Text

end RawPost
