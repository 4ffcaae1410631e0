import RawPost.Number.Integer
import RawPost.Text.Quoted
import RawPost.Text.Utf8

/-!
# Texts that need not be well formed

A text from outside is made of code points.  An octet of it that could not be decoded has become a surrogate
without a partner, which is no character and has no encoding.  Encoding such a text stops at the first
surrogate and reports the run of surrogates that begins there.
-/

namespace RawPost.Text

/-- A character, or a surrogate by its place among the surrogates. -/
inductive CodePoint where
  | character (c : Char)
  | surrogate (place : Fin 0x800)
  deriving DecidableEq, Repr

def CodePoint.isSurrogate : CodePoint → Bool
  | .character _ => false
  | .surrogate _ => true

def CodePoint.octets : CodePoint → Octets
  | .character c => String.utf8EncodeChar c
  | .surrogate _ => []

abbrev CodePoints := List CodePoint

def codePoints (text : String) : CodePoints :=
  text.toList.map .character

/-- A run of surrogates: where it begins, its first surrogate, and how many follow that one. -/
structure Unencodable where
  position : Nat
  first : Fin 0x800
  others : Nat
  deriving DecidableEq, Repr

def Unencodable.message (run : Unencodable) : String :=
  let place :=
    if run.others = 0 then
      " '\\u" ++ String.ofList (hexDigits 4 (0xD800 + run.first)) ++ "' in position " ++
        Number.integerText run.position
    else
      "s in position " ++ Number.integerText run.position ++ "-" ++
        Number.integerText (run.position + run.others : Nat)
  "'utf-8' codec can't encode character" ++ place ++ ": surrogates not allowed"

/-- The first run of surrogates in a text. -/
def surrogates? (text : CodePoints) : Option Unencodable :=
  match text.dropWhile (!·.isSurrogate) with
  | .surrogate first :: rest =>
    some {
      position := (text.takeWhile (!·.isSurrogate)).length
      first
      others := (rest.takeWhile CodePoint.isSurrogate).length }
  | _ => none

/-- The octets of a text, unless there is a surrogate in it. -/
def encodePoints (text : CodePoints) : Except Unencodable Octets :=
  match surrogates? text with
  | some run => .error run
  | none => .ok (text.flatMap CodePoint.octets)

end RawPost.Text
