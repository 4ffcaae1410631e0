import RawPost.Text.Printable

/-!
# Quoted texts

A quoted text stands between two equal quotes and shows every character: the quote itself and the
backslash after a backslash, line breaks and tabs by letters, and what cannot be printed by its code
point.  Single quotes are taken unless the text has a single quote and no double one.
-/

namespace RawPost.Text

def hexDigits (width n : Nat) : List Char :=
  match width with
  | 0 => []
  | width + 1 => hexDigits width (n / 16) ++ [Nat.digitChar (n % 16)]

/-- A character by its code point, in the shortest of the three widths that holds it. -/
def codePointEscape (c : Char) : List Char :=
  if c.toNat < 0x100 then
    '\\' :: 'x' :: hexDigits 2 c.toNat
  else if c.toNat < 0x10000 then
    '\\' :: 'u' :: hexDigits 4 c.toNat
  else
    '\\' :: 'U' :: hexDigits 8 c.toNat

/-- One character inside quotes; `isShown` says which characters may stand for themselves. -/
def quotedChar (isShown : Char → Bool) (mark c : Char) : List Char :=
  if c = mark ∨ c = '\\' then
    ['\\', c]
  else if c = '\t' then
    ['\\', 't']
  else if c = '\n' then
    ['\\', 'n']
  else if c = '\r' then
    ['\\', 'r']
  else if isShown c then
    [c]
  else
    codePointEscape c

def quoteMark (text : List Char) : Char :=
  if text.contains '\'' && !text.contains '"' then '"' else '\''

def quotedChars (isShown : Char → Bool) (text : List Char) : List Char :=
  let mark := quoteMark text
  mark :: text.flatMap (quotedChar isShown mark) ++ [mark]

def quote (text : String) : String :=
  String.ofList (quotedChars isPrintable text.toList)

def quoteAscii (text : String) : String :=
  String.ofList (quotedChars (fun c => isPrintable c && c.toNat < 0x80) text.toList)

end RawPost.Text
