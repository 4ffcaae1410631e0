/-!
# White space

White space is the property `White_Space` of Unicode together with the four information separators
U+001C to U+001F.  Numerals are less generous: around a number the information separators do not count.
-/

namespace RawPost.Text

/-- The characters of the property `White_Space`. -/
def isSpace (c : Char) : Bool :=
  let n := c.toNat
  (0x09 ≤ n && n ≤ 0x0D) || n == 0x20 || n == 0x85 || n == 0xA0 || n == 0x1680 ||
    (0x2000 ≤ n && n ≤ 0x200A) || n == 0x2028 || n == 0x2029 || n == 0x202F || n == 0x205F ||
    n == 0x3000

def isInformationSeparator (c : Char) : Bool :=
  0x1C ≤ c.toNat && c.toNat ≤ 0x1F

def isBlank (c : Char) : Bool :=
  isSpace c || isInformationSeparator c

def trimBoth (drops : Char → Bool) (text : List Char) : List Char :=
  ((text.dropWhile drops).reverse.dropWhile drops).reverse

def strip (text : String) : String :=
  String.ofList (trimBoth isBlank text.toList)

/-- Lower case of the letters of ASCII; all words that are compared without regard to case are ASCII. -/
def lower (text : String) : String :=
  String.ofList (text.toList.map Char.toLower)

end RawPost.Text
