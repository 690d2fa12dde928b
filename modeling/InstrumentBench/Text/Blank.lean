/-!
# Blank characters and trimming

The cells of a workbook, nicknames, command names and script lines are compared
after the blanks at both ends are removed.  Blank means the Unicode property
`White_Space`: its 25 code points and no others, so a zero-width space and a
byte-order mark are ordinary characters.
-/

namespace InstrumentBench.Text

/-- The 25 code points of the property `White_Space`. -/
def isBlank (c : Char) : Bool :=
  let n := c.toNat
  (9 ≤ n && n ≤ 13) || n == 0x20 || n == 0x85 || n == 0xA0 || n == 0x1680 ||
    (0x2000 ≤ n && n ≤ 0x200A) || n == 0x2028 || n == 0x2029 || n == 0x202F ||
    n == 0x205F || n == 0x3000

/-- The text without the blanks it starts with. -/
def trimStart (text : List Char) : List Char :=
  text.dropWhile isBlank

/-- The text without the characters satisfying `drop` that it ends with. -/
def trimEndOf (drop : Char → Bool) (text : List Char) : List Char :=
  (text.reverse.dropWhile drop).reverse

/-- The text without the blanks it ends with. -/
def trimEnd (text : List Char) : List Char :=
  trimEndOf isBlank text

/-- The text without the blanks at both of its ends. -/
def trim (text : List Char) : List Char :=
  trimEnd (trimStart text)

/-- A string without the blanks at both of its ends. -/
def trimmed (text : String) : String :=
  String.ofList (trim text.toList)

/-- Whether a string consists of blanks only; the empty string does. -/
def allBlank (text : String) : Bool :=
  text.toList.all isBlank

end InstrumentBench.Text
