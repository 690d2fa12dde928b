import InstrumentBench.Text.Listing.Table

/-!
# Listings of texts in messages

Messages show lists and sets of texts with every text in double quotes, so
that blanks and invisible characters can be seen.
-/

namespace InstrumentBench.Text

/-- Whether a character has no visible form of its own. -/
def isHidden (c : Char) : Bool :=
  if 0x20 ≤ c.toNat ∧ c.toNat < 0x7F then false else hiddenSet.contains c.toNat

/-- One character as it stands between the quotes of a listing. -/
def listedChar (c : Char) : List Char :=
  if c = '"' then ['\\', '"']
  else if c = '\\' then ['\\', '\\']
  else if c = '\n' then ['\\', 'n']
  else if c = '\r' then ['\\', 'r']
  else if c = '\t' then ['\\', 't']
  else if c.toNat = 0 then ['\\', '0']
  else if isHidden c then
    ['\\', 'u', '\x7b'] ++ Nat.toDigits 16 c.toNat ++ ['\x7d']
  else [c]

/-- A text in double quotes. -/
def listed (text : String) : String :=
  String.ofList ('"' :: text.toList.flatMap listedChar ++ ['"'])

/-- The texts in double quotes, separated by commas. -/
def listedAll (texts : List String) : String :=
  ", ".intercalate (texts.map listed)

/-- A list of texts in square brackets. -/
def listedList (texts : List String) : String :=
  "[" ++ listedAll texts ++ "]"

/-- A set of texts, given in order, in braces. -/
def listedSet (texts : List String) : String :=
  "\x7b" ++ listedAll texts ++ "\x7d"

end InstrumentBench.Text
