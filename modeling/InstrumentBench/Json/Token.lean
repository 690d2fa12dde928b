import InstrumentBench.Json.Number
import InstrumentBench.Text.Hex

/-!
# JSON tokens

The first pass over a JSON text cuts it into marks, words, numbers and
strings.  A string is kept as the units it is written with, since whether its
surrogate escapes pair up matters only where the string is used.
-/

namespace InstrumentBench.Json

/-- A unit of a written string: a character, or a numeric escape. -/
inductive StringUnit where
  | char (c : Char)
  | code (unit : Nat)
  deriving DecidableEq, Repr

/-- The text of a written string; none if an escaped surrogate stands alone. -/
def decodeUnits : List StringUnit → Option (List Char)
  | [] => some []
  | .char c :: rest => (decodeUnits rest).map (c :: ·)
  | .code unit :: rest =>
    if 0xD800 ≤ unit ∧ unit < 0xDC00 then
      match rest with
      | .code low :: rest =>
        if 0xDC00 ≤ low ∧ low < 0xE000 then
          (decodeUnits rest).map
            (Char.ofNat (0x10000 + (unit - 0xD800) * 0x400 + (low - 0xDC00)) :: ·)
        else
          none
      | _ => none
    else if 0xDC00 ≤ unit ∧ unit < 0xE000 then none
    else (decodeUnits rest).map (Char.ofNat unit :: ·)

/-- The pieces of a JSON text. -/
inductive Token where
  | openBrace
  | closeBrace
  | openBracket
  | closeBracket
  | comma
  | colon
  | null
  | bool (value : Bool)
  | number (lexeme : Lexeme)
  | string (units : List StringUnit)
  deriving DecidableEq, Repr

namespace Token

/-- Where a scan stands: between tokens, or inside one, with what has been read
of it, nearest first. -/
inductive Mode where
  | between
  | word (readBack : List Char)
  | number (readBack : List Char)
  | string (readBack : List StringUnit)
  deriving DecidableEq, Repr

/-- The four blanks that may stand between tokens. -/
def isGap (c : Char) : Bool :=
  c = ' ' || c = '\n' || c = '\r' || c = '\t'

/-- A letter of the words `true`, `false` and `null`. -/
def isWordChar (c : Char) : Bool :=
  'a' ≤ c && c ≤ 'z'

/-- A character that continues a number. -/
def isNumberChar (c : Char) : Bool :=
  Decimal.isDigit c || c = '-' || c = '+' || c = '.' || c = 'e' || c = 'E'

/-- The token of a whole word. -/
def ofWord? (word : List Char) : Option Token :=
  if word = "null".toList then some .null
  else if word = "true".toList then some (.bool true)
  else if word = "false".toList then some (.bool false)
  else none

/-- What the first character after a token starts: a token of its own, or a
longer one. -/
def start? (c : Char) : Option (List Token × Mode) :=
  if isGap c then some ([], .between)
  else if c = '\x7b' then some ([openBrace], .between)
  else if c = '\x7d' then some ([closeBrace], .between)
  else if c = '[' then some ([openBracket], .between)
  else if c = ']' then some ([closeBracket], .between)
  else if c = ',' then some ([comma], .between)
  else if c = ':' then some ([colon], .between)
  else if c = '"' then some ([], .string [])
  else if c = '-' ∨ Decimal.isDigit c then some ([], .number [c])
  else if isWordChar c then some ([], .word [c])
  else none

/-- The code unit that four hexadecimal digits spell. -/
def unit? (a b c d : Char) : Option Nat := do
  let high := (← Text.hexValue? a) * 16 + (← Text.hexValue? b)
  let low := (← Text.hexValue? c) * 16 + (← Text.hexValue? d)
  return high * 256 + low

/-- The character that a one-letter escape stands for. -/
def escape? (c : Char) : Option Char :=
  if c = '"' ∨ c = '\\' ∨ c = '/' then some c
  else if c = 'b' then some '\x08'
  else if c = 'f' then some '\x0c'
  else if c = 'n' then some '\n'
  else if c = 'r' then some '\r'
  else if c = 't' then some '\t'
  else none

/-- The tokens of a text from a mode on; none where it cannot be cut into
tokens. -/
def scan : Mode → List Char → Option (List Token)
  | .between, [] => some []
  | .between, c :: rest => do
    let (tokens, mode) ← start? c
    return tokens ++ (← scan mode rest)
  | .word readBack, [] => do
    return [← ofWord? readBack.reverse]
  | .word readBack, c :: rest =>
    if isWordChar c then scan (.word (c :: readBack)) rest
    else do
      let token ← ofWord? readBack.reverse
      let (tokens, mode) ← start? c
      return token :: tokens ++ (← scan mode rest)
  | .number readBack, [] => do
    return [.number (← Lexeme.read? readBack.reverse)]
  | .number readBack, c :: rest =>
    if isNumberChar c then scan (.number (c :: readBack)) rest
    else do
      let lexeme ← Lexeme.read? readBack.reverse
      let (tokens, mode) ← start? c
      return .number lexeme :: tokens ++ (← scan mode rest)
  | .string _, [] => none
  | .string readBack, '"' :: rest => do
    return .string readBack.reverse :: (← scan .between rest)
  | .string readBack, '\\' :: 'u' :: a :: b :: c :: d :: rest => do
    scan (.string (.code (← unit? a b c d) :: readBack)) rest
  | .string readBack, '\\' :: c :: rest => do
    scan (.string (.char (← escape? c) :: readBack)) rest
  | .string readBack, c :: rest =>
    if c.toNat < 32 ∨ c = '\\' then none else scan (.string (.char c :: readBack)) rest

/-- The tokens of a whole text. -/
def all? (text : String) : Option (List Token) :=
  scan .between text.toList

end Token

end InstrumentBench.Json
