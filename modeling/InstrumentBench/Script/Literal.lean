import InstrumentBench.Text.Hex

/-!
# String literals

The literals of replay scripts: a text in double quotes, in which quotes,
backslashes and control characters are escaped.  A literal therefore never
contains a line break.
-/

namespace InstrumentBench.Literal

/-- Why a text does not start with a literal. -/
inductive Fault where
  | missing
  | unterminatedEscape
  | invalidHex (digits : String)
  | unsupportedEscape (letter : Char)
  | unterminated
  deriving DecidableEq, Repr

def Fault.message : Fault → String
  | missing => "expected a string literal"
  | unterminatedEscape => "unterminated escape"
  | invalidHex digits => "invalid \\x escape '\\x" ++ digits ++ "'"
  | unsupportedEscape letter => "unsupported escape '\\" ++ letter.toString ++ "'"
  | unterminated => "unterminated string literal"

/-- Whether a character is a control character: the 65 code points below the
space and from U+007F to U+009F. -/
def isControl (c : Char) : Bool :=
  c.toNat < 0x20 || (0x7F ≤ c.toNat && c.toNat ≤ 0x9F)

/-- One character as it stands inside a literal. -/
def encodeChar (c : Char) : List Char :=
  if c = '\\' then ['\\', '\\']
  else if c = '"' then ['\\', '"']
  else if c = '\n' then ['\\', 'n']
  else if c = '\r' then ['\\', 'r']
  else if c = '\t' then ['\\', 't']
  else if isControl c then ['\\', 'x', Text.hexDigit (c.toNat / 16), Text.hexDigit (c.toNat % 16)]
  else [c]

def encode (text : List Char) : List Char :=
  '"' :: text.flatMap encodeChar ++ ['"']

/-- The literal for a string. -/
def quote (text : String) : String :=
  String.ofList (encode text.toList)

/-- The character that a one-letter escape stands for. -/
def escape? (letter : Char) : Option Char :=
  if letter = '\\' ∨ letter = '"' then some letter
  else if letter = 'n' then some '\n'
  else if letter = 'r' then some '\r'
  else if letter = 't' then some '\t'
  else none

/-- The character with a code of two hexadecimal digits. -/
def hexChar? (high low : Char) : Option Char := do
  return Char.ofNat ((← Text.hexValue? high) * 16 + (← Text.hexValue? low))

/-- The text up to the closing quote, and what stands after that. -/
def decodeBody : List Char → Except Fault (List Char × List Char)
  | [] => .error .unterminated
  | '"' :: rest => .ok ([], rest)
  | ['\\'] => .error .unterminatedEscape
  | '\\' :: 'x' :: high :: low :: rest =>
    match hexChar? high low with
    | none => .error (.invalidHex (String.ofList [high, low]))
    | some c => do
      let (text, after) ← decodeBody rest
      return (c :: text, after)
  | '\\' :: 'x' :: rest => .error (.invalidHex (String.ofList rest))
  | '\\' :: letter :: rest =>
    match escape? letter with
    | none => .error (.unsupportedEscape letter)
    | some c => do
      let (text, after) ← decodeBody rest
      return (c :: text, after)
  | c :: rest => do
    let (text, after) ← decodeBody rest
    return (c :: text, after)

/-- The text of the literal that a text starts with, and what stands after
it. -/
def decode : List Char → Except Fault (List Char × List Char)
  | '"' :: rest => decodeBody rest
  | _ => .error .missing

end InstrumentBench.Literal
