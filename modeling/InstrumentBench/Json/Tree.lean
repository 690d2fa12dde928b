import InstrumentBench.Json.Token
import InstrumentBench.Json.Value

/-!
# JSON trees

A JSON text that follows the grammar is a tree of its tokens.  A tree keeps
what a text says in full: members in order, with repeated keys, numbers and
strings as written.  Reading a part of a tree as a value can still fail: a
number may be out of range, an escaped surrogate may stand alone, and arrays
and objects may be nested too deeply.
-/

namespace InstrumentBench.Json

/-- A JSON text by its grammar. -/
inductive Tree where
  | null
  | bool (value : Bool)
  | number (lexeme : Lexeme)
  | string (units : List StringUnit)
  | array (items : List Tree)
  | object (members : List (List StringUnit × Tree))

namespace Tree

/-- An array or an object that has been opened, with what it holds so far,
nearest first. -/
inductive Frame where
  | items (readBack : List Tree)
  | members (readBack : List (List StringUnit × Tree))
  /-- An object whose last key still lacks its value. -/
  | member (readBack : List (List StringUnit × Tree)) (key : List StringUnit)

/-- What may come next. -/
inductive State where
  | value
  | firstItem
  | firstKey
  | nextKey
  | colon
  | after
  | finished (tree : Tree)

/-- The state after a tree has been completed inside the open frames. -/
def complete? (tree : Tree) : List Frame → Option (State × List Frame)
  | [] => some (.finished tree, [])
  | .items readBack :: frames => some (.after, .items (tree :: readBack) :: frames)
  | .member readBack key :: frames => some (.after, .members ((key, tree) :: readBack) :: frames)
  | .members _ :: _ => none

/-- The state after the first token of a value. -/
def begin? (frames : List Frame) : Token → Option (State × List Frame)
  | .null => complete? .null frames
  | .bool value => complete? (.bool value) frames
  | .number lexeme => complete? (.number lexeme) frames
  | .string units => complete? (.string units) frames
  | .openBracket => some (.firstItem, .items [] :: frames)
  | .openBrace => some (.firstKey, .members [] :: frames)
  | _ => none

/-- The state after a key. -/
def key? (key : List StringUnit) : List Frame → Option (State × List Frame)
  | .members readBack :: frames => some (.colon, .member readBack key :: frames)
  | _ => none

/-- The state after an array or an object has been closed. -/
def close? : Token → List Frame → Option (State × List Frame)
  | .closeBracket, .items readBack :: frames => complete? (.array readBack.reverse) frames
  | .closeBrace, .members readBack :: frames => complete? (.object readBack.reverse) frames
  | _, _ => none

/-- One step of reading. -/
def step? : State × List Frame → Token → Option (State × List Frame)
  | (.value, frames), token => begin? frames token
  | (.firstItem, frames), .closeBracket => close? .closeBracket frames
  | (.firstItem, frames), token => begin? frames token
  | (.firstKey, frames), .closeBrace => close? .closeBrace frames
  | (.firstKey, frames), .string key => key? key frames
  | (.nextKey, frames), .string key => key? key frames
  | (.colon, frames), .colon => some (.value, frames)
  | (.after, .items readBack :: frames), .comma => some (.value, .items readBack :: frames)
  | (.after, .members readBack :: frames), .comma => some (.nextKey, .members readBack :: frames)
  | (.after, frames), token => close? token frames
  | _, _ => none

/-- The tree of a list of tokens. -/
def ofTokens? (tokens : List Token) : Option Tree :=
  match tokens.foldlM step? (.value, []) with
  | some (.finished tree, _) => some tree
  | _ => none

/-- The tree of a text; none if the text is not JSON. -/
def read? (text : String) : Option Tree := do
  ofTokens? (← Token.all? text)

/-- The greatest depth to which arrays and objects may be nested. -/
def maxDepth : Nat := 127

/-- The text of a written string. -/
def text? (units : List StringUnit) : Option String :=
  (decodeUnits units).map String.ofList

mutual

/-- The value of a tree whose arrays and objects nest at most `room` deep.  The
last of several members with one key counts, and members are put in the order
of their keys. -/
def value? (room : Nat) : Tree → Option Value
  | .null => some .null
  | .bool value => some (.bool value)
  | .number lexeme => (Number.ofLexeme? lexeme).map .number
  | .string units => (text? units).map .string
  | .array items =>
    match room with
    | 0 => none
    | room + 1 => (itemValues? room items).map .array
  | .object members =>
    match room with
    | 0 => none
    | room + 1 => (memberValues? room members).map fun ms => .object (Value.sortMembers ms)

/-- The values of the items of an array. -/
def itemValues? (room : Nat) : List Tree → Option (List Value)
  | [] => some []
  | item :: rest => do
    return (← value? room item) :: (← itemValues? room rest)

/-- The values of the members of an object. -/
def memberValues? (room : Nat) :
    List (List StringUnit × Tree) → Option (List (String × Value))
  | [] => some []
  | (key, tree) :: rest => do
    return (← text? key, ← value? room tree) :: (← memberValues? room rest)

end

end Tree

/-- The value of a JSON text. -/
def Value.read? (text : String) : Option Value := do
  (← Tree.read? text).value? Tree.maxDepth

end InstrumentBench.Json
