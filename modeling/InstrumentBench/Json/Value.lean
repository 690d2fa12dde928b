import InstrumentBench.Json.Number

/-!
# JSON values

The value of a JSON text.  The members of an object are a list, so an encoder
decides their order; `sorted` puts them in the order of their keys.
-/

namespace InstrumentBench.Json

/-- A JSON value. -/
inductive Value where
  | null
  | bool (value : Bool)
  | number (value : Number)
  | string (text : String)
  | array (items : List Value)
  | object (members : List (String × Value))
  deriving Repr

namespace Value

/-- A natural number as a value. -/
def nat (number : Nat) : Value :=
  .number (.integer number)

/-- A list of strings as a value. -/
def strings (texts : List String) : Value :=
  .array (texts.map .string)

/-- A value that may be missing; `null` stands for a missing one. -/
def option {α : Type} (encode : α → Value) : Option α → Value
  | none => .null
  | some value => encode value

/-- Inserts a member at the place of its key; it replaces one with that key. -/
def insertMember (key : String) (value : Value) :
    List (String × Value) → List (String × Value)
  | [] => [(key, value)]
  | head :: rest =>
    if key < head.1 then (key, value) :: head :: rest
    else if key = head.1 then (key, value) :: rest
    else head :: insertMember key value rest

/-- The members in the order of their keys, the last one of each key. -/
def sortMembers (members : List (String × Value)) : List (String × Value) :=
  members.foldl (fun sorted member => insertMember member.1 member.2 sorted) []

mutual

/-- The value with the members of all objects in the order of their keys. -/
def sorted : Value → Value
  | .null => .null
  | .bool value => .bool value
  | .number value => .number value
  | .string text => .string text
  | .array items => .array (sortedItems items)
  | .object members => .object (sortMembers (sortedMembers members))

/-- The items of an array, each with its members in order. -/
def sortedItems : List Value → List Value
  | [] => []
  | item :: rest => sorted item :: sortedItems rest

/-- The members of an object with each value put in order. -/
def sortedMembers : List (String × Value) → List (String × Value)
  | [] => []
  | (key, value) :: rest => (key, sorted value) :: sortedMembers rest

end

end Value

end InstrumentBench.Json
