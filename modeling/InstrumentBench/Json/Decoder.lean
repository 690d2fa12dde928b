import InstrumentBench.Bindings
import InstrumentBench.Json.Tree

/-!
# Decoding documents

Decoders read a tree as a value of a domain type.  A record may be given as an
object, whose unknown members are skipped unread, or as an array of its fields
in order; no field may be given twice.  What is skipped need only follow the
grammar.
-/

namespace InstrumentBench.Json

/-- Reads a tree whose arrays and objects nest at most `room` deep. -/
abbrev Decoder (α : Type) := (room : Nat) → Tree → Option α

/-- A field of a record, as found in a document. -/
inductive Field where
  | given (tree : Tree)
  /-- An object without the field. -/
  | omitted
  /-- An array that ends before the field. -/
  | beyond

namespace Decoder

variable {α : Type}

/-- A string. -/
def string : Decoder String := fun _ tree =>
  match tree with
  | .string units => Tree.text? units
  | _ => none

/-- A truth value. -/
def bool : Decoder Bool := fun _ tree =>
  match tree with
  | .bool value => some value
  | _ => none

/-- A natural number below `2 ^ bits`, written as an integer. -/
def word (bits : Nat) : Decoder Nat := fun _ tree =>
  match tree with
  | .number lexeme =>
    match Number.ofLexeme? lexeme with
    | some (.integer value) =>
      if 0 ≤ value ∧ value.toNat < Nat.pow 2 bits then some value.toNat else none
    | _ => none
  | _ => none

/-- A value that may be `null`. -/
def nullable (decode : Decoder α) : Decoder (Option α) := fun room tree =>
  match tree with
  | .null => some none
  | _ => (decode room tree).map some

/-- An array of values. -/
def list (decode : Decoder α) : Decoder (List α) := fun room tree =>
  match room, tree with
  | room + 1, .array items => items.mapM (decode room)
  | _, _ => none

/-- An object of values by their keys; the last of several with one key
counts. -/
def bindings (decode : Decoder α) : Decoder (Bindings α) := fun room tree =>
  match room, tree with
  | room + 1, .object members => do
    let entries ← members.mapM fun (key, tree) => do
      return (← Tree.text? key, ← decode room tree)
    return Bindings.ofList entries
  | _, _ => none

/-- One of several names, given as a string or as the only key of an object
whose value is `null`. -/
def oneOf (names : List (String × α)) : Decoder α := fun room tree =>
  match room, tree with
  | _, .string units => do names.lookup (← Tree.text? units)
  | _ + 1, .object [(key, .null)] => do names.lookup (← Tree.text? key)
  | _, _ => none

/-- The members of an object by their keys. -/
def keyed? (members : List (List StringUnit × Tree)) : Option (List (String × Tree)) :=
  members.mapM fun (key, tree) => do return (← Tree.text? key, tree)

/-- The only member with a key; none if there are several. -/
def field? (members : List (String × Tree)) (name : String) : Option Field :=
  match members.filter (·.1 = name) with
  | [] => some .omitted
  | [(_, tree)] => some (.given tree)
  | _ => none

/-- The fields of a record given as an array, as many as there are names. -/
def positional? : (names : List String) → List Tree → Option (List Field)
  | [], [] => some []
  | [], _ :: _ => none
  | _ :: names, [] => (positional? names []).map (.beyond :: ·)
  | _ :: names, item :: items => (positional? names items).map (.given item :: ·)

/-- The named fields of a record, in the order of the names, and the room that
is left inside it. -/
def fields? (names : List String) (room : Nat) (tree : Tree) : Option (Nat × List Field) :=
  match room, tree with
  | room + 1, .object members => do
    let members ← keyed? members
    return (room, ← names.mapM (field? members))
  | room + 1, .array items => do
    return (room, ← positional? names items)
  | _, _ => none

/-- A field that must be given. -/
def required (decode : Decoder α) (room : Nat) : Field → Option α
  | .given tree => decode room tree
  | _ => none

/-- A field that may be left out of an object, or be `null`. -/
def optional (decode : Decoder α) (room : Nat) : Field → Option (Option α)
  | .given tree => nullable decode room tree
  | .omitted => some none
  | .beyond => none

/-- A field with a default. -/
def defaulted (default : α) (decode : Decoder α) (room : Nat) : Field → Option α
  | .given tree => decode room tree
  | _ => some default

end Decoder

/-- A value of a domain type read from a text. -/
def decodeText? {α : Type} (decode : Decoder α) (text : String) : Option α := do
  decode Tree.maxDepth (← Tree.read? text)

end InstrumentBench.Json
