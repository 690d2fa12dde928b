import InstrumentBench.Text.Blank
import InstrumentBench.Text.Lowercase
import InstrumentBench.Text.Split

/-!
# Instruments

An instrument is known by the resource it is reached through, and by the
vendor, the model and the serial number it reports about itself.
-/

namespace InstrumentBench

/-- How a resource is driven. -/
inductive DeviceKind where
  | visa
  /-- A serial port at 115200 baud, lines ended by a line feed. -/
  | serial
  deriving DecidableEq, Repr

namespace DeviceKind

def label : DeviceKind → String
  | visa => "VISA"
  | serial => "SERIAL_115200_LF"

/-- Resources whose name starts with `ASRL`, in any case, are serial ports. -/
def ofResource (resource : String) : DeviceKind :=
  let start := (Text.trim resource.toList).take 4
  if start.map Char.toUpper = ['A', 'S', 'R', 'L'] then serial else visa

end DeviceKind

/-- What an instrument reports about itself. -/
structure Identity where
  vendor : String
  model : String
  serial : String
  deriving DecidableEq, Repr

/-- Whether two names are the same, blanks around them and the case of letters
apart. -/
def sameName (first second : String) : Bool :=
  Text.lowercased (Text.trimmed first) = Text.lowercased (Text.trimmed second)

namespace Identity

/-- The shortest reply that can carry a vendor and a model. -/
def minReply : Nat := 9

/-- The pieces between blanks that are not empty; `readBack` is the piece being
read, nearest first. -/
def wordsFrom (readBack : List Char) : List Char → List (List Char)
  | [] => if readBack = [] then [] else [readBack.reverse]
  | c :: rest =>
    if Text.isBlank c then
      if readBack = [] then wordsFrom [] rest else readBack.reverse :: wordsFrom [] rest
    else wordsFrom (c :: readBack) rest

/-- The pieces of a text between commas, trimmed, empty ones left out. -/
def commaParts (text : List Char) : List (List Char) :=
  ((Text.fields ',' text).map Text.trim).filter (· ≠ [])

/-- The parts of a reply: between commas if there are at least three of them,
else between blanks. -/
def parts (reply : List Char) : List (List Char) :=
  if 3 ≤ reply.count ',' then commaParts reply else wordsFrom [] reply

/-- The identity in a reply to `*IDN?`.  The first part is the vendor, the
second the model, and the others make up the serial number. -/
def read? (reply : String) : Option Identity :=
  let text := Text.trim reply.toList
  if text.length < minReply then none
  else
    match parts text with
    | vendor :: model :: others =>
      some ⟨String.ofList vendor, String.ofList model,
        " ".intercalate (others.map String.ofList)⟩
    | _ => none

/-- Whether two identities have the same vendor, model and serial number. -/
def matchesName (identity other : Identity) : Bool :=
  sameName identity.vendor other.vendor && sameName identity.model other.model &&
    sameName identity.serial other.serial

end Identity

/-- An instrument on the bench. -/
structure Instrument where
  resource : String
  kind : DeviceKind
  identity : Identity
  nickname : Option String
  deriving DecidableEq, Repr

namespace Instrument

/-- An instrument without a nickname; its kind follows from its resource. -/
def ofIdentity (resource : String) (identity : Identity) : Instrument :=
  ⟨resource, DeviceKind.ofResource resource, identity, none⟩

/-- The nickname if there is one, else the resource. -/
def label (instrument : Instrument) : String :=
  instrument.nickname.getD instrument.resource

/-- Whether the instrument goes by a nickname. -/
def answersTo (instrument : Instrument) (name : String) : Bool :=
  match instrument.nickname with
  | some nickname => sameName nickname name
  | none => false

end Instrument

end InstrumentBench
