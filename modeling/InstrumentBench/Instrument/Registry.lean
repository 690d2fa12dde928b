import InstrumentBench.Instrument.Basic

/-!
# Registries

The instruments known to a session, in the order in which their resources were
first registered.  An instrument is looked up by its nickname, which ignores
case, or by the exact name of its resource.
-/

namespace InstrumentBench

/-- The instruments known, in order. -/
structure Registry where
  instruments : List Instrument
  deriving DecidableEq, Repr

namespace Registry

def empty : Registry := ⟨[]⟩

/-- Puts an instrument in place of the first one with its resource, or at the
end.  One that brings no nickname takes over the nickname it replaces. -/
def place (instrument : Instrument) : List Instrument → List Instrument
  | [] => [instrument]
  | head :: rest =>
    if head.resource = instrument.resource then
      { instrument with nickname := instrument.nickname.or head.nickname } :: rest
    else
      head :: place instrument rest

/-- Registers an instrument under its resource. -/
def register (registry : Registry) (instrument : Instrument) : Registry :=
  ⟨place instrument registry.instruments⟩

/-- The instruments after the first one with an identity, if it is still to come,
has been given a nickname; every other one that goes by it loses it. -/
def rename (nickname : String) (identity : Identity) (bound : Bool) :
    List Instrument → List Instrument
  | [] => []
  | head :: rest =>
    if !bound && head.identity.matchesName identity then
      { head with nickname := if nickname = "" then none else some nickname } ::
        rename nickname identity true rest
    else
      (if head.answersTo nickname then { head with nickname := none } else head) ::
        rename nickname identity bound rest

/-- Whether some instrument has an identity. -/
def knows (registry : Registry) (identity : Identity) : Bool :=
  registry.instruments.any (·.identity.matchesName identity)

/-- Gives a nickname to the first instrument with an identity; a blank nickname
takes its nickname away.  None if there is no such instrument. -/
def setNickname? (registry : Registry) (nickname : String) (identity : Identity) :
    Option Registry :=
  if registry.knows identity then
    some ⟨rename (Text.trimmed nickname) identity false registry.instruments⟩
  else
    none

/-- The first instrument that goes by a name, else the first whose resource is
exactly the name; blanks around the name do not count. -/
def find? (registry : Registry) (name : String) : Option Instrument :=
  (registry.instruments.find? (·.answersTo (Text.trimmed name))).or
    (registry.instruments.find? (·.resource = Text.trimmed name))

end Registry

end InstrumentBench
