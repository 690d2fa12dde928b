import InstrumentBench.Bindings
import InstrumentBench.Command.Direction
import InstrumentBench.Instrument.Registry

/-!
# Links

The link to the instruments.  A session drives any `Transport`.  The loopback
link keeps a log of what it is sent and answers queries from a script of
replies.  A refused resource cannot be reached at all; what is sent to it does
not appear in the log.
-/

namespace InstrumentBench

/-- Why nothing came back from an instrument. -/
inductive LinkError where
  | unreachable (resource : String)
  | noResponse (resource command : String)
  /-- A failure of the link itself. -/
  | io (resource reason : String)
  | unknownIdentity (resource response : String)
  deriving DecidableEq, Repr

namespace LinkError

/-- The error as shown to the operator. -/
def message : LinkError → String
  | unreachable resource => "cannot open '" ++ resource ++ "'"
  | noResponse resource command =>
    "no response from '" ++ resource ++ "' to '" ++ command ++ "'"
  | io resource reason => "I/O error on '" ++ resource ++ "': " ++ reason
  | unknownIdentity resource response =>
    "'" ++ resource ++ "' returned an unrecognized identity: '" ++ response ++ "'"

end LinkError

/-- A command that a link has been sent. -/
structure Sent where
  resource : String
  direction : Direction
  text : String
  deriving DecidableEq, Repr

/-- A link to the instruments.  Every call may change it, whether or not it
succeeds. -/
class Transport (channel : Type) where
  /-- Sends a setting to a resource. -/
  write : channel → (resource text : String) → Except LinkError Unit × channel
  /-- Sends a query to a resource; it brings back the reply. -/
  query : channel → (resource text : String) → Except LinkError String × channel

/-- Sends a command; only a query brings back a reply. -/
def Transport.send {channel : Type} [Transport channel] (link : channel) (resource : String)
    (direction : Direction) (text : String) : Except LinkError (Option String) × channel :=
  match direction with
  | .get =>
    let (outcome, link) := query link resource text
    (outcome.map some, link)
  | .set =>
    let (outcome, link) := write link resource text
    (outcome.map fun _ => none, link)

/-- A link whose replies can be scripted while it is in use. -/
class Scripted (channel : Type) extends Transport channel where
  /-- From now on a query has a reply. -/
  respond : channel → (command response : String) → channel
  /-- From now on everything sent to a resource fails. -/
  refuse : channel → (resource : String) → channel

/-- A loopback link. -/
structure Link where
  responses : Bindings String
  /-- The reply to queries that have none of their own. -/
  default : Option String
  refused : List String
  /-- What has been sent, first to last. -/
  sent : List Sent

namespace Link

/-- A link without scripted replies. -/
def ofDefault (default : Option String) : Link := ⟨.empty, default, [], []⟩

/-- Scripts the reply to a query. -/
def respond (link : Link) (command response : String) : Link :=
  { link with responses := link.responses.bind command response }

/-- Makes everything sent to a resource fail. -/
def refuse (link : Link) (resource : String) : Link :=
  { link with refused := resource :: link.refused }

/-- The reply to a query. -/
def reply? (link : Link) (text : String) : Option String :=
  (link.responses.find? text).or link.default

/-- Takes a command, unless its resource is refused. -/
def accept (link : Link) (resource : String) (direction : Direction) (text : String) :
    Except LinkError Unit × Link :=
  if resource ∈ link.refused then (.error (.unreachable resource), link)
  else (.ok (), { link with sent := link.sent ++ [⟨resource, direction, text⟩] })

/-- Takes a setting. -/
def write (link : Link) (resource text : String) : Except LinkError Unit × Link :=
  link.accept resource .set text

/-- Takes a query and looks up the reply. -/
def query (link : Link) (resource text : String) : Except LinkError String × Link :=
  match link.accept resource .get text with
  | (.error error, link) => (.error error, link)
  | (.ok (), link) =>
    match link.reply? text with
    | some reply => (.ok reply, link)
    | none => (.error (.noResponse resource text), link)

instance : Scripted Link where
  write := write
  query := query
  respond := respond
  refuse := refuse

/-- Sends a command; a query brings back its reply. -/
abbrev send (link : Link) (resource : String) (direction : Direction) (text : String) :
    Except LinkError (Option String) × Link :=
  Transport.send link resource direction text

end Link

/-- The query for the identity of an instrument. -/
def identityQuery : String := "*IDN?"

/-- Asks a resource for its identity and registers what it reports.  The
instrument reported has no nickname, whatever the registry keeps. -/
def Registry.identify {channel : Type} [Transport channel] (registry : Registry) (link : channel)
    (resource : String) : Except LinkError Instrument × Registry × channel :=
  match Transport.query link resource identityQuery with
  | (.error error, link) => (.error error, registry, link)
  | (.ok response, link) =>
    match Identity.read? response with
    | none => (.error (.unknownIdentity resource (Text.trimmed response)), registry, link)
    | some identity =>
      let instrument := Instrument.ofIdentity resource identity
      (.ok instrument, registry.register instrument, link)

end InstrumentBench
