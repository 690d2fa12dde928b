import InstrumentBench.Catalog.Cache
import InstrumentBench.Command.Rendering
import InstrumentBench.History.Recorder
import InstrumentBench.Instrument.Link

/-!
# Sessions

A session brings together the descriptors, the instruments, the link to them
and the record of what they were sent.  This module has its state and the
operations that send no commands but the query for an identity.
-/

namespace InstrumentBench

/-- Why a session cannot do what it is asked to. -/
inductive SessionError where
  | unknownInstrument (name : String)
  | noDescriptor (model : String)
  | unknownCommand (model command : String)
  | descriptor (error : DescriptorError)
  | render (error : RenderError)
  | link (error : LinkError)
  deriving DecidableEq, Repr

namespace SessionError

def message : SessionError → String
  | unknownInstrument name => "instrument '" ++ name ++ "' not found"
  | noDescriptor model => "no descriptor table for model '" ++ model ++ "'"
  | unknownCommand model command =>
    "command '" ++ command ++ "' not found for model '" ++ model ++ "'"
  | descriptor error => error.message
  | render error => error.message
  | link error => error.message

/-- The stable code of an error of the session itself or of the kind of error
it passes on. -/
def code : SessionError → String
  | unknownInstrument .. => "UnknownInstrument"
  | noDescriptor .. => "NoDescriptor"
  | unknownCommand .. => "UnknownCommand"
  | descriptor .. => "Descriptor"
  | render .. => "Render"
  | link .. => "Transport"

end SessionError

/-- One operator session over a link. -/
structure Session (channel : Type := Link) where
  source : SheetSource
  cache : TableCache
  registry : Registry
  recorder : Recorder
  link : channel
  /-- The configuration directory below which commands are logged, if they
  are. -/
  auditDirectory : Option String

namespace Session

/-- A session over a loopback link, without instruments and history. -/
def start (source : SheetSource) (link : Link) (auditDirectory : Option String) : Session :=
  ⟨source, .empty, .empty, .empty, link, auditDirectory⟩

variable {channel : Type}

/-- Registers an instrument. -/
def register (session : Session channel) (instrument : Instrument) : Session channel :=
  { session with registry := session.registry.register instrument }

/-- Asks a resource for its identity and registers what it reports. -/
def identify [Transport channel] (session : Session channel) (resource : String) :
    Except SessionError Instrument × Session channel :=
  let (answer, registry, link) := session.registry.identify session.link resource
  (answer.mapError .link, { session with registry := registry, link := link })

/-- Gives a nickname to the instrument with an identity. -/
def setNickname (session : Session channel) (nickname : String) (identity : Identity) :
    Except SessionError Unit × Session channel :=
  match session.registry.setNickname? nickname identity with
  | some registry => (.ok (), { session with registry := registry })
  | none =>
    (.error (.unknownInstrument
      (identity.vendor ++ " " ++ identity.model ++ " " ++ identity.serial)), session)

/-- The instrument that goes by a name. -/
def instrument (session : Session channel) (name : String) : Except SessionError Instrument :=
  match session.registry.find? name with
  | some instrument => .ok instrument
  | none => .error (.unknownInstrument (Text.trimmed name))

/-- The table of a model; none if no sheet describes the model. -/
def table (session : Session channel) (model : String) :
    Except DescriptorError (Option Table) × Session channel :=
  let (answer, cache) := session.cache.load session.source model
  (answer.map (·.map SharedTable.table), { session with cache := cache })

/-- Forgets the compiled tables, so that the sheets are read again. -/
def reload (session : Session channel) : Session channel :=
  { session with cache := session.cache.clear }

end Session

end InstrumentBench
