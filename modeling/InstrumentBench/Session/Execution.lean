import InstrumentBench.History.CommandLog
import InstrumentBench.Session.Basic

/-!
# Executing commands

A command is prepared first: its instrument is found, and its text rendered.
Only then is it delivered: sent over the link, logged, and recorded if the
instrument took it.  What fails in preparation leaves no trace but a table in
the cache.
-/

namespace InstrumentBench

/-- A reply without the line ends after it. -/
def withoutLineEnds (reply : String) : String :=
  String.ofList (Text.trimEndOf (fun c => c = '\r' || c = '\n') reply.toList)

namespace Session

variable {channel : Type} [Transport channel]

/-- The rendered command of a request to an instrument. -/
def rendering (session : Session channel) (instrument : Instrument) (request : Request) :
    Except SessionError Rendered × Session channel :=
  match session.table instrument.identity.model with
  | (.error error, session) => (.error (.descriptor error), session)
  | (.ok none, session) => (.error (.noDescriptor instrument.identity.model), session)
  | (.ok (some table), session) =>
    match table.find? request.command with
    | none => (.error (.unknownCommand table.model (Text.trimmed request.command)), session)
    | some definition =>
      ((definition.render (request.resolve definition)).mapError .render, session)

/-- Logs a command if the session logs commands. -/
def log (session : Session channel) (resource : String) (rendered : Rendered)
    (outcome : Except String (Option String)) : Action Unit :=
  match session.auditDirectory with
  | some directory => CommandLog.add directory resource rendered.direction rendered.text outcome
  | none => pure ()

/-- Sends a rendered command, logs it, and records it if it arrived. -/
def deliver (session : Session channel) (resource : String) (rendered : Rendered) :
    Action (Except SessionError Entry × Session channel) :=
  match Transport.send session.link resource rendered.direction rendered.text with
  | (.ok reply, link) => do
    let response := reply.map withoutLineEnds
    session.log resource rendered (.ok response)
    let now ← Action.reply .now
    let (entry, recorder) :=
      session.recorder.record now rendered.direction resource rendered.text response
    return (.ok entry, { session with link := link, recorder := recorder })
  | (.error error, link) => do
    session.log resource rendered (.error error.message)
    return (.error (.link error), { session with link := link })

/-- Executes a request for the instrument that goes by a name. -/
def request (session : Session channel) (name : String) (request : Request) :
    Action (Except SessionError Entry × Session channel) :=
  match session.instrument name with
  | .error error => pure (.error error, session)
  | .ok instrument =>
    match session.rendering instrument request with
    | (.error error, session) => pure (.error error, session)
    | (.ok rendered, session) => session.deliver instrument.resource rendered

/-- Executes a command with the values given for its parameters. -/
def execute (session : Session channel) (name command : String) (values : Values) :
    Action (Except SessionError Entry × Session channel) :=
  session.request name ⟨command, values, none⟩

/-- Sends text typed by the operator. -/
def sendTyped (session : Session channel) (name text : String) :
    Action (Except SessionError Entry × Session channel) :=
  match session.instrument name with
  | .error error => pure (.error error, session)
  | .ok instrument =>
    match Rendered.ofTyped text with
    | .error error => pure (.error (.render error), session)
    | .ok rendered => session.deliver instrument.resource rendered

end Session

end InstrumentBench
