import InstrumentBench.Session.Catalog
import InstrumentBench.Session.Execution

/-!
# Operations of a session

Everything that can be asked of a session, as data, so that a run of a session
is a list of operations.  Each operation has one answer.
-/

namespace InstrumentBench

/-- One thing asked of a session. -/
inductive Operation where
  | register (instrument : Instrument)
  | identify (resource : String)
  | setNickname (nickname : String) (identity : Identity)
  | catalog (name : String)
  | table (model : String)
  | execute (name command : String) (values : Values)
  | request (name : String) (request : Request)
  | sendTyped (name text : String)
  | reload
  /-- From now on the sheets come from another source. -/
  | replaceSource (source : SheetSource)
  /-- From now on the link has a reply to a query. -/
  | respond (command response : String)
  /-- From now on the link does not reach a resource. -/
  | refuse (resource : String)

/-- What an operation is answered with. -/
inductive Answer where
  | done
  | instrument (instrument : Instrument)
  | catalog (catalog : Catalog)
  | table (table : Option Table)
  | entry (entry : Entry)
  | failed (error : SessionError)
  deriving DecidableEq, Repr

/-- The answer for an outcome. -/
def Answer.of {α : Type} (answer : α → Answer) : Except SessionError α → Answer
  | .ok value => answer value
  | .error error => .failed error

namespace Session

variable {channel : Type} [Scripted channel]

/-- Answers one operation. -/
def perform (session : Session channel) : Operation → Action (Answer × Session channel)
  | .register instrument => pure (.done, session.register instrument)
  | .identify resource =>
    let (outcome, session) := session.identify resource
    pure (.of .instrument outcome, session)
  | .setNickname nickname identity =>
    let (outcome, session) := session.setNickname nickname identity
    pure (.of (fun _ => .done) outcome, session)
  | .catalog name =>
    let (outcome, session) := session.catalog name
    pure (.of .catalog outcome, session)
  | .table model =>
    let (outcome, session) := session.table model
    pure (.of .table (outcome.mapError .descriptor), session)
  | .execute name command values => do
    let (outcome, session) ← session.execute name command values
    return (.of .entry outcome, session)
  | .request name request => do
    let (outcome, session) ← session.request name request
    return (.of .entry outcome, session)
  | .sendTyped name text => do
    let (outcome, session) ← session.sendTyped name text
    return (.of .entry outcome, session)
  | .reload => pure (.done, session.reload)
  | .replaceSource source => pure (.done, { session with source := source })
  | .respond command response =>
    pure (.done, { session with link := Scripted.respond session.link command response })
  | .refuse resource => pure (.done, { session with link := Scripted.refuse session.link resource })

/-- Answers operations one after the other. -/
def performAll (session : Session channel) :
    List Operation → Action (List Answer × Session channel)
  | [] => pure ([], session)
  | operation :: rest => do
    let (answer, session) ← session.perform operation
    let (answers, session) ← session.performAll rest
    return (answer :: answers, session)

end Session

end InstrumentBench
