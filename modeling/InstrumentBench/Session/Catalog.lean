import InstrumentBench.Command.Layout
import InstrumentBench.Session.Basic

/-!
# Command catalogs

What the operator is shown for an instrument: the layouts of its commands, or
why there are none.  Text can be sent to an instrument without commands, too.
-/

namespace InstrumentBench

/-- The commands of an instrument's model. -/
inductive Catalog where
  /-- The commands of the table of a model, and its warnings. -/
  | listed (model : String) (commands : List Layout) (warnings : List String)
  /-- No table: no sheet describes the model, or it cannot be read for a
  reason. -/
  | unlisted (model : String) (reason : Option String)
  deriving DecidableEq, Repr

namespace Catalog

/-- The catalog of a table. -/
def ofTable (table : Table) : Catalog :=
  .listed table.model (table.commands.map (Layout.ofDefinition · .empty))
    (table.warnings.map LoadWarning.message)

/-- Whether there is a table. -/
def found : Catalog → Bool
  | listed .. => true
  | unlisted .. => false

/-- The name of the sheet if there is a table, else the model. -/
def model : Catalog → String
  | listed model .. => model
  | unlisted model _ => model

/-- The layouts of the commands in the order of the table. -/
def commands : Catalog → List Layout
  | listed _ commands _ => commands
  | unlisted .. => []

/-- The warnings of the table. -/
def warnings : Catalog → List String
  | listed _ _ warnings => warnings
  | unlisted .. => []

/-- Why the table cannot be read, if that is why there is none. -/
def loadError : Catalog → Option String
  | listed .. => none
  | unlisted _ reason => reason

end Catalog

namespace Session

variable {channel : Type}

/-- The catalog of a model. -/
def catalogOf (session : Session channel) (model : String) : Catalog × Session channel :=
  match session.table model with
  | (.ok (some table), session) => (.ofTable table, session)
  | (.ok none, session) => (.unlisted model none, session)
  | (.error error, session) => (.unlisted model (some error.message), session)

/-- The catalog of the instrument that goes by a name. -/
def catalog (session : Session channel) (name : String) :
    Except SessionError Catalog × Session channel :=
  match session.instrument name with
  | .error error => (.error error, session)
  | .ok instrument =>
    let (catalog, session) := session.catalogOf instrument.identity.model
    (.ok catalog, session)

end Session

end InstrumentBench
