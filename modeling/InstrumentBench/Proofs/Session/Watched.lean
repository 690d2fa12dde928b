import InstrumentBench.Session.Execution

/-!
# Watching a link

A watched link keeps a list of the calls made to it, whether or not they succeed,
and passes every call on.  A session over a watched link goes through the same
states as the session over the link itself, so that the list shows what the session
does to a link of any kind.
-/

namespace InstrumentBench

/-- A link together with the calls made to it so far. -/
structure Watched (channel : Type) where
  link : channel
  calls : List Sent

namespace Watched

variable {channel : Type} [Transport channel]

/-- The watched link after a call. -/
def called (watched : Watched channel) (link : channel) (resource : String)
    (direction : Direction) (text : String) : Watched channel :=
  ⟨link, watched.calls ++ [⟨resource, direction, text⟩]⟩

instance : Transport (Watched channel) where
  write watched resource text :=
    let (outcome, link) := Transport.write watched.link resource text
    (outcome, watched.called link resource .set text)
  query watched resource text :=
    let (outcome, link) := Transport.query watched.link resource text
    (outcome, watched.called link resource .get text)

instance {channel : Type} [Scripted channel] : Scripted (Watched channel) where
  respond watched command response :=
    { watched with link := Scripted.respond watched.link command response }
  refuse watched resource := { watched with link := Scripted.refuse watched.link resource }

/-- Sending over a watched link is one call, and sending over the link itself. -/
theorem send_eq (watched : Watched channel) (resource : String) (direction : Direction)
    (text : String) :
    Transport.send watched resource direction text =
      ((Transport.send watched.link resource direction text).1,
        watched.called (Transport.send watched.link resource direction text).2 resource
          direction text) := by
  cases direction <;> rfl

end Watched

namespace Session

variable {channel : Type}

/-- The session over its link as watched from now on, `calls` having been made. -/
def watched (session : Session channel) (calls : List Sent) : Session (Watched channel) :=
  ⟨session.source, session.cache, session.registry, session.recorder, ⟨session.link, calls⟩,
    session.auditDirectory⟩

@[simp] theorem instrument_watched (session : Session channel) (calls : List Sent)
    (name : String) : (session.watched calls).instrument name = session.instrument name := rfl

@[simp] theorem table_watched (session : Session channel) (calls : List Sent) (model : String) :
    (session.watched calls).table model =
      ((session.table model).1, (session.table model).2.watched calls) := by
  simp only [table, watched]

/-- Preparing a command makes no calls. -/
@[simp] theorem rendering_watched (session : Session channel) (calls : List Sent)
    (instrument : Instrument) (request : Request) :
    (session.watched calls).rendering instrument request =
      ((session.rendering instrument request).1,
        (session.rendering instrument request).2.watched calls) := by
  unfold rendering
  rw [table_watched]
  rcases session.table instrument.identity.model with ⟨_ | _ | table, later⟩
  case error => rfl
  case ok.none => rfl
  case ok.some =>
    dsimp only
    cases table.find? request.command <;> rfl

variable [Transport channel]

/-- Delivering a command makes one call. -/
theorem run_deliver_watched (session : Session channel) (calls : List Sent) (resource : String)
    (rendered : Rendered) (world : World) :
    ((session.watched calls).deliver resource rendered).run world =
      let ((outcome, final), after) := (session.deliver resource rendered).run world
      ((outcome, final.watched (calls ++ [⟨resource, rendered.direction, rendered.text⟩])),
        after) := by
  unfold deliver
  rw [show (session.watched calls).link = ⟨session.link, calls⟩ from rfl, Watched.send_eq]
  rcases Transport.send session.link resource rendered.direction rendered.text with
    ⟨_ | reply, link⟩
  case error error =>
    dsimp only
    rw [Action.run_bind, Action.run_bind]
    rfl
  case ok =>
    dsimp only
    rw [Action.run_bind, Action.run_bind, Action.run_bind, Action.run_bind]
    rfl

end Session

end InstrumentBench
