import InstrumentBench.Instrument.Link

/-!
# What links log

The loopback link logs a command exactly if its resource is not refused.  Sending then
fails only for a query that has no reply.
-/

namespace InstrumentBench

namespace Transport

variable {channel : Type} [Transport channel] {link after : channel} {resource text : String}
  {outcome : Except LinkError (Option String)}

/-- Sending a query is querying. -/
theorem query_of_send (sent : send link resource .get text = (outcome, after)) :
    ∃ reply, query link resource text = (reply, after) ∧ outcome = reply.map some := by
  rw [send] at sent
  rcases asked : query link resource text with ⟨reply, later⟩
  rw [asked] at sent
  cases sent
  exact ⟨reply, rfl, rfl⟩

/-- Sending a setting is writing. -/
theorem write_of_send (sent : send link resource .set text = (outcome, after)) :
    ∃ reply, write link resource text = (reply, after) ∧ outcome = reply.map fun _ => none := by
  rw [send] at sent
  rcases told : write link resource text with ⟨reply, later⟩
  rw [told] at sent
  cases sent
  exact ⟨reply, rfl, rfl⟩

end Transport

namespace Link

/-- A setting is logged unless its resource is refused. -/
theorem write_cases (link : Link) (resource text : String) :
    link.write resource text = (.error (.unreachable resource), link) ∨
      ∃ after, link.write resource text = (.ok (), after) ∧
        after.sent = link.sent ++ [⟨resource, .set, text⟩] := by
  rw [write, accept]
  split
  next => exact .inl rfl
  next => exact .inr ⟨_, rfl, rfl⟩

/-- A query is logged unless its resource is refused, also if it has no reply. -/
theorem query_cases (link : Link) (resource text : String) :
    link.query resource text = (.error (.unreachable resource), link) ∨
      ∃ outcome after, link.query resource text = (outcome, after) ∧
        after.sent = link.sent ++ [⟨resource, .get, text⟩] ∧
        (outcome = .error (.noResponse resource text) ∨ ∃ reply, outcome = .ok reply) := by
  rw [query, accept]
  split
  next failed =>
    split at failed <;> cases failed
    exact .inl rfl
  next accepted =>
    split at accepted <;> cases accepted
    split
    next reply _ => exact .inr ⟨_, _, rfl, rfl, .inr ⟨reply, rfl⟩⟩
    next => exact .inr ⟨_, _, rfl, rfl, .inl rfl⟩

/-- Sending fails for a refused resource, which is not logged, and for a query without a
reply, which is. -/
theorem send_error_cases {link after : Link} {resource text : String} {direction : Direction}
    {error : LinkError}
    (failed : Transport.send link resource direction text = (.error error, after)) :
    error = .unreachable resource ∧ after = link ∨
      error = .noResponse resource text ∧ direction = .get ∧
        after.sent = link.sent ++ [⟨resource, .get, text⟩] := by
  cases direction with
  | set =>
    obtain ⟨_ | _, told, ⟨⟩⟩ := Transport.write_of_send failed
    have written : link.write resource text = (.error error, after) := told
    rcases link.write_cases resource text with refused | ⟨later, accepted, -⟩
    · cases written.symm.trans refused
      exact .inl ⟨rfl, rfl⟩
    · cases written.symm.trans accepted
  | get =>
    obtain ⟨_ | _, asked, ⟨⟩⟩ := Transport.query_of_send failed
    have queried : link.query resource text = (.error error, after) := asked
    rcases link.query_cases resource text with refused | ⟨outcome, later, answered, logged, ended⟩
    · cases queried.symm.trans refused
      exact .inl ⟨rfl, rfl⟩
    · cases queried.symm.trans answered
      rcases ended with unanswered | ⟨reply, replied⟩
      · cases unanswered
        exact .inr ⟨rfl, rfl, logged⟩
      · cases replied

end Link

end InstrumentBench
