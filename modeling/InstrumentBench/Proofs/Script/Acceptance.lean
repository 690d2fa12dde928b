import InstrumentBench.Proofs.Outcome
import InstrumentBench.Proofs.Script.StatementGrammar
import InstrumentBench.Script.Replay

/-!
# Which scripts are read

A script is read exactly if each of its lines is well-formed and sends, if it does, through
a handle that an earlier line opened.  What the lines send is said by `SendsFrom` without
the reader and its table of handles; `read_admissible` says that the reader gives just
that, and that it otherwise reports the first line that is not as it should be.

The induction is on the lines left to read.  Its invariant is `Tracks`: the handles are
bound as the latest of the lines read already opened them.
-/

namespace InstrumentBench

/-- The number of the line that an error is about. -/
def ScriptError.line : ScriptError → Nat
  | malformed line _ => line
  | unknownHandle line _ => line

namespace Script

/-- The lines of a source, without the blanks around them. -/
def trimmedLines (source : String) : List (List Char) :=
  (Text.fields '\n' source.toList).map Text.trim

/-- The latest of the lines that open a handle opens a resource under it. -/
def Opened (lines : List (List Char)) (handle resource : String) : Prop :=
  ∃ before line after, lines = before ++ line :: after ∧
    Statement.Spells line (.opens handle resource) ∧
    ∀ later ∈ after, ∀ other, ¬Statement.Spells later (.opens handle other)

/-- What a line sends when it stands after other lines. -/
inductive Sends (before : List (List Char)) (line : List Char) : List Step → Prop where
  | nothing (spelled : Statement.Spells line .nothing) : Sends before line []
  | opens {handle resource : String} (spelled : Statement.Spells line (.opens handle resource)) :
      Sends before line []
  | sends {handle text resource : String} {direction : Direction}
      (spelled : Statement.Spells line (.sends handle direction text))
      (opened : Opened before handle resource) :
      Sends before line [⟨resource, direction, text⟩]

/-- What lines send, one after the other, when they stand after other lines. -/
inductive SendsFrom : (before lines : List (List Char)) → List Step → Prop where
  | nil {before : List (List Char)} : SendsFrom before [] []
  | cons {before rest : List (List Char)} {line : List Char} {sent steps : List Step}
      (first : Sends before line sent) (others : SendsFrom (before ++ [line]) rest steps) :
      SendsFrom before (line :: rest) (sent ++ steps)

/-- Whether a line may stand after other lines. -/
def Admits (before : List (List Char)) (line : List Char) : Prop :=
  ∃ sent, Sends before line sent

variable {before lines : List (List Char)} {line : List Char} {handle resource : String}

/-! ## Handles opened -/

theorem opened_concat :
    Opened (before ++ [line]) handle resource ↔
      Statement.Spells line (.opens handle resource) ∨
        Opened before handle resource ∧
          ∀ other, ¬Statement.Spells line (.opens handle other) := by
  constructor
  · rintro ⟨start, opening, after, whole, spelled, latest⟩
    rcases List.eq_nil_or_concat' after with rfl | ⟨between, last, rfl⟩
    · obtain ⟨-, same⟩ := List.append_inj' whole rfl
      obtain rfl := List.singleton_inj.1 same
      exact .inl spelled
    · rw [← List.cons_append, ← List.append_assoc] at whole
      obtain ⟨rfl, same⟩ := List.append_inj' whole rfl
      obtain rfl := List.singleton_inj.1 same
      refine .inr ⟨⟨start, opening, between, rfl, spelled, fun later member => ?_⟩, ?_⟩
      · exact latest later (List.mem_append_left _ member)
      · exact latest line (by simp)
  · rintro (spelled | ⟨⟨start, opening, between, rfl, spelled, latest⟩, unopened⟩)
    · exact ⟨before, line, [], rfl, spelled, by simp⟩
    · refine ⟨start, opening, between ++ [line], by simp, spelled, fun later member => ?_⟩
      rcases List.mem_append.1 member with earlier | last
      · exact latest later earlier
      · obtain rfl := List.mem_singleton.1 last
        exact unopened

/-- A line that is well-formed otherwise opens no handle. -/
theorem opened_concat_of_spells {statement : Statement} (spelled : Statement.Spells line statement)
    (other : ∀ handle resource, statement ≠ .opens handle resource) :
    Opened (before ++ [line]) handle resource ↔ Opened before handle resource := by
  have unopened : ∀ handle resource, ¬Statement.Spells line (.opens handle resource) :=
    fun handle resource opens => other handle resource (spelled.unique opens)
  rw [opened_concat]
  simp [unopened]

/-- Only names are opened. -/
theorem Opened.isIdentifier (opened : Opened lines handle resource) :
    Statement.isIdentifier handle.toList := by
  obtain ⟨_, _, _, -, spelled, -⟩ := opened
  cases spelled with
  | opens named => simpa using named

/-! ## One line -/

/-- Handles are bound as the lines opened them. -/
def Tracks (handles : Bindings String) (lines : List (List Char)) : Prop :=
  ∀ handle resource, handles.find? handle = some resource ↔ Opened lines handle resource

theorem tracks_empty : Tracks .empty [] := fun handle resource => by simp [Opened]

variable {handles : Bindings String}

theorem Tracks.concat (tracked : Tracks handles before) {statement : Statement}
    (spelled : Statement.Spells line statement)
    (other : ∀ handle resource, statement ≠ .opens handle resource) :
    Tracks handles (before ++ [line]) := fun handle resource =>
  (tracked handle resource).trans (opened_concat_of_spells spelled other).symm

theorem Tracks.bind (tracked : Tracks handles before)
    (spelled : Statement.Spells line (.opens handle resource)) :
    Tracks (handles.bind handle resource) (before ++ [line]) := by
  intro other found
  rw [Bindings.find?_bind, opened_concat]
  have only : ∀ {name value}, Statement.Spells line (.opens name value) →
      handle = name ∧ resource = value := fun again =>
    Statement.opens.inj (spelled.unique again)
  by_cases same : handle = other
  · subst same
    rw [if_pos rfl, Option.some_inj]
    constructor
    · rintro rfl
      exact .inl spelled
    · rintro (again | ⟨-, unopened⟩)
      · exact (only again).2
      · exact absurd spelled (unopened resource)
  · rw [if_neg same, tracked other found]
    have unopened : ∀ value, ¬Statement.Spells line (.opens other value) := fun value again =>
      same (only again).1
    simp [unopened]

/-- A line sends the same whenever it stands after the same lines. -/
theorem Sends.unique (tracked : Tracks handles before) {sent again : List Step}
    (first : Sends before line sent) (second : Sends before line again) : sent = again := by
  cases first with
  | nothing spelled =>
    cases second with
    | nothing _ => rfl
    | opens _ => rfl
    | sends other _ => cases spelled.unique other
  | opens spelled =>
    cases second with
    | nothing _ => rfl
    | opens _ => rfl
    | sends other _ => cases spelled.unique other
  | sends spelled opened =>
    cases second with
    | nothing other => cases spelled.unique other
    | opens other => cases spelled.unique other
    | sends other openedAgain =>
      cases spelled.unique other
      have found := (tracked _ _).2 opened
      rw [(tracked _ _).2 openedAgain] at found
      cases found
      rfl

/-- A line that may stand after others is well-formed, and a handle it sends through was
opened. -/
theorem Admits.spelled (admitted : Admits before line) :
    ∃ statement, Statement.Spells line statement ∧
      ∀ handle direction text, statement = .sends handle direction text →
        ∃ resource, Opened before handle resource := by
  obtain ⟨sent, sends⟩ := admitted
  cases sends with
  | nothing spelled => exact ⟨_, spelled, by simp⟩
  | opens spelled => exact ⟨_, spelled, by simp⟩
  | sends spelled opened =>
    refine ⟨_, spelled, ?_⟩
    rintro _ _ _ ⟨⟩
    exact ⟨_, opened⟩

/-- A line that may stand after those read sends what it should, and reading goes on
behind it.  Any other is reported, whatever follows it. -/
theorem readFrom_cons (tracked : Tracks handles before) (raw : List Char) :
    (∃ sent after, Sends before (Text.trim raw) sent ∧
      Tracks after (before ++ [Text.trim raw]) ∧
      ∀ number rest, readFrom number handles (raw :: rest) =
        (readFrom (number + 1) after rest).map (sent ++ ·)) ∨
    (¬Admits before (Text.trim raw) ∧
      ∀ number rest, ∃ error, readFrom number handles (raw :: rest) = .error error ∧
        error.line = number) := by
  have tight := Text.trim_trim raw
  cases outcome : Statement.read (Text.trim raw) with
  | error fault =>
    right
    constructor
    · intro admitted
      obtain ⟨statement, spelled, -⟩ := admitted.spelled
      rw [Statement.read_of_spells spelled] at outcome
      cases outcome
    · intro number rest
      exact ⟨.malformed number fault, by rw [readFrom, outcome], rfl⟩
  | ok statement =>
    cases statement with
    | nothing =>
      have spelled := (Statement.spells_iff tight).2 ⟨outcome, trivial⟩
      refine .inl ⟨[], handles, .nothing spelled, tracked.concat spelled (by simp), ?_⟩
      intro number rest
      rw [readFrom, outcome]
      cases readFrom (number + 1) handles rest <;> rfl
    | opens handle resource =>
      have spelled := (Statement.spells_iff tight).2 ⟨outcome, trivial⟩
      refine .inl ⟨[], handles.bind handle resource, .opens spelled, tracked.bind spelled, ?_⟩
      intro number rest
      rw [readFrom, outcome]
      dsimp only
      cases readFrom (number + 1) (handles.bind handle resource) rest <;> rfl
    | sends handle direction text =>
      cases found : handles.find? handle with
      | none =>
        right
        constructor
        · intro admitted
          obtain ⟨statement, spelled, opened⟩ := admitted.spelled
          rw [Statement.read_of_spells spelled] at outcome
          obtain ⟨resource, opened⟩ := opened handle direction text (Except.ok.inj outcome)
          rw [(tracked handle resource).2 opened] at found
          cases found
        · intro number rest
          exact ⟨.unknownHandle number handle, by simp only [readFrom, outcome, found], rfl⟩
      | some resource =>
        have opened := (tracked handle resource).1 found
        have spelled := (Statement.spells_iff tight).2 ⟨outcome, opened.isIdentifier⟩
        refine .inl ⟨[⟨resource, direction, text⟩], handles, .sends spelled opened,
          tracked.concat spelled (by simp), ?_⟩
        intro number rest
        simp only [readFrom, outcome, found]
        cases readFrom (number + 1) handles rest <;> rfl

/-! ## All lines -/

theorem readFrom_eq_ok (tracked : Tracks handles before) {number : Nat}
    {raws : List (List Char)} {steps : List Step} :
    readFrom number handles raws = .ok steps ↔ SendsFrom before (raws.map Text.trim) steps := by
  induction raws generalizing before handles number steps with
  | nil =>
    constructor
    · rintro ⟨⟩
      exact .nil
    · rintro ⟨⟩
      rfl
  | cons raw rest ih =>
    rw [List.map_cons]
    rcases readFrom_cons tracked raw with ⟨sent, after, sends, next, read⟩ | ⟨refused, failed⟩
    · rw [read, Outcome.map_eq_ok]
      constructor
      · rintro ⟨others, readRest, rfl⟩
        exact .cons sends ((ih next).1 readRest)
      · intro spec
        cases spec with
        | cons first others =>
          obtain rfl := sends.unique tracked first
          exact ⟨_, (ih next).2 others, rfl⟩
    · obtain ⟨error, read, -⟩ := failed number rest
      rw [read]
      constructor
      · rintro ⟨⟩
      · intro spec
        cases spec with
        | cons first others => exact absurd ⟨_, first⟩ refused

/-- The first line that may not stand where it stands is reported. -/
theorem line_of_readFrom_eq_error (tracked : Tracks handles before) {number : Nat}
    {raws : List (List Char)} {error : ScriptError}
    (failed : readFrom number handles raws = .error error) :
    ∃ earlier line later, raws.map Text.trim = earlier ++ line :: later ∧
      error.line = number + earlier.length ∧ (∃ steps, SendsFrom before earlier steps) ∧
      ¬Admits (before ++ earlier) line := by
  induction raws generalizing before handles number with
  | nil => cases failed
  | cons raw rest ih =>
    rw [List.map_cons]
    rcases readFrom_cons tracked raw with ⟨sent, after, sends, next, read⟩ | ⟨refused, reported⟩
    · rw [read, Outcome.map_eq_error] at failed
      obtain ⟨earlier, line, later, whole, counted, ⟨steps, spec⟩, refused⟩ := ih next failed
      refine ⟨Text.trim raw :: earlier, line, later, by rw [whole]; rfl, ?_,
        ⟨sent ++ steps, .cons sends spec⟩, ?_⟩
      · rw [counted, List.length_cons]
        omega
      · rwa [List.append_assoc] at refused
    · obtain ⟨found, read, counted⟩ := reported number rest
      rw [read] at failed
      cases failed
      exact ⟨[], Text.trim raw, _, rfl, counted, ⟨[], .nil⟩, by rwa [List.append_nil]⟩

/-- Lines send something together exactly if each of them may stand where it stands. -/
theorem exists_sendsFrom :
    (∃ steps, SendsFrom before lines steps) ↔
      ∀ earlier line later, lines = earlier ++ line :: later →
        Admits (before ++ earlier) line := by
  induction lines generalizing before with
  | nil => exact ⟨fun _ => by simp, fun _ => ⟨[], .nil⟩⟩
  | cons first rest ih =>
    constructor
    · rintro ⟨_, spec⟩ earlier line later whole
      cases spec with
      | cons sends others =>
        cases earlier with
        | nil =>
          cases whole
          exact ⟨_, by rwa [List.append_nil]⟩
        | cons head earlier =>
          obtain ⟨rfl, remaining⟩ := List.cons.inj whole
          have admitted := ih.1 ⟨_, others⟩ earlier line later remaining
          rwa [List.append_assoc] at admitted
    · intro admitted
      obtain ⟨sent, sends⟩ : Admits before first := by
        simpa using admitted [] first rest rfl
      have others : ∃ steps, SendsFrom (before ++ [first]) rest steps := by
        refine ih.2 fun earlier line later whole => ?_
        rw [List.append_assoc]
        exact admitted (first :: earlier) line later (by rw [whole]; rfl)
      obtain ⟨steps, spec⟩ := others
      exact ⟨_, .cons sends spec⟩

/-- A script is read exactly if each of its lines may stand after those before it, and
gives the commands that the lines send, in order.  Otherwise the number of the first line
that may not stand where it stands is reported. -/
theorem read_admissible (source : String) :
    ((∃ steps, read source = .ok steps) ↔
      ∀ before line after, trimmedLines source = before ++ line :: after →
        Admits before line) ∧
    (∀ steps, read source = .ok steps ↔ SendsFrom [] (trimmedLines source) steps) ∧
    ∀ error, read source = .error error →
      ∃ before line after, trimmedLines source = before ++ line :: after ∧
        error.line = before.length + 1 ∧ ¬Admits before line ∧
        ∀ earlier other later, before = earlier ++ other :: later → Admits earlier other := by
  have accepts : ∀ steps, read source = .ok steps ↔ SendsFrom [] (trimmedLines source) steps :=
    fun steps => readFrom_eq_ok tracks_empty
  refine ⟨?_, accepts, fun error failed => ?_⟩
  · simp only [accepts]
    exact exists_sendsFrom
  · obtain ⟨before, line, after, whole, counted, sent, refused⟩ :=
      line_of_readFrom_eq_error tracks_empty failed
    exact ⟨before, line, after, whole, by omega, refused, exists_sendsFrom.1 sent⟩

/-- A handle that is opened again sends to the resource it was opened for last. -/
example :
    read "a = rm.open_resource(\"X\")\na = rm.open_resource(\"Y\")\n print( a .query(\"\\x3f\"))" =
      .ok [⟨"Y", .get, "?"⟩] := by
  rfl

end Script

end InstrumentBench
