import InstrumentBench.CommandLine.Level

/-!
# Reading arguments

The arguments are read from left to right, level by level.  A value is checked
when the next argument of its level has been understood, or at the end of the
level, so that a request for help that comes first wins over a wrong value.
-/

namespace InstrumentBench.CommandLine

/-- Why the reading of arguments ends without a task. -/
inductive Stop where
  /-- The help for a level has been asked for. -/
  | help (level : Level)
  /-- The help for the help below a level has been asked for. -/
  | helpOfHelp (level : Level)
  | version
  /-- The arguments do not fit a level. -/
  | misuse (level : Level)
  deriving DecidableEq, Repr

/-- What has been understood last and not been checked yet. -/
inductive Waiting where
  | nothing
  /-- An option whose value is still to come. -/
  | forValue (setting : Setting)
  | option (setting : Setting) (value : String)
  | positional (slot : Slot) (value : String)
  deriving DecidableEq, Repr

/-- What has been given on a level so far. -/
structure Given where
  /-- The options with their values, in order; the value of a flag is empty. -/
  options : List (Setting × String)
  positionals : List String
  waiting : Waiting
  deriving DecidableEq, Repr

namespace Given

/-- Nothing has been given. -/
def none : Given := ⟨[], [], .nothing⟩

/-- Whether an option has been given. -/
def has (given : Given) (setting : Setting) : Bool :=
  given.options.any (·.1 = setting)

/-- Adds an option; only a repeated one may come twice. -/
def add? (given : Given) (setting : Setting) (value : String) : Option Given :=
  if given.has setting ∧ setting.occurrence ≠ .repeated then .none
  else some { given with options := given.options ++ [(setting, value)], waiting := .nothing }

/-- Checks what is waiting. -/
def settle? (given : Given) : Option Given :=
  match given.waiting with
  | .nothing => some given
  | .forValue _ => .none
  | .option setting value =>
    if setting.value.all (·.rule.accepts value) then given.add? setting value else .none
  | .positional slot value =>
    if slot.rule.accepts value then
      some { given with positionals := given.positionals ++ [value], waiting := .nothing }
    else .none

/-- The number of arguments known by position, checked or not. -/
def count (given : Given) : Nat :=
  match given.waiting with
  | .positional .. => given.positionals.length + 1
  | _ => given.positionals.length

/-- Whether the next argument is the value of an option. -/
def awaitsValue (given : Given) : Bool :=
  match given.waiting with
  | .forValue _ => true
  | _ => false

/-- Whether everything required on a level has been given. -/
def complete (given : Given) (level : Level) : Bool :=
  given.positionals.length = level.slots.length &&
    level.settings.all fun setting =>
      setting.occurrence ≠ .required || given.has setting

end Given

/-- An argument by its form. -/
inductive Token where
  /-- Two dashes: what follows is known by position. -/
  | divider
  /-- A name after two dashes, perhaps with a value after an equals sign. -/
  | long (name : String) (value : Option String)
  /-- Letters after one dash. -/
  | short (letters : List Char)
  | word
  deriving DecidableEq, Repr

/-- The form of an argument. -/
def Token.of (argument : String) : Token :=
  match argument.toList with
  | ['-', '-'] => .divider
  | '-' :: '-' :: rest =>
    match Text.cutAtChar '=' rest with
    | some (name, value) => .long (String.ofList name) (some (String.ofList value))
    | none => .long (String.ofList rest) none
  | '-' :: c :: rest => .short (c :: rest)
  | _ => .word

/-- The result of a check, or misuse of a level. -/
def orMisuse {α : Type} (level : Level) (result : Option α) : Except Stop α :=
  match result with
  | some value => .ok value
  | none => .error (.misuse level)

/-- Ends with help or the version, once what is waiting has been checked. -/
def stopAfter (level : Level) (given : Given) (stop : Stop) : Stop :=
  if given.settle?.isSome then stop else .misuse level

/-- What has been given after an option by its name. -/
def readLong (level : Level) (given : Given) (name : String) (value : Option String) :
    Except Stop Given :=
  match level.setting? name, value with
  | some setting, some value =>
    if setting.value.isNone then .error (.misuse level)
    else
      orMisuse level (given.settle?.bind fun given =>
        { given with waiting := .option setting value }.settle?)
  | some setting, none =>
    orMisuse level (given.settle?.bind fun given =>
      if setting.value.isNone then given.add? setting ""
      else some { given with waiting := .forValue setting })
  | none, none =>
    if name = "help" then .error (stopAfter level given (.help level))
    else if name = "version" ∧ level = .program then .error (stopAfter level given .version)
    else .error (.misuse level)
  | none, some _ => .error (.misuse level)

/-- Why reading ends at letters after one dash; there are only letters that end
it. -/
def readShort (level : Level) (given : Given) (letters : List Char) : Stop :=
  match letters with
  | 'h' :: _ => stopAfter level given (.help level)
  | 'V' :: _ => if level = .program then stopAfter level given .version else .misuse level
  | _ => .misuse level

/-- What has been given after an argument known by its position. -/
def readPositional (level : Level) (given : Given) (argument : String) : Except Stop Given :=
  match level.slots.drop given.count with
  | [] => .error (.misuse level)
  | slot :: _ =>
    orMisuse level (given.settle?.map fun given =>
      { given with waiting := .positional slot argument })

/-- The level that the words after `help` are about. -/
def helpFor (level : Level) : List String → Stop
  | [] => .help level
  | word :: rest =>
    match level.child? word with
    | some child => helpFor child rest
    | none => if word = "help" ∧ level.children ≠ [] ∧ rest = [] then .helpOfHelp level
      else .misuse level

/-- What has been given on a level in the end. -/
def finish (level : Level) (chosen : Bool) (given : Given) : Except Stop Given :=
  orMisuse level do
    let given ← given.settle?
    if given.complete level && (chosen || !level.needsChild) then some given else none

/-- The levels chosen, from `level` down, with what has been given on each.
After a divider, arguments are known by position only. -/
def readFrom (level : Level) (given : Given) (divided : Bool) :
    List String → Except Stop (List (Level × Given))
  | [] => do return [(level, ← finish level false given)]
  | argument :: rest =>
    let child := if divided || given.awaitsValue then none else level.child? argument
    match child with
    | some child => do
      let below ← readFrom child .none false rest
      return (level, ← finish level true given) :: below
    | none =>
      if divided then do
        readFrom level (← readPositional level given argument) true rest
      else if argument = "help" ∧ level.children ≠ [] ∧ !given.awaitsValue then
        .error (helpFor level rest)
      else
        match Token.of argument with
        | .divider => readFrom level given true rest
        | .long name value => do
          readFrom level (← readLong level given name value) false rest
        | .short letters => .error (readShort level given letters)
        | .word =>
          match given.waiting with
          | .forValue setting =>
            readFrom level { given with waiting := .option setting argument } false rest
          | _ => do readFrom level (← readPositional level given argument) false rest

end InstrumentBench.CommandLine
