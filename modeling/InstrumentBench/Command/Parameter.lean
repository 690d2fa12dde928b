/-!
# Parameters

A command takes its inputs as named parameters in the order of its descriptor.
The kind of a parameter says which values it accepts and how they are written.
-/

namespace InstrumentBench

/-- How the raw value of a parameter is checked and written. -/
inductive ParameterKind where
  /-- Any text that is not blank. -/
  | free
  /-- A number, written with this many decimal places. -/
  | fixed (places : Nat)
  /-- One of the listed options, exactly. -/
  | choice (options : List String)
  deriving DecidableEq, Repr

/-- One input of a command. -/
structure Parameter where
  name : String
  kind : ParameterKind
  deriving DecidableEq, Repr

end InstrumentBench
