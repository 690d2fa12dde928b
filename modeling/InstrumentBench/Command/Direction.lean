import InstrumentBench.Text.Blank

/-!
# Directions

A command either reads from an instrument, which answers it, or writes to it.
-/

namespace InstrumentBench

/-- Whether a command is a query (`get`) or a setting (`set`). -/
inductive Direction where
  | get
  | set
  deriving DecidableEq, Repr

namespace Direction

/-- The word for a direction in sheets, logs and messages. -/
def label : Direction → String
  | get => "GET"
  | set => "SET"

/-- Whether the instrument is expected to answer. -/
def isQuery : Direction → Bool
  | get => true
  | set => false

/-- The direction that a text names, without regard to the case of ASCII
letters. -/
def ofWord? (word : List Char) : Option Direction :=
  let upper := word.map Char.toUpper
  if upper = ['G', 'E', 'T'] then some get
  else if upper = ['S', 'E', 'T'] then some set
  else none

/-- The direction named by a cell, blanks around it apart. -/
def read? (cell : String) : Option Direction :=
  ofWord? (Text.trim cell.toList)

end Direction

end InstrumentBench
