import InstrumentBench.Command.DescriptorError
import InstrumentBench.Text.Blank
import InstrumentBench.Text.Sorted

/-!
# Command templates

A template is literal text with placeholders `{NAME}`.  Braces do not nest and
cannot be escaped.  Substitution puts a value in place of every placeholder
and never looks into the values.
-/

namespace InstrumentBench

/-- A stretch of a template. -/
inductive Segment where
  | literal (text : String)
  | placeholder (name : String)
  deriving DecidableEq, Repr

/-- A template: its source and the segments it was read into. -/
structure Template where
  source : String
  segments : List Segment
  deriving DecidableEq, Repr

namespace Template

/-- A template error: the byte offset of a brace, and what is wrong there. -/
structure Flaw where
  offset : Nat
  fault : TemplateFault
  deriving DecidableEq, Repr

/-- The literal segment for the characters read, nearest first; none for the
empty text. -/
def literalSegments (readBack : List Char) : List Segment :=
  if readBack = [] then [] else [.literal (String.ofList readBack.reverse)]

/-- Where a scan stands: in literal text, or inside a placeholder, with the
characters read there so far, nearest first. -/
inductive Place where
  | literal (readBack : List Char)
  | placeholder (openedAt : Nat) (readBack : List Char)
  deriving DecidableEq, Repr

/-- The segments from a place on; `offset` is the number of bytes read. -/
def scan (offset : Nat) : Place → List Char → Except Flaw (List Segment)
  | .literal readBack, [] => .ok (literalSegments readBack)
  | .placeholder openedAt _, [] => .error ⟨openedAt, .unclosed⟩
  | .literal readBack, c :: rest =>
    if c = '\x7b' then do
      let others ← scan (offset + 1) (.placeholder offset []) rest
      return literalSegments readBack ++ others
    else if c = '\x7d' then .error ⟨offset, .unmatched⟩
    else scan (offset + c.utf8Size) (.literal (c :: readBack)) rest
  | .placeholder openedAt readBack, c :: rest =>
    if c = '\x7b' then .error ⟨offset, .nested openedAt⟩
    else if c = '\x7d' then
      let name := Text.trim readBack.reverse
      if name = [] then .error ⟨openedAt, .emptyPlaceholder⟩
      else do
        let others ← scan (offset + 1) (.literal []) rest
        return .placeholder (String.ofList name) :: others
    else scan (offset + c.utf8Size) (.placeholder openedAt (c :: readBack)) rest

/-- Reads a template, or finds its first flaw from the left. -/
def read (source : String) : Except Flaw Template := do
  let segments ← scan 0 (.literal []) source.toList
  return ⟨source, segments⟩

/-- The placeholder names in order of appearance, with repetitions. -/
def mentions (template : Template) : List String :=
  template.segments.filterMap fun
    | .placeholder name => some name
    | .literal _ => none

/-- The distinct placeholder names in order. -/
def names (template : Template) : List String :=
  Text.nameSet template.mentions

/-- The segments with values put in; fails with the first name that has none. -/
def fill (valueOf : String → Option String) : List Segment → Except String String
  | [] => .ok ""
  | .literal text :: rest => return text ++ (← fill valueOf rest)
  | .placeholder name :: rest =>
    match valueOf name with
    | none => .error name
    | some value => return value ++ (← fill valueOf rest)

/-- The template with every placeholder replaced by its value; fails with the
first name that has none. -/
def substitute (template : Template) (valueOf : String → Option String) :
    Except String String :=
  fill valueOf template.segments

end Template

end InstrumentBench
