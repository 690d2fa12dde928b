import InstrumentBench.CommandLine.Arguments

/-!
# Help

The help for a level lists its subcommands, its arguments and its options, the
explanations in one column.
-/

namespace InstrumentBench.CommandLine

/-- The name and the version of the program. -/
def versionLine : String := "scpi-console 0.1.0\n"

/-- A line of a listing: a term and its explanation. -/
abbrev Explained := String × String

/-- A text filled up with blanks to a width. -/
def padded (width : Nat) (text : String) : String :=
  text ++ String.ofList (List.replicate (width - text.length) ' ')

/-- A listing under a heading, the explanations two columns after the longest
term. -/
def listing (heading : String) (lines : List Explained) : List String :=
  if lines = [] then []
  else
    let width := lines.foldl (fun width line => max width line.1.length) 0
    [heading ++ ":\n" ++ "\n".intercalate
      (lines.map fun line => "  " ++ padded (width + 2) line.1 ++ line.2)]

/-- A value as it is shown in a listing. -/
def Slot.shown (slot : Slot) : String :=
  "<" ++ slot.name ++ ">"

/-- An option with its value. -/
def Setting.shown (setting : Setting) : String :=
  "--" ++ setting.name ++
    match setting.value with
    | some slot => " " ++ slot.shown
    | none => ""

/-- The line for an argument known by its position. -/
def Slot.explained (slot : Slot) : Explained :=
  (slot.shown, if slot.rule = .truth then "[possible values: true, false]" else "")

/-- What an option is for on a level, as far as it is explained there. -/
def Setting.about (level : Level) : Setting → String
  | .workbook => "Descriptor workbook (JSON export); overrides the saved setting"
  | .configDirectory => "Config directory override"
  | .json => "Output raw JSON instead of formatted text"
  | .assign => if level = .render then "Parameter value, repeatable" else ""
  | .resource => if level = .execute then "Resource name recorded in the history" else ""
  | .response => if level = .execute then "Simulated reply to a query" else ""
  | .save =>
    if level = .execute then "Also write the replay script into the config directory" else ""

/-- The line for an option. -/
def Setting.explained (level : Level) (setting : Setting) : Explained :=
  ("    " ++ setting.shown, setting.about level)

/-- The names of the levels from the program down to a level. -/
def Level.path (level : Level) : String :=
  " ".intercalate ((level.above ++ [level]).map Level.name)

/-- The help that every level with subcommands has as one of them. -/
def helpAbout : String := "Print this message or the help of the given subcommand(s)"

/-- How a level is used. -/
def Level.usage (level : Level) : String :=
  let required := (level.settings.filter (·.occurrence = .required)).map Setting.shown
  let children :=
    if level.children = [] then [] else [if level.needsChild then "<COMMAND>" else "[COMMAND]"]
  "Usage: " ++ " ".intercalate
    ([level.path, "[OPTIONS]"] ++ required ++ level.slots.map Slot.shown ++ children)

/-- The help for a level. -/
def Level.help (level : Level) : String :=
  let children := level.children.map fun child => (child.name, child.about)
  let children := if children = [] then [] else children ++ [("help", helpAbout)]
  let version := if level = .program then [("-V, --version", "Print version")] else []
  "\n\n".intercalate
    ([level.about, level.usage] ++ listing "Commands" children ++
      listing "Arguments" (level.slots.map Slot.explained) ++
      listing "Options" (level.settings.map (Setting.explained level) ++
        [("-h, --help", "Print help")] ++ version)) ++ "\n"

/-- The help for the help below a level. -/
def Level.helpOfHelp (level : Level) : String :=
  "\n\n".intercalate
    ([helpAbout, "Usage: " ++ level.path ++ " help [COMMAND]..."] ++
      listing "Arguments" [("[COMMAND]...", "Print help for the subcommand(s)")]) ++ "\n"

/-- What is said about arguments that do not fit a level. -/
def Level.misuse (level : Level) : String :=
  "error: the arguments do not fit\n\n" ++ level.usage ++
    "\n\nFor more information, try '--help'.\n"

end InstrumentBench.CommandLine
