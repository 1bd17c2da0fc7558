/-!
Reports on the terminal. A report is a list of lines, each bound for standard output or, where it
warns of something or tells of a failure, for the error stream.
-/
namespace TypedRoutes.Command

/-- One piece of a report, which ends in a line break, on one of the two streams. -/
inductive Line where
  | out (text : String)
  | err (text : String)
deriving DecidableEq, Repr

namespace Line

/-- An underlined heading. -/
def title (text : String) : List Line :=
  [out text, out (String.ofList (List.replicate text.length '='))]

/-- A heading for the lines that follow. -/
def heading (name : String) : Line := out (name ++ ":")

def pair (key value : String) : Line := out (key ++ ": " ++ value)

/-- A named value below a heading. -/
def nested (key value : String) : Line := out ("  " ++ key ++ ": " ++ value)

def numbered (index : Nat) (text : String) : Line :=
  out ("  " ++ toString index ++ ". " ++ text)

def item (text : String) : Line := out ("  - " ++ text)

/-- An item of a list of new things. -/
def added (text : String) : Line := out ("  + " ++ text)

/-- Something that may not be as it was meant. -/
def warning (text : String) : Line := err ("warning: " ++ text)

def error (text : String) : Line := err ("error: " ++ text)

/-- A rule that names what follows it. -/
def divider (label : String) : Line := out ("── " ++ label ++ " ──")

def blank : Line := out ""

end Line

/-- What a command has to say, line by line. -/
abbrev Report := List Line

namespace Report

def stdout (report : Report) : String :=
  String.join (report.map fun | .out text => text ++ "\n" | .err _ => "")

/-- The text of a report on the error stream. -/
def stderr (report : Report) : String :=
  String.join (report.map fun | .err text => text ++ "\n" | .out _ => "")

/-- The list of declarations left for a later round. -/
def deferredList (names : List String) : Report :=
  .heading "Deferred to next round" :: names.map .item

end Report

end TypedRoutes.Command
