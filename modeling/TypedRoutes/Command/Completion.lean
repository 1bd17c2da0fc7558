/-!
Shell completion. A script makes a shell offer the names of the commands as the first word.
-/
namespace TypedRoutes.Command

def programName : String := "wayfinder"

/-- What can be asked of the program, with a word on each. -/
def commandNotes : List (String × String) := [
  ("generate", "Generate route objects from wayfinder.toml"),
  ("check", "Run the pipeline without writing and report diagnostics"),
  ("explain", "Show the pipeline and the descriptor built for each route"),
  ("route", "Print the concrete path of a route"),
  ("completions", "Generate shell completions"),
  ("help", "Print this message")]

/-- A shell that completions can be made for. -/
inductive Shell where
  | bash
  | elvish
  | fish
  | powershell
  | zsh
deriving DecidableEq, Repr

namespace Shell

def all : List Shell := [.bash, .elvish, .fish, .powershell, .zsh]

def name : Shell → String
  | .bash => "bash"
  | .elvish => "elvish"
  | .fish => "fish"
  | .powershell => "powershell"
  | .zsh => "zsh"

/-- The shell of a name, which is written in lowercase. -/
def ofName? (name : String) : Option Shell :=
  all.find? (·.name == name)

/-- The script that makes a shell complete the names of the commands. -/
def script (shell : Shell) : String :=
  let words := " ".intercalate (commandNotes.map (·.1))
  match shell with
  | .bash => "complete -W '" ++ words ++ "' " ++ programName
  | .elvish =>
    "set edit:completion:arg-completer[" ++ programName ++ "] = \x7b |@words| put " ++ words ++
      " \x7d"
  | .fish => "complete -c " ++ programName ++ " -f -a '" ++ words ++ "'"
  | .powershell =>
    "Register-ArgumentCompleter -Native -CommandName " ++ programName ++
      " -ScriptBlock \x7b '" ++ words ++ "' -split ' ' \x7d"
  | .zsh => "#compdef " ++ programName ++ "\ncompadd " ++ words

end Shell

end TypedRoutes.Command
