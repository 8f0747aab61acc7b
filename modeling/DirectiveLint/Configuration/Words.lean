import DirectiveLint.Configuration

/-!
# The words of the program

The words in which the program itself refuses a configuration file.  A text that is no TOML is
refused without further ado; about settings there is a line for each problem, with its place as seen
from the whole file.
-/

namespace DirectiveLint.Settings

def Fault.text : Fault → String
  | notBoolean => "should be a boolean"
  | unclearBoolean => "cannot be read as a boolean"
  | notList => "should be a list"
  | notText => "should be a string"
  | notTable => "should be a table"
  | unknownKey => "is not a setting"

def Step.text : Step → String
  | .key name => name
  | .index i => toString i

def Problem.line (problem : Problem) : String :=
  ".".intercalate ("tool" :: "nolintlint" :: problem.place.map Step.text) ++ " " ++
    problem.fault.text

end DirectiveLint.Settings

namespace DirectiveLint.Configuration

instance words : Wording where
  toml _ := "it does not follow the grammar"
  settings _ problems := "\n".intercalate (problems.map Settings.Problem.line)

end DirectiveLint.Configuration
