import DirectiveLint.FilePath

/-!
# Command lines

    [-v] lint PATHS… [--config PATH] [--severity NAME] [--report-unused | --no-report-unused]
    [-v] directives PATHS…

A command line is read into a `Command`, or into the fault that it has.

* Options of the program stand before the name of the command, options of a command anywhere
  behind it.
* The value of an option follows an equals sign or is the next word, whatever that word is.
* Two hyphens alone end the options.
* An option that is given twice counts as given last.
* A hyphen alone, and the empty word, are no options.
* No path holds the character zero.
-/

namespace DirectiveLint

structure LintOptions where
  paths : List FilePath
  config : FilePath := .ofString ".nolintlint.toml"
  severity : String := "STYLE"
  reportUnused : Bool := false
  deriving DecidableEq, Repr

inductive Action where
  | lint (options : LintOptions)
  | directives (paths : List FilePath)
  deriving DecidableEq, Repr

structure Command where
  /-- Tell what is being done. -/
  verbose : Bool := false
  action : Action
  deriving DecidableEq, Repr

inductive UsageFault where
  | noCommand
  | unknownCommand (name : String)
  | unknownOption (name : String)
  | missingValue (option : String)
  | unexpectedValue (option : String)
  | noPaths
  | nullCharacter
  deriving DecidableEq, Repr

def UsageFault.message : UsageFault → String
  | noCommand => "no command is given"
  | unknownCommand name => "there is no command " ++ name
  | unknownOption name => "there is no option " ++ name
  | missingValue option => option ++ " needs a value"
  | unexpectedValue option => option ++ " takes no value"
  | noPaths => "no paths are given"
  | nullCharacter => "a path holds the character zero"

namespace Arguments

/-! ## Words -/

/-- A word that is read as an option. -/
def isOption (word : String) : Bool :=
  match word.toList with
  | '-' :: _ :: _ => true
  | _ => false

/-- An option word: its name, and the value behind its equals sign if there is one. -/
def splitOption (word : String) : String × Option String :=
  let name := word.toList.takeWhile (· != '=')
  match word.toList.dropWhile (· != '=') with
  | [] => (word, none)
  | _ :: value => (String.ofList name, some (String.ofList value))

inductive Item where
  | word (text : String)
  | option (name value : String)
  | flag (name : String)
  deriving DecidableEq, Repr

def Item.before (item : Item) : Except UsageFault (List Item) → Except UsageFault (List Item) :=
  Except.map (item :: ·)

/-- **Sorting out the words of a command**: `options` take a value, `flags` do not. -/
def sort (options flags : List String) : List String → Except UsageFault (List Item)
  | [] => .ok []
  | word :: rest =>
    if word == "--" then .ok (rest.map .word)
    else if !isOption word then (Item.word word).before (sort options flags rest)
    else
      let (name, value?) := splitOption word
      if options.contains name then
        match value? with
        | some value => (Item.option name value).before (sort options flags rest)
        | none =>
          match rest with
          | [] => .error (.missingValue name)
          | value :: rest => (Item.option name value).before (sort options flags rest)
      else if flags.contains name then
        match value? with
        | none => (Item.flag name).before (sort options flags rest)
        | some _ => .error (.unexpectedValue name)
      else .error (.unknownOption word)

def pathsOf (items : List Item) : List FilePath :=
  items.filterMap fun item =>
    match item with
    | .word text => some (.ofString text)
    | _ => none

/-! ## Commands -/

def LintOptions.apply (options : LintOptions) : Item → LintOptions
  | .option "--config" value => { options with config := .ofString value }
  | .option "--severity" value => { options with severity := value }
  | .flag "--report-unused" => { options with reportUnused := true }
  | .flag "--no-report-unused" => { options with reportUnused := false }
  | _ => options

def lint (words : List String) : Except UsageFault LintOptions := do
  let items ← sort ["--config", "--severity"] ["--report-unused", "--no-report-unused"] words
  if (pathsOf items).isEmpty then throw .noPaths
  let options := items.foldl LintOptions.apply { paths := pathsOf items }
  if (options.config :: options.paths).any FilePath.hasNull then throw .nullCharacter
  return options

def directives (words : List String) : Except UsageFault (List FilePath) := do
  let items ← sort [] [] words
  if (pathsOf items).isEmpty then throw .noPaths
  if (pathsOf items).any FilePath.hasNull then throw .nullCharacter
  return pathsOf items

def action (name : String) (words : List String) : Except UsageFault Action :=
  if name == "lint" then (lint words).map .lint
  else if name == "directives" then (directives words).map .directives
  else .error (.unknownCommand name)

/-- The word asks for the log: the long option, or any number of the short one in one word. -/
def isVerbose (word : String) : Bool :=
  word == "--verbose" || (word.toList.drop 1).all (· == 'v')

/-- **Reading a command line.** -/
def read : List String → Except UsageFault Command
  | [] => .error .noCommand
  | word :: rest =>
    if word == "--" then
      match rest with
      | [] => .error .noCommand
      | name :: words => (action name words).map (⟨false, ·⟩)
    else if isOption word then
      if isVerbose word then (read rest).map fun command => { command with verbose := true }
      else .error (.unknownOption word)
    else (action word rest).map (⟨false, ·⟩)

/-- **Behind two hyphens there are no options.** -/
theorem sort_dashes (options flags rest : List String) :
    sort options flags ("--" :: rest) = .ok (rest.map .word) := by
  simp [sort]

theorem read_nil : read [] = .error .noCommand := rfl

end Arguments

end DirectiveLint
