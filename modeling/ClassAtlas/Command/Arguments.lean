/-!
# Command line arguments

The arguments of a command are options and operands. An option is a word with two dashes or a
letter with one; it is a flag or takes a value, which follows it as the next argument, behind
an equals sign, or directly behind the letter. Letters of flags may share a dash. Two dashes
alone end the options, and a command that runs others ends them at its first operand.
-/
namespace ClassAtlas.Command

/-- An option that a command knows. -/
structure OptionSpec where
  /-- Its spellings, dashes included. -/
  spellings : List String
  /-- The setting it makes. -/
  key : String
  /-- The value that a flag sets, none if the option takes a value. -/
  flag : Option String := none

/-- What arguments say: the settings that options make, in order, and the operands. -/
structure Parsed where
  /-- The settings in order. -/
  settings : List (String × String) := []
  /-- The operands in order. -/
  operands : List String := []
deriving Inhabited

namespace Parsed

/-- The latest value of a setting. -/
def last? (parsed : Parsed) (key : String) : Option String :=
  (parsed.settings.reverse.find? (·.1 == key)).map (·.2)

/-- Every value of a setting in order. -/
def values (parsed : Parsed) (key : String) : List String :=
  (parsed.settings.filter (·.1 == key)).map (·.2)

/-- Whether a flag was given. -/
def has (parsed : Parsed) (key : String) : Bool := (parsed.last? key).isSome

/-- A setting in front of the others. -/
def withSetting (key value : String) (parsed : Parsed) : Parsed :=
  { parsed with settings := (key, value) :: parsed.settings }

/-- Settings in front of the others. -/
def withSettings (settings : List (String × String)) (parsed : Parsed) : Parsed :=
  { parsed with settings := settings ++ parsed.settings }

/-- An operand in front of the others. -/
def withOperand (operand : String) (parsed : Parsed) : Parsed :=
  { parsed with operands := operand :: parsed.operands }

end Parsed

/-- The option with a spelling. -/
def findOption? (specs : List OptionSpec) (spelling : String) : Option OptionSpec :=
  specs.find? (·.spellings.contains spelling)

/-- The name and the value of a word that holds an equals sign. -/
def cutEquals (chars : List Char) : List Char × Option (List Char) :=
  match chars.dropWhile (· != '=') with
  | [] => (chars, none)
  | _ :: value => (chars.takeWhile (· != '='), some value)

/-- The settings of letters behind one dash, and the key of the last one if its value is the
next argument. -/
def readLetters (specs : List OptionSpec) :
    List Char → Option (List (String × String) × Option String)
  | [] => some ([], none)
  | letter :: rest => do
    let spec ← findOption? specs (String.ofList ['-', letter])
    match spec.flag with
    | some value =>
      let (settings, pending) ← readLetters specs rest
      some ((spec.key, value) :: settings, pending)
    | none =>
      if rest.isEmpty then some ([], some spec.key)
      else some ([(spec.key, String.ofList rest)], none)

/-- The settings of one option argument, and the key that the next argument is the value of. -/
def readOption (specs : List OptionSpec) (argument : String) :
    Option (List (String × String) × Option String) :=
  match argument.toList with
  | '-' :: '-' :: _ => do
    let (name, value) := cutEquals argument.toList
    let spec ← findOption? specs (String.ofList name)
    match spec.flag, value with
    | some flag, none => some ([(spec.key, flag)], none)
    | some _, some _ => none
    | none, some value => some ([(spec.key, String.ofList value)], none)
    | none, none => some ([], some spec.key)
  | _ :: letters => readLetters specs letters
  | [] => none

/-- Whether an argument is an option. -/
def isOption (argument : String) : Bool :=
  argument.toList.head? == some '-' && 1 < argument.length

/-- Read arguments, none if the command does not know an option or a value is missing. Options
may stand behind operands where they are `mixed`. -/
def readArguments (specs : List OptionSpec) (mixed : Bool) : List String → Option Parsed
  | [] => some {}
  | argument :: rest =>
    if argument = "--" then some { operands := rest }
    else if isOption argument then
      match readOption specs argument with
      | none => none
      | some (settings, none) => (readArguments specs mixed rest).map (·.withSettings settings)
      | some (settings, some key) =>
        match rest with
        | [] => none
        | value :: rest =>
          (readArguments specs mixed rest).map fun parsed =>
            (parsed.withSetting key value).withSettings settings
    else if mixed then (readArguments specs mixed rest).map (·.withOperand argument)
    else some { operands := argument :: rest }

end ClassAtlas.Command
