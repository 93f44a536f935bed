import Bundler.Text.DecimalDigit
import Bundler.Text.Quoted

/-!
# Options

An option is spelled with one dash and a letter, or with two dashes and a word. A word may be
abbreviated as long as only one option begins with it. The value of an option follows it, either as
the next argument or in the same one: after an equals sign, or right after a letter. Letters of
options without values can be joined.

Anything else that begins with a dash is an unknown option, unless it is a negative number or holds a
space.
-/

set_option autoImplicit false

namespace Bundler.CommandLine

/-- What an option is for. -/
inductive OptionKind where
  /-- It asks for help. -/
  | help
  /-- It is given or not. -/
  | flag
  /-- It has a value, which may have to be one of several choices. -/
  | value (choices : Option (List String))
deriving DecidableEq, Repr

/-- An option. -/
structure OptionSpec where
  /-- How the option is spelled. -/
  spellings : List String
  /-- What the option is for. -/
  kind : OptionKind
deriving DecidableEq, Repr

namespace OptionSpec

/-- The name of an option in messages. -/
def name (o : OptionSpec) : String :=
  "/".intercalate o.spellings

/-- Whether an option has a value. -/
def hasValue (o : OptionSpec) : Bool :=
  match o.kind with
  | .value _ => true
  | _ => false

end OptionSpec

/-- Why arguments cannot be understood. -/
inductive UsageError where
  /-- An abbreviation fits several spellings. -/
  | ambiguous (argument : String) (spellings : List String)
  /-- An option lacks its value. -/
  | lacksValue (o : OptionSpec)
  /-- A value was given to an option that has none. -/
  | needlessValue (o : OptionSpec) (value : String)
  /-- A value is none of the choices. -/
  | notAmong (name value : String) (choices : List String)
  /-- There is no command. -/
  | lacksCommand
  /-- Some arguments belong to nothing. -/
  | unrecognized (arguments : List String)
deriving DecidableEq, Repr

/-- The description of arguments that cannot be understood. -/
def UsageError.message : UsageError → String
  | .ambiguous argument spellings =>
    "ambiguous option: " ++ argument ++ " could match " ++ ", ".intercalate spellings
  | .lacksValue o => "argument " ++ o.name ++ ": expected one argument"
  | .needlessValue o value =>
    "argument " ++ o.name ++ ": ignored explicit argument " ++ Text.quoted value
  | .notAmong name value choices =>
    "argument " ++ name ++ ": invalid choice: " ++ Text.quoted value ++ " (choose from " ++
      ", ".intercalate (choices.map Text.quoted) ++ ")"
  | .lacksCommand => "the following arguments are required: command"
  | .unrecognized arguments => "unrecognized arguments: " ++ " ".intercalate arguments

/-- What an argument is by its looks. -/
inductive Mark where
  /-- It is no option. -/
  | plain
  /-- It is the two dashes after which there are no options. -/
  | terminator
  /-- It is an option, perhaps with its value. -/
  | option (o : OptionSpec) (spelling : String) (value : Option String)
  /-- It looks like an option. -/
  | unknown
deriving DecidableEq, Repr

/-- Whether characters are a negative number: a dash and digits, perhaps with a point before the last
of them. A line feed may follow. -/
def isNegativeNumber (cs : List Char) : Bool :=
  match cs with
  | '-' :: rest =>
    let ends := fun (rest : List Char) => rest = [] ∨ rest = ['\n']
    let whole := rest.takeWhile Text.isDecimalDigit
    match rest.drop whole.length with
    | '.' :: fraction =>
      let digits := fraction.takeWhile Text.isDecimalDigit
      !digits.isEmpty && decide (ends (fraction.drop digits.length))
    | rest => !whole.isEmpty && decide (ends rest)
  | _ => false

/-- The spellings of options, each with its option. -/
def spelled (options : List OptionSpec) : List (String × OptionSpec) :=
  options.flatMap fun o => o.spellings.map (·, o)

/-- A text up to its first equals sign and after it. -/
def cutAtEquals (s : String) : String × Option String :=
  let cs := s.toList
  let before := cs.takeWhile (· != '=')
  (String.ofList before,
    match cs.drop before.length with
    | _ :: after => some (String.ofList after)
    | [] => none)

/-- The options that an argument may abbreviate or be joined from. -/
def candidateMarks (options : List OptionSpec) (argument : String) : List Mark :=
  if argument.startsWith "--" then
    let (word, value) := cutAtEquals argument
    (spelled options).filterMap fun (spelling, o) =>
      if spelling.startsWith word then some (.option o spelling value) else none
  else
    let letter := String.ofList (argument.toList.take 2)
    (spelled options).filterMap fun (spelling, o) =>
      if spelling = letter then
        some (.option o spelling (some (String.ofList (argument.toList.drop 2))))
      else none

/-- What an argument is that is not just two dashes. -/
def markOf (options : List OptionSpec) (argument : String) : Except UsageError Mark :=
  if !argument.startsWith "-" then .ok .plain
  else
    match (spelled options).lookup argument with
    | some o => .ok (.option o argument none)
    | none =>
      if argument = "-" then .ok .plain
      else
        let (word, value) := cutAtEquals argument
        match value, (spelled options).lookup word with
        | some value, some o => .ok (.option o word (some value))
        | _, _ =>
          match candidateMarks options argument with
          | [mark] => .ok mark
          | [] =>
            if isNegativeNumber argument.toList || argument.toList.contains ' ' then .ok .plain
            else .ok .unknown
          | several =>
            .error (.ambiguous argument (several.filterMap fun
              | .option _ spelling _ => some spelling
              | _ => none))

/-- Arguments with what they are. -/
def markAll (options : List OptionSpec) : List String → Except UsageError (List (String × Mark))
  | [] => .ok []
  | argument :: rest =>
    if argument = "--" then .ok ((argument, .terminator) :: rest.map (·, .plain))
    else do
      let mark ← markOf options argument
      return (argument, mark) :: (← markAll options rest)

end Bundler.CommandLine
