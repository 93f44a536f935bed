import Bundler.CommandLine.Option

/-!
# Reading arguments

A command has options and at most one plain argument. Options and plain arguments may stand in any
order. Arguments that belong to nothing are collected.

The program itself has options and then a command, to which all further arguments belong.
-/

set_option autoImplicit false

namespace Bundler.CommandLine

/-- A program or one of its commands. -/
structure Usage where
  /-- The words that it is called by. -/
  name : String
  /-- Its options. -/
  options : List OptionSpec
  /-- Whether the first plain argument is a command, to which all others belong. -/
  takesCommand : Bool := false

/-- Why nothing is done. -/
inductive Halt where
  /-- Help was asked for. -/
  | help
  /-- The arguments of a program or a command cannot be understood. -/
  | misuse (name : String) (e : UsageError)
deriving DecidableEq, Repr

/-- What arguments say. -/
structure Reading where
  /-- The options that were given, with their values, the last first. -/
  given : List (OptionSpec × Option String) := []
  /-- The plain argument. -/
  plain : Option String := none
  /-- The arguments that belong to nothing. -/
  extras : List String := []
  /-- The command with its arguments. -/
  command : List String := []

namespace Reading

/-- Whether an option was given. -/
def has (r : Reading) (spelling : String) : Bool :=
  r.given.any fun (o, _) => o.spellings.contains spelling

/-- The last value of an option. -/
def value? (r : Reading) (spelling : String) : Option String :=
  r.given.findSome? fun (o, value) => if o.spellings.contains spelling then value else none

end Reading

/-- Splits an option with a text right after it: an option without value may be followed by the letter
of another one. Returns the options without values, and the last option with its value if that is
given. -/
def splitJoined (options : List OptionSpec) (o : OptionSpec) (long : Bool) :
    List Char → Except UsageError (List OptionSpec × OptionSpec × Option String)
  | [] => if o.hasValue then .ok ([], o, some "") else .error (.needlessValue o "")
  | c :: cs =>
    let text := String.ofList (c :: cs)
    if o.hasValue then .ok ([], o, some text)
    else if long then .error (.needlessValue o text)
    else
      match (spelled options).lookup (String.ofList ['-', c]) with
      | none => .error (.needlessValue o text)
      | some next =>
        if cs.isEmpty then .ok ([o], next, none)
        else
          match splitJoined options next false cs with
          | .ok (flags, last, value) => .ok (o :: flags, last, value)
          | .error e => .error e

/-- The options that an argument stands for. -/
def splitOption (options : List OptionSpec) (o : OptionSpec) (spelling : String) :
    Option String → Except UsageError (List OptionSpec × OptionSpec × Option String)
  | none => .ok ([], o, none)
  | some text => splitJoined options o (spelling.startsWith "--") text.toList

namespace Usage

/-- The outcome of a step, for a reader of the messages. -/
def orMisuse {α : Type} (u : Usage) (x : Except UsageError α) : Except Halt α :=
  x.mapError (.misuse u.name)

/-- Notes an option with its value. -/
def give (u : Usage) (r : Reading) (o : OptionSpec) (value : Option String) :
    Except Halt Reading :=
  match o.kind, value with
  | .help, _ => .error .help
  | .value (some choices), some chosen =>
    if choices.contains chosen then .ok { r with given := (o, value) :: r.given }
    else .error (.misuse u.name (.notAmong o.name chosen choices))
  | _, _ => .ok { r with given := (o, value) :: r.given }

/-- Notes options without values and then an option with its value. -/
def giveAll (u : Usage) (r : Reading) (flags : List OptionSpec) (last : OptionSpec)
    (value : Option String) : Except Halt Reading := do
  let r ← flags.foldlM (fun r o => u.give r o none) r
  u.give r last value

/-- The state of a reader of arguments. -/
structure State where
  /-- What the arguments have said so far. -/
  reading : Reading := {}
  /-- An option that waits for its value, after options that were joined with it. -/
  waiting : Option (List OptionSpec × OptionSpec) := none
  /-- Whether the last argument was the plain one. -/
  afterPlain : Bool := false

/-- Reads one argument. Two dashes before or after the plain argument belong to it. -/
def step (u : Usage) (s : State) : String × Mark → Except Halt State
  | (text, mark) =>
    let r := s.reading
    if r.command != [] then .ok { reading := { r with command := r.command ++ [text] } }
    else
      let ignore : Except Halt State := .ok { reading := { r with extras := r.extras ++ [text] } }
      match s.waiting, mark with
      | some (flags, o), .plain => do return { reading := ← u.giveAll r flags o (some text) }
      | some (_, o), _ => .error (.misuse u.name (.lacksValue o))
      | none, .unknown => ignore
      | none, .option o spelling value => do
        let (flags, last, value) ← u.orMisuse (splitOption u.options o spelling value)
        if last.hasValue && value.isNone then
          return { reading := r, waiting := some (flags, last) }
        else return { reading := ← u.giveAll r flags last value }
      | none, .plain =>
        if u.takesCommand then .ok { reading := { r with command := [text] } }
        else if r.plain.isNone then
          .ok { reading := { r with plain := some text }, afterPlain := true }
        else ignore
      | none, .terminator =>
        if u.takesCommand then .ok { reading := { r with command := [text] } }
        else if r.plain.isNone || s.afterPlain then .ok { reading := r }
        else ignore

/-- What the arguments of a program or a command say. -/
def read (u : Usage) (arguments : List String) : Except Halt Reading := do
  let marked ← u.orMisuse (markAll u.options arguments)
  let s ← marked.foldlM u.step {}
  match s.waiting with
  | some (_, o) => .error (.misuse u.name (.lacksValue o))
  | none => .ok s.reading

/-- What the arguments of a program say, along with the command and what its arguments say. -/
def readCommand {α : Type} (u : Usage) (commands : List (String × Usage × α))
    (arguments : List String) : Except Halt (Reading × α × Reading) := do
  let outer ← u.read arguments
  match outer.command with
  | [] | ["--"] => .error (.misuse u.name .lacksCommand)
  | word :: arguments =>
    match commands.lookup word with
    | none => .error (.misuse u.name (.notAmong "command" word (commands.map Prod.fst)))
    | some (command, a) =>
      let inner ← command.read arguments
      match outer.extras ++ inner.extras with
      | [] => .ok (outer, a, inner)
      | extras => .error (.misuse u.name (.unrecognized extras))

end Usage

end Bundler.CommandLine
