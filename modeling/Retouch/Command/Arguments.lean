import Retouch.Text.Split

/-!
# Arguments of the command line

What a list of arguments asks for. Flags are long (`--recipe R`, `--recipe=R`) or short (`-r R`, `-rR`,
several in a row); behind `--` there are none. The arguments are read from left to right, and the first
one that asks for help, or that does not fit, decides.
-/

namespace Retouch

inductive ListFormat where
  | text | json
deriving DecidableEq, Repr

/-- What a run is asked to do. -/
structure RunArguments where
  recipes : List String := []
  config : Option String := none
  options : List String := []
  exclude : List String := []
  paths : List String := []
  apply : Bool := false
deriving DecidableEq, Repr

/-- What help is about. -/
inductive Topic where
  | program | list | run | help
deriving DecidableEq, Repr

inductive Command where
  | list (format : ListFormat)
  | run (a : RunArguments)
  | version
  /-- Help on a topic, in short or in full. -/
  | help (topic : Topic) (full : Bool)
deriving DecidableEq, Repr

/-- Why arguments do not fit. -/
inductive UsageError where
  | noCommand
  | unknownCommand (name : String)
  | unexpected (argument : String)
  | noValue (flag : String)
  | badValue (flag value : String)
  | repeated (flag : String)
  | noPaths
deriving DecidableEq, Repr

def UsageError.message : UsageError → String
  | noCommand => "a command is required"
  | unknownCommand name => "unrecognized subcommand '" ++ name ++ "'"
  | unexpected argument => "unexpected argument '" ++ argument ++ "' found"
  | noValue flag => "a value is required for '--" ++ flag ++ "' but none was supplied"
  | badValue flag value => "invalid value '" ++ value ++ "' for '--" ++ flag ++ "'"
  | repeated flag => "the argument '--" ++ flag ++ "' cannot be used multiple times"
  | noPaths => "the following required arguments were not provided: <PATHS>..."

/-- What ends the reading of arguments. -/
inductive Interruption where
  | help (full : Bool)
  | version
  | usage (e : UsageError)

/-- A flag that a command takes. -/
structure Flag where
  name : String
  short : Option Char := none
  takesValue : Bool := false
  repeatable : Bool := false
  /-- The values that it takes. -/
  accepts : String → Bool := fun _ => true

/-- What was read: flags with their values, and the other arguments. -/
structure Parsed where
  flags : List (String × String) := []
  others : List String := []
  /-- Two dashes put an end to the flags. -/
  escaped : Bool := false

namespace Parsed

/-- The values of a flag, in order. -/
def values (p : Parsed) (name : String) : List String :=
  (p.flags.filter (·.1 == name)).map (·.2)

def has (p : Parsed) (name : String) : Bool := p.flags.any (·.1 == name)

/-- Takes a flag. -/
def addFlag (p : Parsed) (f : Flag) (value : String) : Except Interruption Parsed :=
  if f.name == "help" then .error (.help (value == "full"))
  else if f.name == "version" then .error .version
  else if p.has f.name && !f.repeatable then .error (.usage (.repeated f.name))
  else if !f.accepts value then .error (.usage (.badValue f.name value))
  else .ok { p with flags := p.flags ++ [(f.name, value)] }

/-- Takes another argument; an empty one is refused. -/
def addOther (p : Parsed) (argument : String) : Except Interruption Parsed :=
  if argument.isEmpty then .error (.usage (.unexpected argument))
  else .ok { p with others := p.others ++ [argument] }

end Parsed

/-- An argument that cannot be a value, since it looks like a flag. -/
def looksLikeFlag (argument : String) : Bool := Text.hasLead "-" argument && argument != "-"

/-- Whether the value of the last flag is still to come. -/
abbrev Pending := Option Flag

/-- Takes the short flags of an argument. -/
def Parsed.addShort (flags : List Flag) (argument : String) (p : Parsed) :
    List Char → Except Interruption (Parsed × Pending)
  | [] => .ok (p, none)
  | c :: cs =>
    match flags.find? (·.short == some c) with
    | none => .error (.usage (.unexpected argument))
    | some f =>
      if f.takesValue then
        match cs with
        | [] => .ok (p, some f)
        | '=' :: value => return (← p.addFlag f (String.ofList value), none)
        | value => return (← p.addFlag f (String.ofList value), none)
      else do
        let p ← p.addFlag f ""
        p.addShort flags argument cs

/-- Takes a long flag, given without its dashes. -/
def Parsed.addLong (flags : List Flag) (p : Parsed) (body : String) :
    Except Interruption (Parsed × Pending) :=
  let (name, value) := match Text.cut? '=' body with
    | some (name, value) => (name, some value)
    | none => (body, none)
  match flags.find? (·.name == name), value with
  | none, _ => .error (.usage (.unexpected ("--" ++ body)))
  | some f, some value =>
    if f.takesValue then return (← p.addFlag f value, none)
    else .error (.usage (.unexpected ("--" ++ body)))
  | some f, none =>
    if f.takesValue then .ok (p, some f)
    else return (← p.addFlag f (if f.name == "help" then "full" else ""), none)

/-- Reads the arguments of a command. `stopsAt` says how many other arguments end the reading; what is
left is handed over. -/
def Parsed.read (flags : List Flag) (stopsAt : Option Nat) (p : Parsed) (pending : Pending) :
    List String → Except Interruption (Parsed × List String)
  | [] =>
    match pending with
    | some f => .error (.usage (.noValue f.name))
    | none => .ok (p, [])
  | argument :: rest =>
    if stopsAt.any (· ≤ p.others.length) then .ok (p, argument :: rest)
    else match pending with
      | some f =>
        if looksLikeFlag argument then .error (.usage (.noValue f.name))
        else do
          let p ← p.addFlag f argument
          p.read flags stopsAt none rest
      | none =>
        if argument == "--" then do
          let p ← rest.foldlM Parsed.addOther { p with escaped := true }
          return (p, [])
        else match Text.dropLead? "--" argument with
          | some body => do
            let (p, pending) ← p.addLong flags body
            p.read flags stopsAt pending rest
          | none =>
            if looksLikeFlag argument then do
              let (p, pending) ← p.addShort flags argument (argument.toList.drop 1)
              p.read flags stopsAt pending rest
            else do
              let p ← p.addOther argument
              p.read flags stopsAt none rest

namespace Command

def commonFlags : List Flag :=
  [{ name := "verbose", short := some 'v' }, { name := "help", short := some 'h' }]

def programFlags : List Flag := commonFlags ++ [{ name := "version", short := some 'V' }]

def listFlags : List Flag :=
  commonFlags ++
    [{ name := "format", takesValue := true, accepts := fun v => v == "text" || v == "json" }]

def runFlags : List Flag :=
  commonFlags ++
    [{ name := "recipe", short := some 'r', takesValue := true, repeatable := true },
      { name := "config", short := some 'c', takesValue := true, accepts := (!·.isEmpty) },
      { name := "option", short := some 'o', takesValue := true, repeatable := true },
      { name := "exclude", takesValue := true, repeatable := true },
      { name := "apply" }]

/-- Turns what ends the reading of a command's arguments into a command or an error. -/
def interrupted (topic : Topic) : Interruption → Except UsageError Command
  | .help full => .ok (.help topic full)
  | .version => .ok .version
  | .usage e => .error e

/-- The arguments of the command that lists recipes. -/
def ofListArguments (arguments : List String) : Except UsageError Command :=
  match ({} : Parsed).read listFlags (some 1) none arguments with
  | .error e => interrupted .list e
  | .ok (p, _) =>
    match p.others with
    | other :: _ => .error (.unexpected other)
    | [] => .ok (.list (if p.values "format" == ["json"] then .json else .text))

/-- The arguments of the command that runs recipes. -/
def ofRunArguments (arguments : List String) : Except UsageError Command :=
  match ({} : Parsed).read runFlags none none arguments with
  | .error e => interrupted .run e
  | .ok (p, _) =>
    if p.others.isEmpty then .error .noPaths
    else .ok (.run
      { recipes := p.values "recipe"
        config := (p.values "config").head?
        options := p.values "option"
        exclude := p.values "exclude"
        paths := p.others
        apply := p.has "apply" })

/-- The arguments of the command that explains the others. -/
def ofHelpArguments : List String → Except UsageError Command
  | [] => .ok (.help .program true)
  | ["list"] => .ok (.help .list true)
  | ["run"] => .ok (.help .run true)
  | ["help"] => .ok (.help .help true)
  | name :: _ => .error (.unknownCommand name)

/-- The command that arguments ask for. -/
def ofArguments (arguments : List String) : Except UsageError Command :=
  match ({} : Parsed).read programFlags (some 1) none arguments with
  | .error e => interrupted .program e
  | .ok (p, rest) =>
    if p.escaped then .error (.unexpected "--")
    else match p.others with
    | ["list"] => ofListArguments rest
    | ["run"] => ofRunArguments rest
    | ["help"] => ofHelpArguments rest
    | name :: _ => .error (.unknownCommand name)
    | [] => .error .noCommand

end Command

end Retouch
