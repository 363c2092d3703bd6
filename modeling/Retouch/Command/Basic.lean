import Retouch.Command.Help
import Retouch.Files.Run
import Retouch.Recipe.Listing

/-!
# The command line

What the program does for a list of arguments, as a function from the files that it sees to what it
prints, the files that it leaves and its exit code.

* A run prints the diff of each changed file and then the sum of the changes. It writes files only if
  asked to.
* Remarks and errors go to the second stream. A file that cannot be processed makes the exit code one,
  but does not stop the run; arguments that do not fit make it two.
-/

namespace Retouch

/-- What the program leaves behind. -/
structure Outcome where
  code : Nat := 0
  stdout : String := ""
  stderr : String := ""
  files : FileStore

namespace Outcome

/-- Lines, each of them ended. -/
def ended (lines : List String) : String := String.join (lines.map (· ++ "\n"))

/-- A text whose lines behind the first are moved to the right. -/
def hanging (indent : Nat) (text : String) : String :=
  ("\n" ++ String.ofList (List.replicate indent ' ')).intercalate (Text.split '\n' text)

/-- The causes of an error, numbered if there is more than one. -/
def causeLines : List String → List String
  | [] => []
  | [cause] => ["", "Caused by:", "    " ++ hanging 4 cause]
  | causes =>
    ["", "Caused by:"] ++ causes.zipIdx.map fun (cause, i) =>
      let number := toString i
      String.ofList (List.replicate (5 - number.length) ' ') ++ number ++ ": " ++ hanging 7 cause

/-- Ends with an error and what caused it, the outermost cause first. -/
def fail (o : Outcome) (message : String) (causes : List String) : Outcome :=
  { o with
    code := 1
    stderr := o.stderr ++ ended (("Error: " ++ message) :: causeLines causes) }

def print (o : Outcome) (text : String) : Outcome := { o with stdout := o.stdout ++ text }

end Outcome

/-- An error with the ones that caused it, the outermost first. -/
def RecipeError.messages (e : RecipeError) : List String := (SourceError.recipe e).messages

namespace Command

/-- What went wrong, and what caused it. -/
abbrev Failing := Except (String × List String)

/-- The configuration of a file, or the one without settings. -/
def configOf (files : FileStore) : Option String → Failing RunConfig
  | none => .ok {}
  | some path => do
    let text ← (files.read path).mapError fun e => ("Failed to read config " ++ path, [e.message])
    (RunConfig.ofText text).mapError fun e => ("Invalid config " ++ path, e.messages)

/-- The configuration with what the arguments add to it. -/
def fullConfig (files : FileStore) (a : RunArguments) : Failing RunConfig := do
  let c ← configOf files a.config
  let c := { c with recipes := c.recipes ++ a.recipes, exclude := c.exclude ++ a.exclude }
  let c ← a.options.foldlM (fun c option =>
    (c.setOption option).mapError fun e => ("Invalid --option " ++ option, e.messages)) c
  if c.recipes.isEmpty then
    throw ("No recipes given; pass --recipe or list them in a config file", [])
  return c

/-- The lines on what did not go smoothly. -/
def remarks (r : SourceRun) : List String :=
  (r.run.diagnostics.filter (·.severity != .debug)).map (·.display) ++
    r.parseErrors.map (fun e => "error: " ++ e.message) ++
    r.run.errors.map fun (path, e) => "error: " ++ path ++ ": " ++ e.message

/-- What a finished run prints and leaves. -/
def report (files : FileStore) (apply : Bool) (r : SourceRun) : Outcome :=
  let diffs := r.run.changedUnits.map (·.diff)
  let total := diffs.foldl (fun (total : Diff.Stats) d => total.add d.2) {}
  let summary := if total.isEmpty then ["No changes"] else ["", total.display]
  let ending :=
    if apply then ["Wrote " ++ toString r.run.changedUnits.length ++ " file(s)"]
    else if total.isEmpty then [] else ["Dry run; pass --apply to write changes"]
  let outcome : Outcome :=
    { stdout := String.join (diffs.map (·.1)) ++ Outcome.ended (summary ++ ending)
      stderr := Outcome.ended (remarks r)
      files := if apply then files.writeChanges r.run else files }
  let failed := r.parseErrors.length + r.run.errors.length
  if failed == 0 then outcome
  else outcome.fail (toString failed ++ " file(s) could not be processed") []

/-- Runs recipes over files. -/
def executeRun (files : FileStore) (a : RunArguments) : Outcome :=
  let made : Failing SourceRun := do
    let c ← fullConfig files a
    (c.runFiles files a.paths).mapError fun e => ("Failed to run recipes", e.messages)
  match made with
  | .error (message, causes) => ({ files : Outcome }).fail message causes
  | .ok r => report files a.apply r

/-- Does what a command asks for. -/
def execute (files : FileStore) : Command → Outcome
  | list format =>
    let descriptors := Registry.builtin.descriptors
    { files
      stdout := match format with
        | .text => Outcome.ended (descriptors.flatMap (·.lines))
        | .json => (Document.list (descriptors.map (·.document))).pretty ++ "\n" }
  | run a => executeRun files a
  | version => { files, stdout := programName ++ " " ++ programVersion ++ "\n" }
  | help topic full => { files, stdout := helpText topic full }

/-- Does what arguments ask for. -/
def executeArguments (files : FileStore) (arguments : List String) : Outcome :=
  match ofArguments arguments with
  | .ok command => command.execute files
  | .error e =>
    { files
      code := 2
      stderr := "error: " ++ e.message ++ "\n\n" ++ usageText .program ++
        "\n\nFor more information, try '--help'.\n" }

end Command

end Retouch
