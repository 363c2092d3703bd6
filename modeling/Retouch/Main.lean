import Retouch.Command.Basic

/-!
# The program

Reads the files that the arguments lead to, hands them to `Command.execute`, and carries out what it
answers: files that changed are written back, and the two streams and the exit code are passed on.
-/

namespace Retouch

/-- The directory in which the files of a pattern are looked for, or the path itself. -/
def loadRoot (path : String) : String :=
  if FileStore.isPattern path then
    let parts := (Text.split '/' path).takeWhile (!FileStore.isPattern ·)
    if parts.isEmpty then "." else "/".intercalate parts ++ "/"
  else path

/-- Reads the sources at or below a path. What is not there is left out. -/
partial def load (path : String) : IO (List (Location × String)) := do
  let real ← try IO.FS.realPath path catch _ => return []
  if ← real.isDir then
    let entries ← real.readDir
    let parts ← entries.toList.mapM fun entry => load (Path.join path entry.fileName)
    return parts.flatten
  if FileStore.isSource path then return [(Location.ofPath path, ← IO.FS.readFile path)]
  return []

/-- Reads a file that the arguments name, whatever its extension. -/
def loadFile (path : String) : IO (List (Location × String)) := do
  try return [(Location.ofPath path, ← IO.FS.readFile path)]
  catch _ => return []

/-- The files that a command can see. -/
def Command.load : Command → IO FileStore
  | run a => do
    let config ← (a.config.map loadFile).getD (pure [])
    let parts ← a.paths.mapM fun path => Retouch.load (loadRoot path)
    return ⟨(config ++ parts.flatten).foldl (fun files (place, text) =>
      if files.any (·.1 == place) then files else files ++ [(place, text)]) []⟩
  | _ => return {}

/-- Writes the files that an outcome changed, and prints what it says. -/
def Outcome.carryOut (before : FileStore) (o : Outcome) : IO UInt32 := do
  for ((place, old), (_, new)) in before.files.zip o.files.files do
    if old != new then IO.FS.writeFile (Location.path place) new
  IO.print o.stdout
  IO.eprint o.stderr
  return o.code.toUInt32

end Retouch

def main (arguments : List String) : IO UInt32 := do
  let files ← match Retouch.Command.ofArguments arguments with
    | .ok command => command.load
    | .error _ => pure {}
  (Retouch.Command.executeArguments files arguments).carryOut files
