import Retouch.Config.Basic
import Retouch.Files.Basic

/-!
# Collecting sources

The sources that paths lead to: a file itself, all files below a directory, and what a pattern matches.
Patterns are matched component by component. Only files with the extension of sources count; they are
sorted, and no file is told twice under one path.
-/

namespace Retouch

/-- A component of a pattern. -/
inductive GlobStep where
  /-- A component without wildcards. -/
  | exactly (name : String)
  | named (g : Glob)
  /-- A component at any depth. -/
  | anywhere (g : Glob)
  /-- Two stars at the end, which match directories only. -/
  | directories

namespace GlobStep

/-- The text of a pattern without wildcards. -/
def literal? (g : Glob) : Option (List Char) :=
  g.mapM fun part =>
    match part with
    | .char c => some c
    | _ => none

/-- The steps of components; `deep` if two stars stand in front of them. -/
def ofGlobs (deep : Bool) : List Glob → List GlobStep
  | [] => if deep then [directories] else []
  | g :: gs =>
    if g == [.components] then ofGlobs true gs
    else if deep then anywhere g :: ofGlobs false gs
    else match literal? g with
      | some cs => exactly (String.ofList cs) :: ofGlobs false gs
      | none => named g :: ofGlobs false gs

/-- The patterns between slashes. A slash at the end makes no further one. -/
def componentTexts (pattern : String) : List String :=
  let parts := Text.split '/' pattern
  if Text.hasTail "/" pattern then parts.dropLast else parts

end GlobStep

namespace FileStore

/-- A name in a directory; the working directory is left out. -/
def joinBare (path name : String) : String :=
  if Path.components path == [.current] then name else Path.join path name

/-- The names in a directory that a pattern matches. A point and two points are matched only by patterns
that begin with a point. -/
def matchingNames (s : FileStore) (path : String) (g : Glob) : List String :=
  let special := if g.head? == some (.char '.') then [".", ".."] else []
  (s.namesIn path ++ special).filter g.accepts

/-- The paths that the steps lead to from a path. -/
def expand (s : FileStore) : List GlobStep → String → List String
  | [], path => [path]
  | .exactly name :: steps, path =>
    let next := joinBare path name
    if (s.kind? next).isSome then s.expand steps next else []
  | .named g :: steps, path =>
    if s.kind? path == some .directory then
      (s.matchingNames path g).flatMap fun name =>
        s.expand steps (if name == "." || name == ".." then Path.join path name
          else joinBare path name)
    else []
  | .anywhere g :: steps, path =>
    ((s.entriesBelow path).filter fun names => names.getLast?.any g.accepts).flatMap fun names =>
      s.expand steps (names.foldl joinBare path)
  | .directories :: _, _ => []

end FileStore

/-- Why files cannot be run. -/
inductive SourceError where
  | pattern (text : String) (e : GlobError)
  | recipe (e : RecipeError)
  | classpath (e : ClasspathError)

namespace SourceError

def message : SourceError → String
  | pattern text e => "invalid path pattern '" ++ text ++ "': " ++ e.message
  | recipe e => e.message
  | classpath e => "classpath: " ++ e.message

/-- The error with the ones that caused it, the outermost first. -/
def messages (e : SourceError) : List String :=
  e.message :: match e with
    | recipe (.unreadable c) => [c.message]
    | classpath c => [c.message]
    | _ => []

end SourceError

namespace FileStore

def isPattern (path : String) : Bool := path.toList.any fun c => c == '*' || c == '?' || c == '['

def isSource (path : String) : Bool := Path.extension? path == some "java"

/-- The files that a pattern matches. -/
def glob (s : FileStore) (pattern : String) : Except SourceError (List String) := do
  let _ ← (Glob.ofText pattern).mapError (SourceError.pattern pattern)
  let globs ← (GlobStep.componentTexts pattern).mapM fun part =>
    (Glob.ofText part).mapError (SourceError.pattern pattern)
  if Text.hasTail "/" pattern then return []
  return (s.expand (GlobStep.ofGlobs false globs) ".").filter s.isFile

/-- The files that a path leads to. -/
def filesAt (s : FileStore) (path : String) : Except SourceError (List String) :=
  if isPattern path then s.glob path
  else match s.kind? path with
    | some .file => .ok [path]
    | some .directory => .ok ((s.filesBelow path).map fun names => names.foldl Path.join path)
    | none => .ok []

/-- The paths without those that are the same as the ones in front of them. -/
def dropRepeated : List String → List String
  | a :: b :: rest =>
    if Path.components a == Path.components b then dropRepeated (a :: rest)
    else a :: dropRepeated (b :: rest)
  | paths => paths

/-- The sources that paths lead to. -/
def collect (s : FileStore) (exclusions : List Glob) (paths : List String) :
    Except SourceError (List String) := do
  let found := (← paths.mapM s.filesAt).flatten
  let kept := found.filter fun path => isSource path && !isExcluded exclusions path
  return dropRepeated (kept.mergeSort Path.le)

end FileStore

end Retouch
