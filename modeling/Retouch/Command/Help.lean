import Retouch.Command.Arguments

/-!
# Help texts

What the program says about itself.
-/

namespace Retouch.Command

def programName : String := "rewrite-testing"

def programVersion : String := "0.3.0"

/-- Names and what they mean, in two columns. -/
def columns (rows : List (String × String)) : List String :=
  let width := rows.foldl (fun w (name, _) => max w name.length) 0
  rows.map fun (name, text) =>
    "  " ++ name ++ String.ofList (List.replicate (width - name.length) ' ') ++ "  " ++ text

/-- Names and what they mean, each meaning on a line of its own. -/
def paragraphs (rows : List (String × String)) : List String :=
  ["\n\n".intercalate (rows.map fun (name, text) => "  " ++ name ++ "\n          " ++ text)]

def usageText : Topic → String
  | .program => "Usage: " ++ programName ++ " [OPTIONS] <COMMAND>"
  | .list => "Usage: " ++ programName ++ " list [OPTIONS]"
  | .run => "Usage: " ++ programName ++ " run [OPTIONS] <PATHS>..."
  | .help => "Usage: " ++ programName ++ " help [COMMAND]..."

def shortAbout : Topic → String
  | .program =>
    "Migrate Java test sources from JUnit assertions to AssertJ and tidy Mockito imports"
  | .list => "List available recipes and their options"
  | .run => "Run recipes over Java sources"
  | .help => "Print this message or the help of the given subcommand(s)"

/-- What the program is about, in full. -/
def fullAbout : String :=
  "\n".intercalate [
    "Pattern-directed rewriter for Java test sources.",
    "",
    "Sources are parsed into a lossless tree, attributed against a bundled",
    "classpath and rewritten by recipes until nothing changes. Only the edited",
    "regions differ from the input; everything else is printed back verbatim.",
    "",
    "COMMON USE CASES:",
    "  Convert JUnit Jupiter assertions to AssertJ (dry run, prints a diff):",
    "    rewrite-testing run --recipe testing.assertj.JUnitToAssertj src/test/java",
    "",
    "  Drop @RunWith(JUnit4.class) and write the result:",
    "    rewrite-testing run --recipe testing.junit5.RemoveObsoleteRunners \\",
    "        --option testing.junit5.RemoveObsoleteRunners.obsoleteRunners=" ++
      "org.junit.runners.JUnit4 \\",
    "        src/test/java --apply"]

def verboseRow : String × String :=
  ("-v, --verbose", "Log debug output to stderr (RUST_LOG overrides)")

def runRows : List (String × String) := [
  ("-r, --recipe <RECIPES>",
    "Recipe ids to run, in order (appended to the config file's list)"),
  verboseRow,
  ("-c, --config <CONFIG>", "YAML run configuration"),
  ("-o, --option <OPTIONS>",
    "Option value as <recipe>.<option>=<value>; the value is read as YAML"),
  ("    --exclude <EXCLUDE>",
    "Exclude paths matching these glob patterns (can be used multiple times)"),
  ("    --apply", "Write changes (default is dry-run)"),
  ("-h, --help", "Print help")]

def listRows : List (String × String) := [
  ("    --format <FORMAT>", "Output format [default: text] [possible values: text, json]"),
  verboseRow,
  ("-h, --help", "Print help")]

/-- Uses of the command that runs recipes. -/
def runExamples : List String := [
  "EXAMPLES:",
  "    # Preview the AssertJ migration of one module",
  "    rewrite-testing run --recipe testing.assertj.JUnitToAssertj module/src/test/java",
  "",
  "    # Several recipes, with settings from a file",
  "    rewrite-testing run --config rewrite.yml --recipe testing.mockito.CleanupMockitoImports " ++
    "'src/**/*Test.java'",
  "",
  "CONFIG FILE (YAML):",
  "    recipes: [testing.assertj.JUnitToAssertj]",
  "    options:",
  "      testing.junit5.RemoveObsoleteRunners:",
  "        obsoleteRunners: [org.junit.runners.JUnit4]",
  "    exclude: ['**/generated/**']",
  "    max_cycles: 3"]

def programHelp (full : Bool) : List String :=
  let commands := columns [("list", shortAbout .list), ("run", shortAbout .run),
    ("help", shortAbout .help)]
  let options := if full then
      paragraphs [verboseRow, ("-h, --help", "Print help (see a summary with '-h')"),
        ("-V, --version", "Print version")]
    else
      columns [verboseRow, ("-h, --help", "Print help (see more with '--help')"),
        ("-V, --version", "Print version")]
  [if full then fullAbout else shortAbout .program, "", usageText .program, "", "Commands:"] ++
    commands ++ ["", "Options:"] ++ options ++
    ["", "For detailed help on any command, use: rewrite-testing <COMMAND> --help"]

def topicHelp : Topic → List String
  | .program => []
  | .list => [shortAbout .list, "", usageText .list, "", "Options:"] ++ columns listRows
  | .run =>
    [shortAbout .run, "", usageText .run, "", "Arguments:"] ++
      columns [("<PATHS>...", "Files, directories or glob patterns")] ++ ["", "Options:"] ++
      columns runRows ++ [""] ++ runExamples
  | .help =>
    [shortAbout .help, "", usageText .help, "", "Arguments:"] ++
      columns [("[COMMAND]...", "Print help for the subcommand(s)")]

/-- The help on a topic; only the program has more than a short one. -/
def helpText (topic : Topic) (full : Bool) : String :=
  let lines := if topic == .program then programHelp full else topicHelp topic
  "\n".intercalate lines ++ "\n"

end Retouch.Command
