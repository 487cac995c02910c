import JavaComments.CommandLine

namespace JavaComments

def Page.lines : Page → List String
  | program => [
    "Build and render JavaDoc comments for generated Java sources",
    "",
    "Usage: javadoc-ast <COMMAND>",
    "",
    "Commands:",
    "  render  Render a JSON comment request as a JavaDoc block",
    "  help    Print this message or the help of the given subcommand(s)",
    "",
    "Options:",
    "  -h, --help     Print help",
    "  -V, --version  Print version"]
  | render => [
    "Render a JSON comment request as a JavaDoc block",
    "",
    "Usage: javadoc-ast render [OPTIONS] <INPUT>",
    "",
    "Arguments:",
    "  <INPUT>  Input JSON request",
    "",
    "Options:",
    "  -o, --output <OUTPUT>  Output file (defaults to stdout)",
    "      --indent <INDENT>  Spaces written before every line [default: 0]",
    "      --no-escape        Do not escape `*/` inside comment text",
    "      --raw              Print the comment body without JavaDoc delimiters",
    "  -h, --help             Print help"]
  | help => [
    "Print this message or the help of the given subcommand(s)",
    "",
    "Usage: javadoc-ast help [COMMAND]...",
    "",
    "Arguments:",
    "  [COMMAND]...  Print help for the subcommand(s)"]

def Page.text (page : Page) : Text := page.lines.flatMap fun line => line.toList ++ ['\n']

namespace Program

def versionLine : Text := "javadoc-ast 0.1.0\n".toList

/-- The status behind a rendering is 1 when it fails. -/
def conclude : Except Error Unit → Plan Nat
  | .ok () => .done 0
  | .error error => .complain ("Error: ".toList ++ error.message ++ ['\n']) (.done 1)

/-- The plan for given arguments, which ends with the status; it is 2 when they are refused. -/
def plan (args : List Text) : Plan Nat :=
  match CommandLine.command? args with
  | none => .complain "error: the arguments are not understood\n".toList (.done 2)
  | some .version => .print versionLine (.done 0)
  | some (.help page) => .print page.text (.done 0)
  | some (.render job) => job.plan.bind conclude

structure Outcome where
  status : Nat
  printed : Text
  files : FileSystem

def run (args : List Text) (files : FileSystem) : Outcome :=
  let outcome := (plan args).run files
  ⟨outcome.result, outcome.printed, outcome.files⟩

end Program

end JavaComments
