import ClassDiagram.CommandLine.Command
import ClassDiagram.Text.Split

/-! What the user is told about command lines that are not carried out.
-/

namespace ClassDiagram.CommandLine

/-- Lines, each with its end. -/
def lines (texts : List String) : String :=
  Text.concat (texts.map (· ++ "\n"))

/-- How a command line is written, in one line. -/
def Topic.synopsis : Topic → String
  | program => "Usage: tsuml [OPTIONS] <COMMAND>"
  | generate => "Usage: tsuml generate [OPTIONS]"
  | engines => "Usage: tsuml engines [OPTIONS]"
  | help => "Usage: tsuml help [COMMAND]..."

/-- The text that helps with a topic. -/
def Topic.usage : Topic → String
  | program =>
    lines
      [
        "Render class and interface declarations as Mermaid or yUML class diagrams",
        "",
        program.synopsis,
        "",
        "Commands:",
        "  generate  Render a declaration dump as a class diagram",
        "  engines   Show available diagram engines",
        "  help      Print this message or the help of the given subcommand(s)",
        "",
        "Options:",
        "  -v, --verbose                  Enable verbose output",
        "      --log-level <LOG_LEVEL>    Set log level (trace|debug|info|warn|error) "
          ++ "[default: warn] [possible values: trace, debug, info, warn, error]",
        "      --log-format <LOG_FORMAT>  Set log format (compact|pretty|json) "
          ++ "[default: compact] [possible values: compact, pretty, json]",
        "  -h, --help                     Print help",
        "  -V, --version                  Print version"
      ]
  | generate =>
    lines
      [
        "Render a declaration dump as a class diagram",
        "",
        generate.synopsis,
        "",
        "Options:",
        "  -i, --input <INPUT>        JSON declaration dump (use - for stdin)",
        "  -t, --type <ENGINE>        Diagram notation [default: mermaid] "
          ++ "[possible values: mermaid, yuml]",
        "  -o, --output <OUTPUT>      Output file for the diagram (Mermaid) or its URL (yUML); "
          ++ "stdout without one",
        "      --no-open              Do not open the published yUML diagram in the system viewer",
        "      --strict               Fail on unresolved members and heritage clauses instead of "
          ++ "dropping them",
        "      --yuml-url <YUML_URL>  yUML service to publish to [default: https://yuml.me]",
        "  -h, --help                 Print help"
      ]
  | engines =>
    lines
      [
        "Show available diagram engines",
        "",
        engines.synopsis,
        "",
        "Options:",
        "      --json  Show in JSON format",
        "  -h, --help  Print help"
      ]
  | help =>
    lines
      [
        "Print this message or the help of the given subcommand(s)",
        "",
        help.synopsis,
        "",
        "Arguments:",
        "  [COMMAND]...  Print help for the subcommand(s)"
      ]

namespace Refusal

/-- What is printed when it was asked for in place of a diagram. -/
def printed : Refusal → String
  | showHelp topic => topic.usage
  | showVersion => "tsuml 0.1.0\n"
  | _ => ""

/-- What is wrong with a command line. -/
def mistake? : Refusal → Option String
  | showHelp _ | showVersion => none
  | nothingGiven | missingCommand => some "a subcommand is required"
  | unknownCommand => some "unrecognized subcommand"
  | unknownArgument => some "unexpected argument"
  | repeatedOption => some "an option cannot be used multiple times"
  | invalidValue => some "a value is missing or invalid"
  | unexpectedValue => some "a value was given to an option that takes none"

/-- The line for a mistake. -/
def explanation (refusal : Refusal) : Option String :=
  refusal.mistake?.map fun mistake =>
    "error: " ++ mistake ++ "\n\n" ++ Topic.program.synopsis
      ++ "\n\nFor more information, try '--help'."

end Refusal

end ClassDiagram.CommandLine
