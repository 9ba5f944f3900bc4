import StatementView.Command.Arguments

namespace StatementView.Command

def Topic.lines : Topic → List String
  | .root =>
    ["sqlpeek - one-line SQL summaries and parameter inlining",
     "",
     "USAGE:",
     "  sqlpeek <COMMAND> [OPTIONS]",
     "",
     "COMMANDS:",
     "  minify        Print a width-bounded summary of each statement",
     "  subst         Inline bound parameters into placeholders",
     "  escape        Render one JSON value as a SQL literal",
     "  html          Render statements as HTML markup",
     "",
     "Run `sqlpeek <command> --help` for more."]
  | .minify =>
    ["USAGE:",
     "  sqlpeek minify [OPTIONS] [FILES...]",
     "",
     "Reads one statement per file, or from stdin when no files are given.",
     "",
     "OPTIONS:",
     "  --config <FILE>       Config file path (default: sqlpeek.toml)",
     "  --width <N>           Override minify.max_char_width",
     "  -h, --help            Print help"]
  | .subst =>
    ["USAGE:",
     "  sqlpeek subst [OPTIONS] [FILES...]",
     "",
     "Reads one statement per file, or from stdin when no files are given.",
     "A JSON array binds positions from 0; an object binds digit keys to",
     "positions and other keys to names.",
     "",
     "OPTIONS:",
     "  --params <JSON>       Parameters as a JSON array or object",
     "  --params-file <FILE>  Read parameters from a JSON file",
     "  -h, --help            Print help"]
  | .escape =>
    ["USAGE:",
     "  sqlpeek escape <JSON>",
     "",
     "EXAMPLES:",
     "  sqlpeek escape '\"it'\\''s\"'      # 'it\\'s'",
     "  sqlpeek escape '[1, null, true]'   # 1, NULL, 1"]
  | .html =>
    ["USAGE:",
     "  sqlpeek html [OPTIONS] [FILES...]",
     "",
     "OPTIONS:",
     "  --config <FILE>       Config file path (default: sqlpeek.toml)",
     "  --highlight-only      Keep the layout; omit the <div><pre> wrapper",
     "  -h, --help            Print help"]

def Topic.text (t : Topic) : Text := Text.join ['\n'] (t.lines.map String.toList)

end StatementView.Command
