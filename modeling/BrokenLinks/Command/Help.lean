/-! The messages of the command about itself. -/

set_option autoImplicit false

namespace BrokenLinks.Command

def ofLines (lines : List String) : String :=
  String.join (lines.map (· ++ "\n"))

def versionText : String := ofLines ["docs-relink 0.1.0"]

def briefHelp : String := ofLines [
  "Rewrite broken local markdown links in a documentation tree into Wikidata URLs",
  "",
  "Usage: relink [OPTIONS]",
  "",
  "Options:",
  "  -v, --verbose...             Verbosity (-v, -vv, -vvv)",
  "  -r, --root <ROOT>            The documentation root whose subdirectories are processed [default: docs]",
  "      --dry-run                Show what would be changed without writing any files",
  "      --check                  Check for broken links without making changes (exits with code 2 if any file would change)",
  "      --parallel               Process the files of each subdirectory in parallel",
  "      --progress-interval <N>  Print a progress line after every N files of a subdirectory [default: 200]",
  "      --output <FORMAT>        Output format [default: table] [possible values: table, json]",
  "  -q, --quiet                  Suppress per-file progress; print only the summary",
  "  -h, --help                   Print help (see more with '--help')",
  "  -V, --version                Print version"]

def fullHelp : String := ofLines [
  "Rewrite links to missing markdown pages as Wikidata links.",
  "",
  "Every immediate subdirectory of the root is processed on its own: a link such as `[label](Q42.md)` is kept if `Q42.md` exists in the same subdirectory, and otherwise becomes a link to the Wikidata page for `Q42`.",
  "",
  "Usage: relink [OPTIONS]",
  "",
  "Options:",
  "  -v, --verbose...",
  "          Verbosity (-v, -vv, -vvv)",
  "",
  "  -r, --root <ROOT>",
  "          The documentation root whose subdirectories are processed",
  "          ",
  "          [default: docs]",
  "",
  "      --dry-run",
  "          Show what would be changed without writing any files",
  "",
  "      --check",
  "          Check for broken links without making changes (exits with code 2 if any file would change)",
  "",
  "      --parallel",
  "          Process the files of each subdirectory in parallel",
  "",
  "      --progress-interval <N>",
  "          Print a progress line after every N files of a subdirectory [default: 200]",
  "",
  "      --output <FORMAT>",
  "          Output format",
  "",
  "          Possible values:",
  "          - table: Progress lines and summaries",
  "          - json:  A single JSON report",
  "          ",
  "          [default: table]",
  "",
  "  -q, --quiet",
  "          Suppress per-file progress; print only the summary",
  "",
  "  -h, --help",
  "          Print help (see a summary with '-h')",
  "",
  "  -V, --version",
  "          Print version"]

end BrokenLinks.Command
