/-!
Help texts of the program and its commands.
-/

namespace StylesheetRunner.CommandLine.Help

def ofLines (lines : List String) : String :=
  String.join (lines.map fun line => line ++ "\n")

def overview : String := ofLines
  ["xslt-playground 0.3.0",
    "Run XSLT programs through an external processor, over HTTP or from the shell",
    "",
    "USAGE:",
    "    xslt-playground <COMMAND>",
    "",
    "OPTIONS:",
    "  -h, --help     Print help",
    "  -V, --version  Print version",
    "COMMANDS:",
    "  serve      Start the HTTP service",
    "  transform  Run one transformation and print the JSON result",
    "  help       Print this message or the help of the given subcommand(s)"]

def version : String := ofLines
  ["xslt-playground 0.3.0"]

def serveLong : String := ofLines
  ["Serve exposes POST /transform and, when history is enabled, the authenticated /history endpoints.",
    "",
    "Usage: xslt-playground serve [OPTIONS]",
    "",
    "Options:",
    "      --config <FILE>",
    "          Service configuration file, JSON or TOML (default: app.config)",
    "          ",
    "          [default: app.config]",
    "",
    "      --port <PORT>",
    "          Override the listen port from the configuration",
    "",
    "      --timeout <DURATION>",
    "          Override the per-transformation deadline (e.g. \"10s\", \"1500ms\")",
    "",
    "  -h, --help",
    "          Print help (see a summary with '-h')",
    "",
    "Environment:",
    "    SAXON_CLASSPATH   classpath of the XSLT processor",
    "    JAVA_BIN          launcher executable (default: java)",
    "    PORT              HTTP listen port (default: 8080)",
    "    XSLT_TIMEOUT_MS   transformation deadline in milliseconds (default: 10000)",
    "    PLAYGROUND_PRO    enable the history endpoints (true/false)",
    "",
    "Example:",
    "    xslt-playground serve --config app.config --port 8080"]

def transformLong : String := ofLines
  ["Transform runs a stylesheet once with the configured processor and writes the response record to stdout.",
    "",
    "Usage: xslt-playground transform [OPTIONS] <XSL_FILE>",
    "",
    "Arguments:",
    "  <XSL_FILE>",
    "          XSLT program to run against the placeholder input document",
    "",
    "Options:",
    "      --param <NAME=VALUE>",
    "          Stylesheet parameter as name=value; repeat for several parameters",
    "",
    "      --trace",
    "          Collect processor instrumentation into trace entries",
    "",
    "      --config <FILE>",
    "          Service configuration file, JSON or TOML (default: app.config)",
    "          ",
    "          [default: app.config]",
    "",
    "      --timeout <DURATION>",
    "          Override the deadline (e.g. \"10s\", \"1500ms\")",
    "",
    "  -h, --help",
    "          Print help (see a summary with '-h')",
    "",
    "Example:",
    "    xslt-playground transform style.xsl --param count=3 --trace"]

def serveShort : String := ofLines
  ["Start the HTTP service",
    "",
    "Usage: xslt-playground serve [OPTIONS]",
    "",
    "Options:",
    "      --config <FILE>       Service configuration file, JSON or TOML (default: app.config) [default: app.config]",
    "      --port <PORT>         Override the listen port from the configuration",
    "      --timeout <DURATION>  Override the per-transformation deadline (e.g. \"10s\", \"1500ms\")",
    "  -h, --help                Print help (see more with '--help')",
    "",
    "Environment:",
    "    SAXON_CLASSPATH   classpath of the XSLT processor",
    "    JAVA_BIN          launcher executable (default: java)",
    "    PORT              HTTP listen port (default: 8080)",
    "    XSLT_TIMEOUT_MS   transformation deadline in milliseconds (default: 10000)",
    "    PLAYGROUND_PRO    enable the history endpoints (true/false)",
    "",
    "Example:",
    "    xslt-playground serve --config app.config --port 8080"]

def transformShort : String := ofLines
  ["Run one transformation and print the JSON result",
    "",
    "Usage: xslt-playground transform [OPTIONS] <XSL_FILE>",
    "",
    "Arguments:",
    "  <XSL_FILE>  XSLT program to run against the placeholder input document",
    "",
    "Options:",
    "      --param <NAME=VALUE>  Stylesheet parameter as name=value; repeat for several parameters",
    "      --trace               Collect processor instrumentation into trace entries",
    "      --config <FILE>       Service configuration file, JSON or TOML (default: app.config) [default: app.config]",
    "      --timeout <DURATION>  Override the deadline (e.g. \"10s\", \"1500ms\")",
    "  -h, --help                Print help (see more with '--help')",
    "",
    "Example:",
    "    xslt-playground transform style.xsl --param count=3 --trace"]

def helpCommand : String := ofLines
  ["Print this message or the help of the given subcommand(s)",
    "",
    "Usage: xslt-playground help [COMMAND]...",
    "",
    "Arguments:",
    "  [COMMAND]...  Print help for the subcommand(s)"]

end StylesheetRunner.CommandLine.Help
