import SnippetBench.Text.Basic

/-!
# Help texts

The lines that the program prints when it is asked for help: how a command line is written, what
the operands are, and what each option does.
-/

namespace SnippetBench.Cli.Help

/-- The options that every command has. -/
def commonOptions : List Text :=
  ["options:",
    "  -h, --help            show this help message and exit",
    "  --config CONFIG       Path to YAML configuration file.",
    "  --log-level \x7bDEBUG,INFO,WARNING,ERROR,CRITICAL\x7d",
    "                        Set the logging verbosity level (default: config file,",
    "                        else INFO).",
    "  --dry-run             Parse and generate, but do not run anything."]

/-- The operands of the commands that read documents. -/
def documentOperands : List Text :=
  ["positional arguments:",
    "  PATH                  Annotated document(s) to benchmark.",
    ""]

/-- The option for reports in markdown. -/
def markdownOption : List Text :=
  ["  --md                  Print banners, results and code listings as markdown."]

/-- The help of the program. -/
def program : List Text :=
  (["usage: pybm [-h] [--config CONFIG]",
    "            [--log-level \x7bDEBUG,INFO,WARNING,ERROR,CRITICAL\x7d] [--dry-run] [-V]",
    "            \x7brun,code,info\x7d ...",
    "",
    "pybm: benchmark the named snippets of annotated Python documents.",
    "",
    "positional arguments:",
    "  \x7brun,code,info\x7d",
    "    run                 Benchmark every snippet of the given documents.",
    "    code                Print the code each snippet measures.",
    "    info                Display environment information and available",
    "                        runtimes.",
    ""] : List Text) ++ commonOptions ++
  (["  -V, --version         show program's version number and exit"] : List Text)

/-- The help of the command that benchmarks documents. -/
def run : List Text :=
  (["usage: pybm run [-h] [--config CONFIG]",
    "                [--log-level \x7bDEBUG,INFO,WARNING,ERROR,CRITICAL\x7d] [--dry-run]",
    "                [--md] [-s SAMPLES] [-i ITERATIONS] [--runtime RUNTIME]",
    "                [--keep] [--code] [--timeout TIMEOUT_SECONDS]",
    "                PATH [PATH ...]",
    ""] : List Text) ++ documentOperands ++ commonOptions ++ markdownOption ++
  (["  -s SAMPLES, --samples SAMPLES",
    "                        Number of measured trials per snippet (default: 1000).",
    "  -i ITERATIONS, --iterations ITERATIONS",
    "                        Executions of the snippet inside one trial (default:",
    "                        1).",
    "  --runtime RUNTIME     Interpreter to run the benchmark with. Repeat for",
    "                        several.",
    "  --keep                Keep the generated script(s) next to the documents.",
    "  --code                Print the measured code before running.",
    "  --timeout TIMEOUT_SECONDS",
    "                        Kill a generated script after this many seconds."] : List Text)

/-- The help of the command that prints the code of snippets. -/
def code : List Text :=
  (["usage: pybm code [-h] [--config CONFIG]",
    "                 [--log-level \x7bDEBUG,INFO,WARNING,ERROR,CRITICAL\x7d] [--dry-run]",
    "                 [--md]",
    "                 PATH [PATH ...]",
    ""] : List Text) ++ documentOperands ++ commonOptions ++ markdownOption

/-- The help of the command that tells about the surroundings. -/
def info : List Text :=
  (["usage: pybm info [-h] [--config CONFIG]",
    "                 [--log-level \x7bDEBUG,INFO,WARNING,ERROR,CRITICAL\x7d] [--dry-run]",
    ""] : List Text) ++ commonOptions

end SnippetBench.Cli.Help
