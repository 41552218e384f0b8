import ResourcePack.CommandLine.Parse
import ResourcePack.Text.Lines

/-
  What is told about the command line itself.

  Key definitions include:
    * `ResourcePack.CommandLine.Refusal.message`
    * `ResourcePack.CommandLine.help`
-/

namespace ResourcePack

namespace CommandLine

/- Why a command line is refused. -/
def Refusal.message : Refusal → String
  | .unknownArgument => "unexpected argument"
  | .invalidValue => "invalid value for an option"
  | .valueValidation => "invalid number for an option"
  | .wrongNumberOfValues => "wrong number of values for an option"
  | .tooManyValues => "value for a flag that takes none"
  | .argumentConflict => "option given more than once"
  | .missingRequiredArgument => "missing option: --output <ASM> <HEADER>"
  | .displayHelp => "help"

/- The help text. -/
def help : String :=
  Text.unlines [
    "Generate an assembly file and header from resources",
    "",
    "Usage: genrsrc [OPTIONS] --output <ASM> <HEADER> [RESOURCES]...",
    "",
    "Options:",
    "  -o, --output <ASM> <HEADER>  Output paths of the assembly and header files",
    "  -p, --prefix <PREFIX>        Prefix of assembly labels and extern variables",
    "  -S, --search <PATH>          Search directory (repeatable, first match wins)",
    "  -n, --namespace <NAMESPACE>  Namespace to place the resources in",
    "  -g, --guard <GUARD>          Header guard",
    "  -I, --include <FILE>         Header to include (repeatable)",
    "  -c, --resource-class <CLASS> Class of the resource objects",
    "      --config <CONFIG>        Configuration file path (TOML)",
    "      --sorted                 Emit in sorted order instead of input order",
    "      --escape-symbols         Escape characters that are not valid in symbols",
    "      --align <BYTES>          Alignment of embedded resources in bytes",
    "      --report <REPORT>        Report after a successful run: text, json, none",
    "  -v, --verbose                Enable verbose logging (debug level)",
    "      --log-level <LEVEL>      Log level (trace, debug, info, warn, error, off)",
    "      --log-format <FORMAT>    Log format (json, text)",
    "      --log-output <OUTPUT>    Log output (stdout, stderr, file)",
    "      --log-file <FILE>        Log file path (if output is \"file\")",
    "  -h, --help                   Print help"]

end CommandLine

end ResourcePack
