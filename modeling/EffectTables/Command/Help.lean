import EffectTables.Command.Line

namespace EffectTables.Command

def synopsis : String :=
  "\n".intercalate
    ["Usage: afxgen [OPTIONS] generate <INPUT> <OUTPUT_DIR>",
      "       afxgen [OPTIONS] clean <OUTPUT_DIR>",
      "       afxgen [OPTIONS] --clean <OUTPUT_DIR>",
      "",
      "Generates Axe-Fx II lookup tables from a device description.",
      "",
      "Options:",
      "      --namespace <NAMESPACE>      C++ namespace of the generated code",
      "                                   (also from AFXGEN_NAMESPACE)",
      "      --header-name <HEADER_NAME>  file name of the generated header",
      "      --source-name <SOURCE_NAME>  file name of the generated source",
      "      --clean <OUTPUT_DIR>         delete the generated files (same as clean)",
      "  -h, --help                       print help",
      "  -V, --version                    print version"]

def Usage.reason : Usage → String
  | invalidValue => "an option or argument has no usable value"
  | unknownArgument => "unexpected argument"
  | conflict => "arguments cannot be combined"
  | tooManyValues => "an option takes no value"
  | invalidSubcommand => "unrecognized subcommand"
  | missingArgument => "a required argument is missing"
  | missingSubcommand | nothingGiven => "expected generate, clean or --clean"
  | help => "help"
  | version => "version"

-- What a command line that asks for no action gets to read.
def Usage.text : Usage → String
  | help => synopsis
  | version => "afxgen 0.1.0"
  | usage => "error: " ++ usage.reason ++ "\n\n" ++ synopsis

end EffectTables.Command
