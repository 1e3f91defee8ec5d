import Depot.CommandLine.Option

/-!
# Help on the command line

What the program tells about its command line when it is asked, or when it is given one that it does
not carry out.

## Main definitions

* `usage`, `version` : the help and the version.
* `UsageFault.message` : what is wrong with a command line.
-/

namespace Depot.CommandLine

/-- The name and the version of the program. -/
def version : String :=
  "artifact-fetch 0.1.0"

/-- The help. -/
def usage : String := "\n".intercalate [
  "Resolve and download platform-specific package artifacts",
  "",
  "Usage: artifact-fetch [OPTIONS] <COMMAND>",
  "",
  "Commands:",
  "  download        Download one artifact and verify it",
  "  parse-url       Show how an object-storage URL is interpreted",
  "  select-variant  Select the package variant for a host",
  "  latest-version  Print the latest installed version of a component",
  "  fetch-package   Select, download and verify the package for this host",
  "  help            Print this message",
  "",
  "Options:",
  "  -v, --verbose          Increase output verbosity (-v for debug, -vv for trace)",
  "  -q, --quiet            Suppress non-error output",
  "      --config <PATH>    Config file (default: $XDG_CONFIG_HOME/artifact-fetch/config.toml)",
  "  -h, --help             Print help",
  "  -V, --version          Print version",
  "",
  "Options of download and fetch-package:",
  "  -o, --output-dir <DIR>         Destination directory",
  "  -r, --max-retries <N>          Retries after the first attempt, per transport (1-100)",
  "      --retry-interval-ms <MS>   First retry delay in milliseconds (1-10000)",
  "",
  "Options of download:",
  "      --checksum <ALG=HEX>       Expected digest (repeatable; bare HEX means sha256)",
  "",
  "Options of select-variant and fetch-package:",
  "      --platform <NAME>          Platform name (e.g. ubuntu)",
  "      --os-version <VERSION>     Platform version (e.g. 22.04)",
  "      --arch <ARCH>              Architecture (x86_64, i386, arm64, arm)",
  "",
  "Options of fetch-package:",
  "      --action <ACTION>          Action the package is fetched for (default: install)",
  "      --base-location <URL>      Location of files that have none of their own",
  "      --region <REGION>          Region for s3:// locations (default: us-east-1)",
  "",
  "Options of latest-version:",
  "      --exclude <VERSION>        Version to skip",
  "      --package-root <DIR>       Directory of the installed components"]

/-- What is wrong with a command line, in words. -/
def UsageFault.message : UsageFault → String
  | unknownArgument => "unexpected argument"
  | invalidValue => "a value is required"
  | valueValidation => "invalid value"
  | missingRequiredArgument => "a required argument is missing"
  | argumentConflict => "an argument cannot be used multiple times"
  | invalidSubcommand => "unrecognized subcommand"
  | missingSubcommand | helpForMissingArguments => "a subcommand is required"
  | tooManyValues => "an argument takes no value"
  | displayHelp => "help was asked for"
  | displayVersion => "the version was asked for"

end Depot.CommandLine
