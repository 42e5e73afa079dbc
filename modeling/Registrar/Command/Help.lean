/-!
# Help texts

What the program says about itself and about each of its commands.
-/

namespace Registrar.Help

/-- Lines as one text. -/
def ofLines (lines : List String) : String := String.join (lines.map (· ++ "\n"))

/-- Name and version. -/
def version : String := ofLines ["vault-operator 0.1.0"]

/-- The program as a whole. -/
def general : String := ofLines [
  "Validator registration core for a staking vault operator: keystores, deposit data tree and "
    ++ "oracle approvals",
  "",
  "Usage: operator [OPTIONS] <COMMAND>",
  "",
  "Commands:",
  "  verify-keystores   Decrypt every keystore and print the loaded public keys",
  "  deposit-data       Build the validators tree from the configured deposit data",
  "  request-approvals  Collect oracle approvals for a prepared request",
  "  help               Print this message or the help of the given subcommand(s)",
  "",
  "Options:",
  "  -c, --config <CONFIG>  Configuration file path",
  "  -h, --help             Print help",
  "  -V, --version          Print version"]

/-- The command that opens all containers. -/
def verifyKeystores : String := ofLines [
  "Decrypt every keystore and print the loaded public keys",
  "",
  "Usage: operator verify-keystores",
  "",
  "Options:",
  "  -h, --help  Print help"]

/-- The command that builds the roster. -/
def depositData : String := ofLines [
  "Build the validators tree from the configured deposit data",
  "",
  "Usage: operator deposit-data [OPTIONS]",
  "",
  "Options:",
  "      --dump <DUMP>  Write the tree dump to this file",
  "  -h, --help         Print help"]

/-- The command that asks the oracles. -/
def requestApprovals : String := ofLines [
  "Collect oracle approvals for a prepared request",
  "",
  "Usage: operator request-approvals --request <REQUEST> --oracles <ORACLES>",
  "",
  "Options:",
  "      --request <REQUEST>  Approval request JSON",
  "      --oracles <ORACLES>  Oracle set JSON",
  "  -h, --help               Print help"]

end Registrar.Help
