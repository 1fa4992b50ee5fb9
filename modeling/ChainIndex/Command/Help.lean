import ChainIndex.Config
import ChainIndex.Decimal

/-!
# What the command says about itself
-/

set_option autoImplicit false

namespace ChainIndex.Command

def version : String := "0.1.0"

/-- Text of lines, each with its end. -/
def lines (l : List String) : String := String.join (l.map (· ++ "\n"))

def versionText : String := lines ["flowindex " ++ version]

def usage : String := lines [
  "flowindex " ++ version,
  "Flow blockchain sync and indexing engine",
  "",
  "USAGE:",
  "    flowindex <COMMAND> [OPTIONS]",
  "",
  "COMMANDS:",
  "    replay <fixture.json>  Index a chain fixture and print entity counts",
  "    info                   Show default configuration",
  "    version                Print version",
  "    help                   Print this help",
  "",
  "REPLAY OPTIONS:",
  "    --config <file>        Indexer configuration (JSON)",
  "    --sqlite <path>        Persist to SQLite instead of memory",
  "    --log-level <level>    trace | debug | info | warn | error",
  "    --log <crate>=<level>  Per-crate log level override",
  "    --json-logs            Emit JSON structured logs",
  "    --follow               Keep polling until Ctrl-C"]

/-- The configuration that holds where none is given. -/
def info : String := lines [
  "FlowIndex v" ++ version,
  "  Default chain: " ++ Config.default.chain,
  "  Default poll interval: " ++ Decimal.text Config.default.pollInterval.toNat ++ " ms",
  "  Token withdrawn pattern: " ++ Config.default.withdrawnPattern,
  "  Token deposited pattern: " ++ Config.default.depositedPattern,
  "  Storage backends: memory, SQLite"]

end ChainIndex.Command
