import Mathlib.Data.Finset.Sort
import PhpAnalyze.Config

/-! # The rows of `phpinfo()` (`PhpInfoRenderer` in `bootstrap.rs`)

The row of the token is the text `***`; no other row reads the token (`rows_withoutToken`). -/

namespace PhpAnalyze

namespace PhpInfoRenderer

def statusRow (c : Config) : String :=
  if c.enabled then "enabled (true)"
  else "enabled (false: " ++ ((c.disableReason.map DisableReason.human).getD "unknown") ++ ")"

def onOff (b : Bool) : String := if b then "On" else "Off"

/-- The path of the token file, which is not secret. -/
def tokenFile (c : Config) : String :=
  match c.authTokenSource with
  | .file path => path
  | _ => "(unset)"

def directiveRows (c : Config) : List (String × String) :=
  let masterOn := c.disableReason ≠ some .masterSwitchOff
  let skipNames := c.skipFunctions.sort
  [("php_analyze.enabled", onOff masterOn),
    ("php_analyze.server_url", c.serverUrl.getD "(unset)"),
    ("php_analyze.auth_token", "***"),
    ("php_analyze.auth_token_file", tokenFile c),
    ("php_analyze.flush_records", toString c.flushRecords),
    ("php_analyze.flush_bytes", toString c.flushBytes),
    ("php_analyze.buffer_cap_bytes", toString c.bufferCapBytes),
    ("php_analyze.max_depth", toString c.maxDepth),
    ("php_analyze.retry_count", toString c.retryCount),
    ("php_analyze.retry_backoff_ms", toString (asMillis c.retryBackoff)),
    ("php_analyze.http_timeout_ms", toString (asMillis c.httpTimeout)),
    ("php_analyze.shutdown_grace_ms", toString (asMillis c.shutdownGrace)),
    ("php_analyze.shipper_queue_depth", toString c.shipperQueueDepth),
    ("php_analyze.cpu_snapshot_mode", c.cpuSnapshotMode.asIniStr),
    ("php_analyze.skip_functions", ", ".intercalate skipNames),
    ("php_analyze.skip_internal", onOff c.skipInternal)]

def rows : Option Config → List (String × String)
  | none => [("Status", "MINIT has not run")]
  | some c => ("Status", statusRow c) :: directiveRows c

end PhpInfoRenderer

/-- The configuration without the token. -/
def Config.withoutToken (c : Config) : Config := { c with authToken := "" }

/-- **No row reads the token.** -/
theorem rows_withoutToken (c : Config) :
    PhpInfoRenderer.rows (some c) = PhpInfoRenderer.rows (some c.withoutToken) := rfl

end PhpAnalyze
