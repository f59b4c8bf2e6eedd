import BeaconSentry.Options.Basic
import BeaconSentry.Evm.Abi

/-!
This module contains the form in which the options of the watcher are shown.
-/

namespace BeaconSentry

open Json

def Duration.encode (span : Duration) : Value :=
  .array [.number (.natural span.seconds), .number (.natural span.subsecNanos)]

def RequestTunables.encode (tunables : RequestTunables) : Value :=
  .record [("timeout", tunables.timeout.encode), ("retry_count", .word tunables.retries),
    ("backoff", tunables.backoff.encode)]

def RequestOptions.encode (options : RequestOptions) : Except Overflow Value :=
  options.tunables.map (·.encode)

def SlotRange.encode (range : SlotRange) : Value := .array [.word range.first, .word range.last]

def Labels.encode (labels : Labels) : Value :=
  .record (labels.toList.map fun (name, value) => (name, .text value))

namespace Options

/-- Addresses, in small letters. -/
def addressText (address : List UInt8) : Value := .text (Evm.bytesText address)

def orNull (encode : α → Value) (value : Option α) : Value := (value.map encode).getD .null

def members (options : Options) : Except Overflow (List (String × Value)) := do
  let url (url : Url) : Value := .text url.print
  pure [
    ("consensus_client_uri", .array (options.beaconNodes.map url)),
    ("execution_client_uri", orNull url options.executionNode),
    ("keys_api_uri", .array (options.keysServices.map url)),
    ("alertmanager_uri", .array (options.alertManagers.map url)),
    ("keys_source", .text options.keysOrigin.name),
    ("keys_file_path", .text options.keysFile),
    ("lido_locator_address", orNull addressText options.locator),
    ("valid_withdrawal_addresses", .array (options.validAddresses.map addressText)),
    ("network_name", .text options.network),
    ("additional_alertmanager_labels", options.labels.encode),
    ("dry_run", .bool options.dryRun),
    ("consensus_requests", ← options.beaconRequests.encode),
    ("keys_api_requests", ← options.keysRequests.encode),
    ("alertmanager_requests", ← options.alertRequests.encode),
    ("exit_requests_lookback_blocks", .word options.exitLookback),
    ("events_search_step", .word options.searchStep),
    ("disable_unexpected_exit_alerts", .array (options.disabledModules.map .word)),
    ("el_request_timeout", .word options.executionTimeoutSeconds),
    ("prometheus_port", .word options.metricsPort),
    ("prometheus_prefix", .text options.metricsNamespace),
    ("pulse_server_port", .word options.pulsePort),
    ("max_cycle_lifetime_in_seconds", .word options.longestCycleSeconds),
    ("slots_range", orNull SlotRange.encode options.slots),
    ("cycle_sleep_secs", .word options.cycleSleepSeconds)]

end Options
end BeaconSentry
