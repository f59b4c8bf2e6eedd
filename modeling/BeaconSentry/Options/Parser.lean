import BeaconSentry.Options.Basic
import BeaconSentry.Text.Numeral
import BeaconSentry.Url.Parser

/-!
This module contains the reading of options from command line arguments and environment variables. An argument
counts more than a variable.
-/

namespace BeaconSentry
namespace Options

inductive Refusal where
  /-- A value is missing or not one of the possible ones. -/
  | invalidValue
  /-- A value cannot be read. -/
  | valueValidation
  /-- An option is given twice. -/
  | argumentConflict
  | unknownArgument
  /-- A flag is given a value. -/
  | tooManyValues
  /-- Help was asked for. -/
  | displayHelp
  deriving Repr, DecidableEq

def Refusal.name : Refusal → String
  | invalidValue => "InvalidValue"
  | valueValidation => "ValueValidation"
  | argumentConflict => "ArgumentConflict"
  | unknownArgument => "UnknownArgument"
  | tooManyValues => "TooManyValues"
  | displayHelp => "DisplayHelp"

structure CliError where
  refusal : Refusal
  argument : String
  deriving Repr, DecidableEq

inductive Arity where
  /-- Without a value. -/
  | flag
  /-- Once, with a value. -/
  | single
  /-- Any number of times, each with values between commas. -/
  | many
  deriving Repr, DecidableEq

structure Spec where
  name : String
  /-- The environment variable that stands in for the option. -/
  env : String
  arity : Arity
  /-- Take in one value. -/
  take : String → Options → Except Refusal Options

namespace Spec

/-- An option whose values are read by `read`; values that cannot be read are refused as `refusal` says. -/
def reading (name env : String) (arity : Arity) (refusal : Refusal) (read : String → Option α)
    (put : α → Options → Options) : Spec where
  name := name
  env := env
  arity := arity
  take text options :=
    match read text with
    | some value => .ok (put value options)
    | none => .error refusal

def word (name env : String) (put : UInt64 → Options → Options) : Spec :=
  reading name env .single .valueValidation (fun text => (Numeral.word text).toOption) put

/-- Read the number of a port, which may have a sign. -/
def port? (text : String) : Option UInt64 :=
  match Numeral.signed 0x7fffffffffffffff text with
  | .ok n => if 0 ≤ n && n < 65536 then some (UInt64.ofNat n.toNat) else none
  | .error _ => none

def port (name env : String) (put : UInt64 → Options → Options) : Spec :=
  reading name env .single .valueValidation port? put

def text (name env : String) (put : String → Options → Options) : Spec :=
  reading name env .single .valueValidation some put

def urls (name env : String) (put : Url → Options → Options) : Spec :=
  reading name env .many .valueValidation Url.parse? put

def requests (name env : String) (put : (RequestOptions → RequestOptions) → Options → Options) :
    List Spec := [
  word (name ++ "-request-timeout") (env ++ "_REQUEST_TIMEOUT")
    fun n => put fun requests => { requests with timeoutSeconds := n },
  word (name ++ "-request-retry-count") (env ++ "_REQUEST_RETRY_COUNT")
    fun n => put fun requests => { requests with retries := n },
  reading (name ++ "-request-sleep-before-retry-in-seconds")
    (env ++ "_REQUEST_SLEEP_BEFORE_RETRY_IN_SECONDS") .single .valueValidation Seconds.parse?
    fun seconds => put fun requests => { requests with pause := seconds }]

def all : List Spec := [
    urls "consensus-client-uri" "CONSENSUS_CLIENT_URI"
      fun url options => { options with beaconNodes := options.beaconNodes ++ [url] },
    reading "execution-client-uri" "EXECUTION_CLIENT_URI" .single .valueValidation Url.parse?
      fun url options => { options with executionNode := some url },
    urls "keys-api-uri" "KEYS_API_URI"
      fun url options => { options with keysServices := options.keysServices ++ [url] },
    urls "alertmanager-uri" "ALERTMANAGER_URI"
      fun url options => { options with alertManagers := options.alertManagers ++ [url] },
    reading "keys-source" "KEYS_SOURCE" .single .invalidValue KeysOrigin.ofName?
      fun origin options => { options with keysOrigin := origin },
    reading "keys-file-path" "KEYS_FILE_PATH" .single .invalidValue
      (fun path => if path.isEmpty then none else some path)
      fun path options => { options with keysFile := path },
    reading "lido-locator-address" "LIDO_LOCATOR_ADDRESS" .single .valueValidation addressOfText?
      fun address options => { options with locator := some address },
    reading "valid-withdrawal-addresses" "VALID_WITHDRAWAL_ADDRESSES" .many .valueValidation addressOfText?
      fun address options => { options with validAddresses := options.validAddresses ++ [address] },
    text "network-name" "NETWORK_NAME" fun name options => { options with network := name },
    reading "additional-alertmanager-labels" "ADDITIONAL_ALERTMANAGER_LABELS" .single .valueValidation
      Labels.parse? fun labels options => { options with labels := labels },
    reading "dry-run" "DRY_RUN" .flag .invalidValue
      (fun text => if text == "true" then some true else if text == "false" then some false else none)
      fun dryRun options => { options with dryRun := dryRun }] ++
  requests "cl" "CL"
    (fun change options => { options with beaconRequests := change options.beaconRequests }) ++
  requests "keys-api" "KEYS_API"
    (fun change options => { options with keysRequests := change options.keysRequests }) ++
  requests "alertmanager" "ALERTMANAGER"
    (fun change options => { options with alertRequests := change options.alertRequests }) ++ [
    word "exit-requests-lookback-blocks" "EXIT_REQUESTS_LOOKBACK_BLOCKS"
      fun n options => { options with exitLookback := n },
    word "events-search-step" "EVENTS_SEARCH_STEP" fun n options => { options with searchStep := n },
    reading "disable-unexpected-exit-alerts" "DISABLE_UNEXPECTED_EXIT_ALERTS" .many .valueValidation
      (fun text => (Numeral.word text).toOption)
      fun n options => { options with disabledModules := options.disabledModules ++ [n] },
    word "el-request-timeout" "EL_REQUEST_TIMEOUT"
      fun n options => { options with executionTimeoutSeconds := n },
    port "prometheus-port" "PROMETHEUS_PORT" fun n options => { options with metricsPort := n },
    text "prometheus-prefix" "PROMETHEUS_PREFIX" fun name options => { options with metricsNamespace := name },
    port "pulse-server-port" "PULSE_SERVER_PORT" fun n options => { options with pulsePort := n },
    word "max-cycle-lifetime-in-seconds" "MAX_CYCLE_LIFETIME_IN_SECONDS"
      fun n options => { options with longestCycleSeconds := n },
    reading "slots-range" "SLOTS_RANGE" .single .valueValidation
      (fun text => (SlotRange.parse text).toOption) fun range options => { options with slots := some range },
    word "cycle-sleep-in-seconds" "CYCLE_SLEEP_IN_SECONDS"
      fun n options => { options with cycleSleepSeconds := n }]

def display (spec : Spec) : String := "--" ++ spec.name

def values (spec : Spec) (text : String) : List String :=
  if spec.arity = .many then text.splitOn "," else [text]

def takeAll (spec : Spec) (text : String) (options : Options) : Except CliError Options :=
  ((spec.values text).foldlM (fun options value => spec.take value options) options).mapError
    fun refusal => ⟨refusal, spec.display⟩

end Spec

structure Reading where
  options : Options
  /-- The names of the options that were given. -/
  given : List String
  /-- An option whose value is still to come or to be taken in. -/
  pending : Option (Spec × Option String)

namespace Reading

/-- Take in an occurrence of an option. Only options for many values may occur again. -/
def take (reading : Reading) (spec : Spec) (text : String) : Except CliError Reading :=
  if spec.arity != .many && reading.given.contains spec.name then
    .error ⟨.argumentConflict, spec.display⟩
  else do
    let options ← spec.takeAll text reading.options
    pure { reading with options, given := spec.name :: reading.given }

/-- Take in the pending option. Its value must be there. -/
def settle (reading : Reading) : Except CliError Reading :=
  match reading.pending with
  | none => .ok reading
  | some (spec, none) => .error ⟨.invalidValue, spec.display⟩
  | some (spec, some text) => { reading with pending := none }.take spec text

def unknown (argument : String) : Except CliError Reading :=
  .error ⟨.unknownArgument, String.ofList (argument.toList.takeWhile fun c => c != ' ' && c != '=')⟩

/-- Read an argument that begins with two dashes, which are not part of `cs`. -/
def long (reading : Reading) (cs : List Char) : Except CliError Reading :=
  let name := String.ofList (cs.takeWhile (· != '='))
  let attached :=
    match cs.dropWhile (· != '=') with
    | _ :: value => some (String.ofList value)
    | [] => none
  if name == "help" then
    if attached.isSome then .error ⟨.tooManyValues, "--help"⟩
    else do
      let _ ← reading.settle
      .error ⟨.displayHelp, ""⟩
  else
    match Spec.all.find? (·.name == name), attached with
    | none, _ => unknown ("--" ++ name)
    | some spec, some value =>
      if spec.arity = .flag then .error ⟨.tooManyValues, spec.display⟩
      else do (← reading.settle).take spec value
    | some spec, none =>
      if spec.arity = .flag then do (← reading.settle).take spec "true"
      else do
        let reading ← reading.settle
        pure { reading with pending := some (spec, none) }

/-- Read an argument that begins with one dash before the character `c`. -/
def short (reading : Reading) (c : Char) : Except CliError Reading :=
  if c == 'h' then do
    let _ ← reading.settle
    .error ⟨.displayHelp, ""⟩
  else
    unknown ("-" ++ c.toString)

def plain (reading : Reading) (argument : String) : Except CliError Reading :=
  match reading.pending with
  | some (spec, none) => .ok { reading with pending := some (spec, some argument) }
  | _ => unknown argument

/-- Read arguments. After two dashes nothing is expected. -/
def arguments (reading : Reading) : List String → Except CliError Reading
  | [] => reading.settle
  | argument :: rest => do
    match argument.toList with
    | ['-', '-'] =>
      match rest with
      | [] => reading.settle
      | argument :: _ => unknown argument
    | '-' :: '-' :: cs => (← reading.long cs).arguments rest
    | '-' :: c :: _ => (← reading.short c).arguments rest
    | _ => (← reading.plain argument).arguments rest

def environment (reading : Reading) (lookUp : String → Option String) : Except CliError Options :=
  Spec.all.foldlM
    (fun options spec =>
      match lookUp spec.env with
      | some text => if reading.given.contains spec.name then pure options else spec.takeAll text options
      | none => pure options)
    reading.options

end Reading

def parse (arguments : List String) (lookUp : String → Option String) : Except CliError Options := do
  let reading ← Reading.arguments ⟨default, [], none⟩ arguments
  reading.environment lookUp

end Options
end BeaconSentry
