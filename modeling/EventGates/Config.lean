import EventGates.Remote.Address
import EventGates.Text.Numeral
import EventGates.Text.Percent

/-!
# Settings of a host

Every setting has a default, and nine of them can be overridden by a variable of the environment.
A variable is read on its own: its trimmed text either gives the setting or is reported in a warning
and leaves the default.
-/

namespace EventGates

/-- Queue slots of a gate that is given no other number. -/
def defaultQueueCapacity : Nat := 20

/-- Settings of gates that are reached over the network. Times are in milliseconds. -/
structure HttpConfig where
  /-- What every endpoint path begins with. -/
  basePath : String := "/event-gate"
  port : Nat := 8080
  mode : AddressMode := .dns
  /-- The host part of the address, instead of one found from the facts of the node. -/
  advertisedHost : Option String := none
  connectTimeout : Nat := 5000
  requestTimeout : Nat := 10000
  /-- Larger bodies are refused. -/
  maxBodyBytes : Nat := 1024 * 1024

/-- The endpoint path of a gate: the base path without slashes at its end, a slash, and the gate's
name as a path segment. -/
def HttpConfig.endpointPath (http : HttpConfig) (gate : String) : String :=
  String.ofList ((http.basePath.toList.reverse.dropWhile (· == '/')).reverse) ++ "/" ++
    Text.percentEncode gate

/-- Settings of a host. -/
structure HostConfig where
  /-- How long a shutdown waits, in milliseconds. -/
  grace : Nat := 5000
  queueCapacity : Nat := defaultQueueCapacity
  /-- Records that the diagnostics bus keeps, zero for no bus. -/
  busCapacity : Nat := 1024
  http : HttpConfig := {}

namespace HostConfig

/-- Queues have a slot at least. -/
def queueSlots (c : HostConfig) : Nat := max c.queueCapacity 1

/-- The capacity of the diagnostics bus, if there is one. -/
def diagnosticsCapacity (c : HostConfig) : Option Nat :=
  if c.busCapacity = 0 then none else some c.busCapacity

end HostConfig

/-- The greatest number of 64 bits. -/
def maxWord : Nat := 0xFFFFFFFFFFFFFFFF

/-- The greatest port. -/
def maxPort : Nat := 0xFFFF

/-- The most slots that a queue can have. -/
def maxQueueSlots : Nat := maxWord / 8

/-- The most records that a diagnostics bus can be asked to keep. -/
def maxBusCapacity : Nat := maxWord / 2

/-- Reserves `n` places of a queue or a bus. None at all, or more than the limit, cannot be had, and
whoever asks for them panics. -/
def Capacity.reserve (limit n : Nat) : Except Nat Nat := if 1 ≤ n ∧ n ≤ limit then .ok n else .error n

/-- A host with these settings, and its gates, can be built if there is memory enough. -/
def HostConfig.isBuildable (c : HostConfig) : Bool :=
  c.queueSlots ≤ maxQueueSlots && c.diagnosticsCapacity.all (· ≤ maxBusCapacity)

/-! ## The environment -/

/-- The text of a variable that is set. -/
abbrev Environment := String → Option String

/-- A variable whose text gives no setting. -/
structure ConfigWarning where
  key : String
  text : String
  cause : String
deriving DecidableEq, Repr

/-- What a variable gives: a setting, or a warning, or nothing if it is not set. -/
structure Override (α : Type) where
  value : Option α := none
  warning : Option ConfigWarning := none

namespace Override

variable {α : Type}

/-- Reads the trimmed text of a variable. -/
def read (env : Environment) (key : String) (parse : String → Except String α) : Override α :=
  match env key with
  | none => {}
  | some raw =>
    let text := Text.trimString raw
    match parse text with
    | .ok a => { value := some a }
    | .error cause => { warning := some ⟨key, text, cause⟩ }

/-- A number up to `limit`. -/
def number (env : Environment) (key : String) (limit : Nat) : Override Nat :=
  read env key fun s => (Text.parseUpTo limit s).mapError Text.NumeralError.message

/-- A text; an empty one gives nothing. -/
def text (env : Environment) (key : String) : Override String :=
  { value := ((env key).map Text.trimString).filter (· ≠ "") }

def mode (env : Environment) (key : String) : Override AddressMode :=
  read env key fun s =>
    match AddressMode.parse? s with
    | some m => .ok m
    | none => .error (AddressMode.unknownMessage s)

end Override

namespace HostConfig

/-- What each variable gives. -/
structure Overrides where
  grace : Override Nat
  queueCapacity : Override Nat
  busCapacity : Override Nat
  basePath : Override String
  port : Override Nat
  mode : Override AddressMode
  advertisedHost : Override String
  connectTimeout : Override Nat
  requestTimeout : Override Nat

def Overrides.read (env : Environment) : Overrides where
  grace := .number env "GATEFABRIC_GRACE_MS" maxWord
  queueCapacity := .number env "GATEFABRIC_QUEUE_CAPACITY" maxWord
  busCapacity := .number env "GATEFABRIC_BUS_CAPACITY" maxWord
  basePath := .text env "GATEFABRIC_BASE_PATH"
  port := .number env "GATEFABRIC_PORT" maxPort
  mode := .mode env "GATEFABRIC_ADDRESS_MODE"
  advertisedHost := .text env "GATEFABRIC_ADVERTISED_HOST"
  connectTimeout := .number env "GATEFABRIC_CONNECT_TIMEOUT_MS" maxWord
  requestTimeout := .number env "GATEFABRIC_REQUEST_TIMEOUT_MS" maxWord

/-- The warnings, in the order of the variables. -/
def Overrides.warnings (o : Overrides) : List ConfigWarning :=
  [o.grace.warning, o.queueCapacity.warning, o.busCapacity.warning, o.port.warning, o.mode.warning,
    o.connectTimeout.warning, o.requestTimeout.warning].filterMap id

/-- The defaults, overridden. -/
def ofOverrides (o : Overrides) : HostConfig :=
  let defaults : HostConfig := {}
  { grace := o.grace.value.getD defaults.grace
    queueCapacity := o.queueCapacity.value.getD defaults.queueCapacity
    busCapacity := o.busCapacity.value.getD defaults.busCapacity
    http :=
      { defaults.http with
        basePath := o.basePath.value.getD defaults.http.basePath
        port := o.port.value.getD defaults.http.port
        mode := o.mode.value.getD defaults.http.mode
        advertisedHost := o.advertisedHost.value.or defaults.http.advertisedHost
        connectTimeout := o.connectTimeout.value.getD defaults.http.connectTimeout
        requestTimeout := o.requestTimeout.value.getD defaults.http.requestTimeout } }

/-- The settings that an environment gives, and the warnings about it. -/
def ofEnvironment (env : Environment) : HostConfig × List ConfigWarning :=
  let o := Overrides.read env
  (ofOverrides o, o.warnings)

end HostConfig

end EventGates
