import Cosigner.Json.Record
import Cosigner.Wallet.Program

/-!
# Configuration

Six values configure the co-signer, and each has a default. They come from a
JSON record, from environment variables or from the caller, value by value.

Times are kept as milliseconds in 64 bits. A duration that a caller gives more
finely is cut down to whole milliseconds, and one that is too long keeps its low
64 bits.

## Main definitions

* `Config`: The configuration; its default values are those of the fields.
* `Config.read`: Reads a JSON record.
* `Config.ofVariables`: Reads environment variables.
* `Duration`: Seconds and nanoseconds.
-/

namespace Cosigner

/-- A length of time. -/
structure Duration where
  /-- Whole seconds. -/
  seconds : Nat
  /-- The nanoseconds beyond them. -/
  nanoseconds : Nat
  deriving DecidableEq

namespace Duration

/-- The whole milliseconds of a duration, in 64 bits. -/
def toMillis (d : Duration) : UInt64 :=
  UInt64.ofNat (d.seconds * 1000 + d.nanoseconds / 1000000)

/-- The duration of some milliseconds. -/
def ofMillis (ms : UInt64) : Duration :=
  ⟨ms.toNat / 1000, ms.toNat % 1000 * 1000000⟩

end Duration

/-- What configures the co-signer. -/
structure Config where
  /-- Where the wallet program lives. -/
  program : Address := Program.wallet
  /-- A proxy that fetches the documents of clients. -/
  proxy : Option String := none
  /-- How long the document of a client may be reused, in milliseconds. -/
  lifetime : UInt64 := 300000
  /-- How often a validity proof is asked for in all. -/
  attempts : UInt32 := 10
  /-- How long to wait between two attempts, in milliseconds. -/
  delay : UInt64 := 400
  /-- How long to wait for an answer, in milliseconds. -/
  timeout : UInt64 := 10000
  deriving DecidableEq

/-- Why a variable has no meaning. -/
inductive VariableFault where
  /-- It should be an address. -/
  | address (fault : Address.ParseError)
  /-- It should be a number. -/
  | number (fault : Digits.ReadError)
  deriving DecidableEq, Repr

/-- Why there is no configuration. -/
inductive ConfigFault where
  /-- The JSON text is no record of the right form. -/
  | json
  /-- The variable of the given name has no meaning. -/
  | variable (name : String) (fault : VariableFault)
  deriving DecidableEq, Repr

/-- Wording of the fault. -/
def VariableFault.message : VariableFault → String
  | .address fault => fault.message
  | .number fault => fault.message

/-- Wording of the fault. -/
def ConfigFault.message : ConfigFault → String
  | .json => Json.complaint
  | .variable name fault => s!"{name}: {fault.message}"

namespace Config

/-- A JSON value that spells an address. -/
def addressOfJson? (j : Json) : Option Address := do
  (Address.parse (← j.text?)).toOption

/-- The members of a record, in order. -/
def names : List String :=
  ["program_id", "well_known_proxy_url", "well_known_cache_ttl_ms", "proof_retry_attempts",
    "proof_retry_delay_ms", "http_timeout_ms"]

/-- Reads a configuration from a JSON value. -/
def ofJson? (j : Json) : Option Config := do
  let r ← Json.record? names j
  let base : Config := {}
  return {
    program := ← r.defaulted? "program_id" base.program addressOfJson?
    proxy := ← r.defaulted? "well_known_proxy_url" base.proxy (Json.option? Json.text?)
    lifetime := ← r.defaulted? "well_known_cache_ttl_ms" base.lifetime Json.u64?
    attempts := ← r.defaulted? "proof_retry_attempts" base.attempts Json.u32?
    delay := ← r.defaulted? "proof_retry_delay_ms" base.delay Json.u64?
    timeout := ← r.defaulted? "http_timeout_ms" base.timeout Json.u64? }

/-- Reads a configuration from JSON text. -/
def read (text : Bytes) : Except ConfigFault Config :=
  match Json.read? text >>= ofJson? with
  | some c => .ok c
  | none => .error .json

/-- What the names of all variables start with. -/
def variableStart : String := "REVIBASE_TM_"

/-- The value of a variable as a number below a bound. -/
def numberOf (bound : Nat) (value : String) : Except VariableFault Nat :=
  (Digits.readBounded bound (Utf8.encode value)).mapError .number

/-- A configuration with one value set; `key` is the name of the variable after
    the common start. Other keys are ignored. -/
def setVariable (c : Config) (key value : String) : Except VariableFault Config := do
  if key = "PROGRAM_ID" then
    return { c with program := ← (Address.parse value).mapError .address }
  else if key = "WELL_KNOWN_PROXY_URL" then
    return { c with proxy := some value }
  else if key = "WELL_KNOWN_CACHE_TTL_MS" then
    return { c with lifetime := UInt64.ofNat (← numberOf UInt64.size value) }
  else if key = "PROOF_RETRY_ATTEMPTS" then
    return { c with attempts := UInt32.ofNat (← numberOf UInt32.size value) }
  else if key = "PROOF_RETRY_DELAY_MS" then
    return { c with delay := UInt64.ofNat (← numberOf UInt64.size value) }
  else if key = "HTTP_TIMEOUT_MS" then
    return { c with timeout := UInt64.ofNat (← numberOf UInt64.size value) }
  else return c

/-- The rest of a variable's name after the common start. -/
def variableKey? (name : String) : Option String :=
  if variableStart.toList.isPrefixOf name.toList then
    some (String.ofList (name.toList.drop variableStart.length))
  else none

/-- A configuration after one more variable. -/
def addVariable (c : Config) (name value : String) : Except ConfigFault Config :=
  match variableKey? name with
  | some key => (c.setVariable key value).mapError (.variable name)
  | none => .ok c

/-- Reads environment variables, given by names and values in order. The first
    one that has no meaning is reported. -/
def ofVariables (values : List (String × String)) : Except ConfigFault Config :=
  values.foldlM (fun c v => c.addVariable v.1 v.2) {}

end Config

end Cosigner
