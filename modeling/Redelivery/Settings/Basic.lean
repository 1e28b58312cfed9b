/-
  Redelivery.Settings.Basic
  ─────────────────────────
  **The settings of an application.**

  How the broker is reached, the retry configurations, the level of the log
  lines about failures, and the local retries of a publish.
-/
import Redelivery.Backoff.Republish
import Redelivery.Configuration.Reader
import Redelivery.Delivery.Log

namespace Redelivery

/-- How the broker is reached. -/
structure Connection where
  /-- Addresses of the brokers, separated by commas. -/
  servers : String := "localhost:9092"
  /-- The common consumer group. -/
  group : String := "retrytopic"
  /-- Milliseconds after which sending is given up. -/
  sendTimeout : UInt64 := 5000
  userName : Option String := none
  password : Option String := none
  mechanism : Option String := none
  protocol : Option String := none
  /-- Where the certificate of the authority lies. -/
  authority : Option String := none
  deriving DecidableEq, Repr, Inhabited

/-- The settings of an application. -/
structure Settings where
  connection : Connection := {}
  configurations : List Configuration := []
  logLevel : LogLevel := .error
  republish : RepublishPolicy := {}
  deriving DecidableEq, Repr, Inhabited

/-- The connection that a document describes. -/
def Connection.ofDocument? (r : Reading) (d : Document) : Option Connection := do
  let fields ← r.entries? ["bootstrap_servers", "group_id", "send_timeout_ms",
    "sasl_username", "sasl_password", "sasl_mechanism", "security_protocol", "ssl_ca_location"] d
  let unset (key : String) := Reading.field fields key none (Reading.nullable r.text?)
  return {
    servers := ← Reading.field fields "bootstrap_servers" "localhost:9092" r.text?
    group := ← Reading.field fields "group_id" "retrytopic" r.text?
    sendTimeout := ← Reading.field fields "send_timeout_ms" 5000 r.uint64?
    userName := ← unset "sasl_username"
    password := ← unset "sasl_password"
    mechanism := ← unset "sasl_mechanism"
    protocol := ← unset "security_protocol"
    authority := ← unset "ssl_ca_location" }

namespace Settings

/-- The settings that a document describes. -/
def ofDocument? (r : Reading) (d : Document) : Option Settings := do
  let fields ← r.entries? ["kafka", "retry_topics", "failure_log_level", "publish_retry"] d
  return {
    connection := ← Reading.field fields "kafka" {} (Connection.ofDocument? r)
    configurations := ← Reading.field fields "retry_topics" []
      (Reading.list? (Configuration.ofDocument? r))
    logLevel := ← Reading.field fields "failure_log_level" .error (r.choice? LogLevel.names)
    republish := ← Reading.field fields "publish_retry" {} (RepublishPolicy.ofDocument? r) }

/-- The first configuration with a fault, if any, and its place. -/
def validate (s : Settings) : Except ConfigurationFault Unit := go 0 s.configurations
where
  go (index : Nat) : List Configuration → Except ConfigurationFault Unit
    | [] => .ok ()
    | c :: rest =>
        match c.validate with
        | .error fault => .error (.entry index (.options fault))
        | .ok () => go (index + 1) rest

end Settings

end Redelivery
