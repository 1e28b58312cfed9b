/-
  Redelivery.Configuration.Reader
  ───────────────────────────────
  **Reading a configuration from a document.**

  Every field may be missing and then has its default; fields of no meaning
  are passed over.  Null stands for an unset value, and only where a value
  may be unset.  The backoff is read exactly, whatever the reading.
-/
import Redelivery.Backoff.Reader
import Redelivery.Configuration.Basic

namespace Redelivery

/-- The auto-creation settings that a document describes. -/
def AutoCreate.ofDocument? (r : Reading) (d : Document) : Option AutoCreate := do
  let fields ← r.entries? ["enabled", "partitions", "replication_factor"] d
  return {
    enabled := ← Reading.field fields "enabled" true r.bool?
    partitions := ← Reading.field fields "partitions" none (Reading.nullable r.int32?)
    replication := ← Reading.field fields "replication_factor" none (Reading.nullable r.int16?) }

/-- The retries without leaving a node that a document describes. -/
def Blocking.ofDocument? (r : Reading) (d : Document) : Option Blocking := do
  let fields ← r.entries? ["attempts", "interval_ms", "retry_on"] d
  return {
    attempts := ← Reading.field fields "attempts" 1 r.uint32?
    interval := ← Reading.field fields "interval_ms" 0 r.uint64?
    retryOn := ← Reading.field fields "retry_on" [] r.texts? }

namespace Configuration

/-- The fields of a configuration, in order. -/
def fieldNames : List String :=
  ["topics", "exclude_topics", "attempts", "backoff", "retry_topic_suffix", "dlt_suffix",
    "suffixing", "same_interval_topic_reuse", "auto_create", "retry_on", "not_retry_on",
    "traversing_causes", "exception_hierarchy", "retry_on_dlt_failure", "dlt_enabled",
    "timeout_ms", "blocking", "dlt_handler", "group_id"]

/-- Declared parents: a map of texts. -/
def parents? (r : Reading) : Document → Option (List (String × String))
  | .map entries => entries.mapM fun (child, d) => (r.text? d).map fun parent => (child, parent)
  | _ => none

/-- The configuration that a document describes. -/
def ofDocument? (r : Reading) (d : Document) : Option Configuration := do
  let fields ← r.entries? fieldNames d
  let texts (key : String) := Reading.field fields key [] r.texts?
  return {
    topics := ← texts "topics"
    excludeTopics := ← texts "exclude_topics"
    attempts := ← Reading.field fields "attempts" 3 r.uint32?
    backoff := ← Reading.field fields "backoff" .default Backoff.ofDocument?
    retrySuffix := ← Reading.field fields "retry_topic_suffix" "-retry" r.text?
    deadLetterSuffix := ← Reading.field fields "dlt_suffix" "-dlt" r.text?
    suffixing := ← Reading.field fields "suffixing" .index (r.choice? Suffixing.names)
    reuse := ← Reading.field fields "same_interval_topic_reuse" .multiple
      (r.choice? TopicReuse.names)
    autoCreate := ← Reading.field fields "auto_create" {} (AutoCreate.ofDocument? r)
    retryOn := ← texts "retry_on"
    notRetryOn := ← texts "not_retry_on"
    traversingCauses := ← Reading.field fields "traversing_causes" false r.bool?
    parents := ← Reading.field fields "exception_hierarchy" [] (parents? r)
    retryDeadLetters := ← Reading.field fields "retry_on_dlt_failure" true r.bool?
    deadLetters := ← Reading.field fields "dlt_enabled" true r.bool?
    timeout := ← Reading.field fields "timeout_ms" none (Reading.nullable r.uint64?)
    blocking := ← Reading.field fields "blocking" {} (Blocking.ofDocument? r)
    deadLetterHandler := ← Reading.field fields "dlt_handler" none (Reading.nullable r.text?)
    group := ← Reading.field fields "group_id" none (Reading.nullable r.text?) }

end Configuration

end Redelivery
