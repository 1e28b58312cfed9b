/-
  Redelivery.Configuration.Writer
  ───────────────────────────────
  **Writing a configuration as a document, every field in its place.**
-/
import Redelivery.Backoff.Writer
import Redelivery.Configuration.Basic

namespace Redelivery

/-- The auto-creation settings as a document. -/
def AutoCreate.toDocument (a : AutoCreate) : Document :=
  .map [("enabled", .bool a.enabled),
    ("partitions", .ofOption (fun p => .int p.toInt) a.partitions),
    ("replication_factor", .ofOption (fun r => .int r.toInt) a.replication)]

/-- The retries without leaving a node as a document. -/
def Blocking.toDocument (b : Blocking) : Document :=
  .map [("attempts", .ofUInt32 b.attempts), ("interval_ms", .ofUInt64 b.interval),
    ("retry_on", .ofTexts b.retryOn)]

/-- A configuration as a document. -/
def Configuration.toDocument (c : Configuration) : Document :=
  .map [("topics", .ofTexts c.topics), ("exclude_topics", .ofTexts c.excludeTopics),
    ("attempts", .ofUInt32 c.attempts), ("backoff", c.backoff.toDocument),
    ("retry_topic_suffix", .text c.retrySuffix), ("dlt_suffix", .text c.deadLetterSuffix),
    ("suffixing", .ofChoice Suffixing.names c.suffixing),
    ("same_interval_topic_reuse", .ofChoice TopicReuse.names c.reuse),
    ("auto_create", c.autoCreate.toDocument), ("retry_on", .ofTexts c.retryOn),
    ("not_retry_on", .ofTexts c.notRetryOn), ("traversing_causes", .bool c.traversingCauses),
    ("exception_hierarchy", .map (c.parents.map fun (child, parent) => (child, .text parent))),
    ("retry_on_dlt_failure", .bool c.retryDeadLetters), ("dlt_enabled", .bool c.deadLetters),
    ("timeout_ms", .ofOption .ofUInt64 c.timeout), ("blocking", c.blocking.toDocument),
    ("dlt_handler", .ofOption .text c.deadLetterHandler), ("group_id", .ofOption .text c.group)]

end Redelivery
