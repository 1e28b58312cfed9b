/-
  Redelivery.Settings.Writer
  ──────────────────────────
  **Writing settings as a document.**
-/
import Redelivery.Configuration.Writer
import Redelivery.Settings.Basic

namespace Redelivery

/-- The connection as a document. -/
def Connection.toDocument (c : Connection) : Document :=
  .map [("bootstrap_servers", .text c.servers), ("group_id", .text c.group),
    ("send_timeout_ms", .ofUInt64 c.sendTimeout), ("sasl_username", .ofOption .text c.userName),
    ("sasl_password", .ofOption .text c.password), ("sasl_mechanism", .ofOption .text c.mechanism),
    ("security_protocol", .ofOption .text c.protocol),
    ("ssl_ca_location", .ofOption .text c.authority)]

/-- Settings as a document. -/
def Settings.toDocument (s : Settings) : Document :=
  .map [("kafka", s.connection.toDocument),
    ("retry_topics", .list (s.configurations.map Configuration.toDocument)),
    ("failure_log_level", .ofChoice LogLevel.names s.logLevel),
    ("publish_retry", s.republish.toDocument)]

end Redelivery
