import StorageReply.Service.Properties
import StorageReply.Validation.Lax

/-!
# Service properties from values

Service properties that are built from the entries of a map, with lax conversions. All issues are
reported, in the order of the fields; entries that are no field do not matter.

Main definition: `ServiceProperties.ofFields`.
-/

namespace StorageReply

/-- The record that a value gives, which must be a map. -/
def Checked.record {α : Type} (name : String) (ofFields : Fields → Checked α) : Value → Checked α
  | .map fields => ofFields fields
  | _ => .defect (.notRecord name)

/-- The policy that the entries of a map give. -/
def RetentionPolicy.ofFields (fields : Fields) : Checked RetentionPolicy :=
  ((Checked.ok RetentionPolicy.mk).ap (.field fields "enabled" false Lax.bool)).ap
    (.field fields "days" none (Checked.optional Lax.integer))

/-- The policy in an entry of a map. -/
def RetentionPolicy.field (fields : Fields) : Checked RetentionPolicy :=
  .field fields "retention_policy" {} (Checked.record "RetentionPolicy" RetentionPolicy.ofFields)

/-- The logging settings that the entries of a map give. -/
def LoggingProperties.ofFields (fields : Fields) : Checked LoggingProperties :=
  (((((Checked.ok LoggingProperties.mk).ap (.field fields "version" "1.0" Lax.text)).ap
    (.field fields "delete" false Lax.bool)).ap
    (.field fields "read" false Lax.bool)).ap
    (.field fields "write" false Lax.bool)).ap
    (RetentionPolicy.field fields)

/-- The metrics settings that the entries of a map give. -/
def MetricsProperties.ofFields (fields : Fields) : Checked MetricsProperties :=
  ((((Checked.ok MetricsProperties.mk).ap (.field fields "version" "1.0" Lax.text)).ap
    (.field fields "enabled" false Lax.bool)).ap
    (.field fields "include_apis" none (Checked.optional Lax.bool))).ap
    (RetentionPolicy.field fields)

/-- The rule that the entries of a map give. -/
def CorsRule.ofFields (fields : Fields) : Checked CorsRule :=
  (((((Checked.ok CorsRule.mk).ap (.field fields "allowed_origins" [] Lax.textList)).ap
    (.field fields "allowed_methods" [] Lax.textList)).ap
    (.field fields "max_age_in_seconds" 0 Lax.integer)).ap
    (.field fields "exposed_headers" [] Lax.textList)).ap
    (.field fields "allowed_headers" [] Lax.textList)

/-- The rules that a list gives. -/
def CorsRule.listOf : Value → Checked (List CorsRule)
  | .list items => Checked.items (Checked.record "CorsRule" CorsRule.ofFields) 0 items
  | _ => .defect .notList

/-- The settings that the entries of a map give. -/
def ServiceProperties.ofFields (fields : Fields) : Checked ServiceProperties :=
  (((((Checked.ok ServiceProperties.mk).ap
    (.field fields "logging" none
      (Checked.optional (Checked.record "LoggingProperties" LoggingProperties.ofFields)))).ap
    (.field fields "hour_metrics" none
      (Checked.optional (Checked.record "MetricsProperties" MetricsProperties.ofFields)))).ap
    (.field fields "minute_metrics" none
      (Checked.optional (Checked.record "MetricsProperties" MetricsProperties.ofFields)))).ap
    (.field fields "cors" none (Checked.optional CorsRule.listOf))).ap
    (.field fields "default_service_version" none (Checked.optional Lax.text))

end StorageReply
