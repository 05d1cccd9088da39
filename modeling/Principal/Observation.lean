import Principal.Failure
import Principal.Json.Basic

/-!
# Observations

What is known of the request under which events are logged: three standard entries and any
others. Shown as fields, the standard ones come first and an other of the same name overrides
their value.
-/

namespace Principal

structure Observation where
  requestId : Option String := none
  handlerName : Option String := none
  tenantDomain : Option String := none
  extra : Fields Json := []

namespace Observation

variable (o : Observation)

/-- The standard entries that are present. -/
def standard : Fields Json :=
  [("request_id", o.requestId), ("handler_name", o.handlerName),
    ("tenant_domain", o.tenantDomain)].filterMap
      fun (key, value) => value.map fun s => (key, .str s)

def fields : Fields Json :=
  Fields.update o.standard o.extra

def withHandler (name : Option String) : Observation :=
  { o with handlerName := name }

/-- Adds entries to the others; the name that stands for the observation itself is refused. -/
def withExtra (entries : Fields Json) : Except Failure Observation :=
  if Fields.contains "self" entries then
    .error (.plain .type
      "ObservationContext.with_extra() got multiple values for argument 'self'")
  else .ok { o with extra := Fields.update o.extra entries }

end Observation

end Principal
