/-
The outcome of calling an endpoint, and the report of it as JSON.
-/
import Toolsmith.Json.Writer
import Toolsmith.Shape

namespace Toolsmith

/-- The outcome of one call. -/
structure Outcome where
  success : Bool
  data : Value
  error : Option String
  statusCode : Option Int
  endpoint : String
  method : String
  url : Option String
  deriving Repr

namespace Outcome

open Shape in
/-- Reads an outcome from a record. -/
def check : Check Outcome := record fun es =>
  Outcome.mk <$> field ["success"] truth es
    <*> fieldOr ["data"] .null anything es
    <*> fieldOr ["error"] none (optional text) es
    <*> fieldOr ["status_code"] none (optional whole) es
    <*> field ["endpoint"] text es
    <*> field ["method"] text es
    <*> fieldOr ["url"] none (optional text) es

/-- The outcome as a mapping from the names of its fields. -/
def toValue (o : Outcome) : Value :=
  let text? (s : Option String) : Value := (s.map .text).getD .null
  .ofFields
    [("success", .bool o.success), ("data", o.data),
     ("error", text? o.error),
     ("status_code", (o.statusCode.map .int).getD .null),
     ("endpoint", .text o.endpoint), ("method", .text o.method),
     ("url", text? o.url)]

/-- The outcome as indented JSON. -/
def report (o : Outcome) : Except Json.WriteFault String :=
  (Json.write .report o.toValue).map String.ofList

end Outcome

end Toolsmith
