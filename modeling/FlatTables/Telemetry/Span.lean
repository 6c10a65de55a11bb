import FlatTables.Fault
import FlatTables.Telemetry.Event

/-!
# Spans

One span covers loading the tables, one covers reading each statement, and one covers carrying
out each statement that could be read. No span lies inside another. A span is marked as failed
if a fault leaves it or, for reading, if the statement is rejected.
-/

namespace FlatTables
namespace Telemetry

open Query (StatementType)

/-- What carrying out a statement came to. -/
inductive SpanOutcome
  | done (affectedRows : Nat) (persisted : Bool)
  | failed (fault : Fault)
  deriving DecidableEq, Repr

/-- A finished span. -/
inductive Span
  | start (fault : Option Fault)
  | parse (rejection : Option Rejection)
  | statement (type : StatementType) (table : String) (outcome : SpanOutcome)
  deriving DecidableEq, Repr

namespace Span

/-- The name of the span that covers loading the tables. -/
def startName : String := "query.start"

/-- The name of the span that covers reading a statement. -/
def parseName : String := "query.parse"

/-- The name of the span that covers carrying out a statement. -/
def statementName (type : StatementType) : String :=
  "query." ++ type.name

/-- The name of a span. -/
def name : Span → String
  | .start _ => startName
  | .parse _ => parseName
  | .statement type _ _ => statementName type

/-- The attribute of a span that a rejection leaves. -/
def rejectionAttributes (rejection : Rejection) : List (String × Datum) :=
  [("query.error", .text rejection.kind)]

/-- The attributes that the outcome of a statement leaves. -/
def outcomeAttributes : SpanOutcome → List (String × Datum)
  | .done affectedRows persisted =>
      [("query.affected_rows", .number affectedRows), ("query.persisted", .flag persisted)]
  | .failed (.rejected rejection) => rejectionAttributes rejection
  | .failed _ => []

/-- The attributes of a span. -/
def attributes : Span → List (String × Datum)
  | .start _ | .parse none => []
  | .parse (some rejection) => rejectionAttributes rejection
  | .statement type table outcome =>
      [("db.system", .text "query_engine"), ("db.operation", .text type.upperName),
       ("db.sql.table", .text table)] ++ outcomeAttributes outcome

/-- How a fault that leaves a span is described. -/
def describe (fault : Fault) : String :=
  fault.label ++ ": " ++ fault.message

/-- The description of a failed span, or `none` for one that did not fail. -/
def failure? : Span → Option String
  | .start fault => fault.map describe
  | .parse rejection => rejection.map Rejection.message
  | .statement _ _ (.failed fault) => some (describe fault)
  | .statement _ _ (.done ..) => none

/-- The status of a span. -/
def status (span : Span) : String :=
  if span.failure?.isSome then "ERROR" else "UNSET"

end Span
end Telemetry
end FlatTables
