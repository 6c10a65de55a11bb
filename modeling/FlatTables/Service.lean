import FlatTables.Document
import FlatTables.Engine.Database

/-!
# Service

The front end for requests: health, tables, statistics, and executing a statement. A rejected
statement is a normal answer; a request body of the wrong form is refused before anything else,
and then a database that is not started.
-/

namespace FlatTables

open Engine (Database Reply Statistics)
open Storage (Gateway)

namespace Service

/-- A request: its method, its path, and its body if it has one. -/
structure Request where
  method : String
  path : String
  body : Option Document := none

/-- An answer: its status number and its body. -/
structure Response where
  status : Nat
  body : Document

/-- The version that the health check reports. -/
def version : String := "0.1.0"

/-! ## Answers -/

/-- A natural number as a document. -/
def natural (n : Nat) : Document :=
  .integer n

/-- A text as a document, or nothing. -/
def orNull (text : Option String) : Document :=
  (text.map Document.text).getD .null

/-- An answer that only says what is wrong. -/
def refusal (status : Nat) (detail : String) : Response :=
  ⟨status, .object [("detail", .text detail)]⟩

/-- The answer of a database that is not started. -/
def notStarted : Response :=
  refusal 503 "Database not started"

/-- A value in an answer. Only finite numbers can be shown. -/
def ofValue : Value → Document
  | .integer n => .integer n
  | .text s => .text s
  | .real (.finite negative magnitude) => .real (.finite negative magnitude)
  | .real _ => .null

/-- A row in an answer. -/
def ofRow (row : Row) : Document :=
  .list (row.map ofValue)

/-- A rejection in an answer. -/
def ofRejection (rejection : Rejection) : Document :=
  .object [("kind", .text rejection.kind), ("message", .text rejection.message)]

/-- A reply as the body of an answer. -/
def ofReply (reply : Reply) : Document :=
  .object
    [("success", .flag reply.success),
     ("statement_type", orNull (reply.type?.map Query.StatementType.name)),
     ("columns", .list (reply.columns.map .text)),
     ("rows", .list (reply.rows.map ofRow)),
     ("affected_rows", natural reply.affectedRows),
     ("persisted", .flag reply.persisted),
     ("message", .text reply.message),
     ("error", (reply.rejection?.map ofRejection).getD .null)]

/-- An attribute in the list of tables. -/
def ofAttribute (attr : Attribute) : Document :=
  .object [("name", .text attr.name), ("type", .text attr.type.name)]

/-- A table in the list of tables. -/
def ofTable (table : Table) : Document :=
  .object
    [("name", orNull table.name),
     ("attributes", .list (table.schema.attributes.map ofAttribute)),
     ("rows", natural table.size)]

/-- The statistics as the body of an answer. -/
def ofStatistics (statistics : Statistics) : Document :=
  .object
    [("started", .flag statistics.started),
     ("statements_executed", natural statistics.executed),
     ("statements_failed", natural statistics.failed),
     ("tables", .object ((statistics.tables.getD []).map fun (name, rows) => (name, natural rows)))]

/-! ## Bodies -/

/-- Why a request body is refused. -/
inductive BodyFault
  | noBody
  | notObject
  | noStatement
  | statementNotText
  deriving DecidableEq, Repr

namespace BodyFault

/-- The kind of a body fault. -/
def kind : BodyFault → String
  | .noBody | .noStatement => "missing"
  | .notObject => "model_attributes_type"
  | .statementNotText => "string_type"

/-- Where in the request the fault is. -/
def place : BodyFault → List String
  | .noBody | .notObject => ["body"]
  | .noStatement | .statementNotText => ["body", "sql"]

/-- The wording of a body fault. -/
def message : BodyFault → String
  | .noBody | .noStatement => "Field required"
  | .notObject => "Input should be a valid dictionary or object to extract fields from"
  | .statementNotText => "Input should be a valid string"

/-- The answer to a request with such a body. -/
def response (fault : BodyFault) : Response :=
  ⟨422, .list [.list [.text fault.kind, .list (fault.place.map .text), .text fault.message]]⟩

end BodyFault

/-- The statement in a request body. -/
def statementOf (body : Option Document) : Except BodyFault String :=
  match body with
  | none | some .null => .error .noBody
  | some (.object fields) =>
      match fields.lookup "sql" with
      | none => .error .noStatement
      | some (.text sql) => .ok sql
      | some _ => .error .statementNotText
  | some _ => .error .notObject

/-! ## Requests -/

/-- What can be asked for. -/
inductive Endpoint
  | health
  | tables
  | stats
  | execute
  deriving DecidableEq, Repr

namespace Endpoint

/-- All endpoints. -/
def all : List Endpoint :=
  [.health, .tables, .stats, .execute]

/-- The path of an endpoint. -/
def path : Endpoint → String
  | .health => "/health"
  | .tables => "/tables"
  | .stats => "/stats"
  | .execute => "/execute"

/-- The method of an endpoint. -/
def method : Endpoint → String
  | .execute => "POST"
  | _ => "GET"

/-- The endpoint at a path. A query or fragment after the path does not matter, nor do slashes at
its end, and the slash at its front may be missing. -/
def ofPath? (path : String) : Option Endpoint :=
  let chars := path.toList.takeWhile fun c => c ≠ '?' ∧ c ≠ '#'
  let bare := (chars.reverse.dropWhile (· = '/')).reverse
  let rooted := if bare.head? = some '/' then bare else '/' :: bare
  all.find? (·.path = String.ofList rooted)

end Endpoint

/-- The answer to a request, the database after it, and whether a fault has escaped. -/
structure Step (σ : Type) where
  result : Except Fault Response
  database : Database σ

/-- Answer with a document about the catalog, if there is one. -/
def onCatalog (database : Database σ) (body : Catalog → Document) : Response :=
  match database.catalog with
  | none => notStarted
  | some catalog => ⟨200, body catalog⟩

/-- Execute the statement of a request. -/
def execute (gateway : Gateway σ) (database : Database σ) (body : Option Document) : Step σ :=
  match statementOf body with
  | .error fault => ⟨.ok fault.response, database⟩
  | .ok sql =>
      if database.isStarted then
        let turn := database.execute gateway sql
        ⟨turn.result.map fun reply => ⟨200, ofReply reply⟩, turn.database⟩
      else ⟨.ok notStarted, database⟩

/-- Answer a request to an endpoint. -/
def answer (gateway : Gateway σ) (database : Database σ) (request : Request) :
    Endpoint → Step σ
  | .health =>
      let status := if database.isStarted then "healthy" else "unhealthy"
      ⟨.ok ⟨200, .object [("status", .text status), ("version", .text version)]⟩, database⟩
  | .tables =>
      ⟨.ok (onCatalog database fun catalog => .list (catalog.tables.map ofTable)), database⟩
  | .stats =>
      ⟨.ok (onCatalog database fun _ => ofStatistics database.statistics), database⟩
  | .execute => execute gateway database request.body

/-- Answer a request. -/
def respond (gateway : Gateway σ) (database : Database σ) (request : Request) : Step σ :=
  match Endpoint.ofPath? request.path with
  | none => ⟨.ok (refusal 404 "Not Found"), database⟩
  | some endpoint =>
      if String.ofList (request.method.toList.map Char.toUpper) = endpoint.method then
        answer gateway database request endpoint
      else ⟨.ok (refusal 405 "Method Not Allowed"), database⟩

end Service
end FlatTables
