import RelationGateway.Gateway.Handler
import RelationGateway.Relation.Listing
import RelationGateway.Settings
import RelationGateway.Url.Form

/-!
# Publishing relations

The relations of a database are published under their names: the root lists them, a segment
lists the rows of a relation, and a second segment looks one row up by its key. Answers are
JSON. What the client got wrong in the query is answered with status 400; other failures are
left to the gateway.
-/

namespace RelationGateway

/-- A database as the gateway uses it. -/
structure Database (m : Type → Type) where
  /-- The names of its relations. -/
  relations : m (Except Failure (List QualifiedName))
  /-- The relation of the given name, if there is one. -/
  describe : QualifiedName → m (Except Failure (Option Relation))
  /-- The JSON value that a statement returns, if it returns one. -/
  fetch : Sql.Query → m (Except Failure (Option Json))

namespace Publication

variable {m : Type → Type} [Monad m]

/-- A run that answers with a status and a JSON value. -/
def answer (draft : Draft) (status : UInt16) (body : Json) : Run :=
  { draft := (draft.setHeader "Content-Type" "application/json").appendJson body
    ending := .answered status }

/-- A run that fails. -/
def fail (draft : Draft) (failure : Failure) : Run := { draft, ending := .failed failure }

/-- A name as JSON. -/
def nameJson (name : QualifiedName) : Json :=
  .object [("schema", .text name.schema), ("name", .text name.name)]

/-- The answer to a path that names no relation. -/
def unknownRelation (text : String) : Run :=
  answer {} 400 (.object [("error", .text "unknown relation"), ("relation", .text text)])

/-- The answer to a look-up without a row. -/
def missBody (r : Relation) (key : String) : Json :=
  .object [("error", .text "not found"), ("relation", .text r.name.text), ("key", .text key)]

/-- The draft that keeps a statement for debugging. -/
def debugDraft (query : Sql.Query) : Draft :=
  Draft.setDebug {} (.object [("query", query.json)])

/-- Answers with the names of the relations. -/
def catalogue (db : Database m) : m Run := do
  match ← db.relations with
  | .error failure => return fail {} failure
  | .ok names => return answer {} 200 (.list (names.map nameJson))

/-- Answers with the row of a relation that has the given key. -/
def lookUp (db : Database m) (settings : Settings) (r : Relation) (key : String) : m Run := do
  match r.keyColumn with
  | .error failure => return fail {} failure
  | .ok column =>
    let query := Sql.lookup r column key
    let draft := debugDraft query
    match ← db.fetch query with
    | .error failure => return fail draft failure
    | .ok (some row) => return answer draft 200 row
    | .ok none =>
      if settings.lookupMissNotFound then return answer draft 404 (missBody r key)
      else return answer draft 200 .null

/-- Answers with the rows of a relation that the query variables ask for. -/
def list (db : Database m) (settings : Settings) (r : Relation) (query : NameTable .exact) :
    m Run := do
  match Listing.check r settings.maxLimit query with
  | .error objection => return answer {} 400 objection.json
  | .ok listing =>
    match listing.compile r with
    | .error failure => return fail {} failure
    | .ok statement =>
      let draft := debugDraft statement
      match ← db.fetch statement with
      | .error failure => return fail draft failure
      | .ok rows => return answer draft 200 (rows.getD (.list []))

/-- Answers about the relation that a segment names. -/
def onRelation (db : Database m) (settings : Settings) (segment : String)
    (answer : Relation → m Run) : m Run := do
  let text := Url.decodeSegment segment
  match ← db.describe (.ofSegment text settings.defaultSchema) with
  | .error failure => return fail {} failure
  | .ok none => return unknownRelation text
  | .ok (some r) => answer r

/-- Answers a request by the segments of its path. -/
def run (db : Database m) (settings : Settings) (request : Request) : m Run :=
  match request.segments with
  | [] => catalogue db
  | [segment] => onRelation db settings segment fun r => list db settings r request.query
  | [segment, key] =>
    onRelation db settings segment fun r => lookUp db settings r (Url.decodeSegment key)
  | segments => return unknownRelation (String.intercalate "/" segments)

/-- The pattern of the paths under which relations are published. -/
def pattern : String := "^/.*$"

/-- The handler that publishes the relations of a database. It answers every request for a
resource, whatever the path. -/
def handler (db : Database m) (settings : Settings) : Handler m :=
  { pattern
    accepts := fun _ method => method == .get
    run := run db settings }

end Publication

end RelationGateway
