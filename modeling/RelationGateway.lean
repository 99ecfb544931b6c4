import RelationGateway.Cgi.Input
import RelationGateway.Gateway.Basic
import RelationGateway.Json.Reader
import RelationGateway.Main
import RelationGateway.NameTable.View
import RelationGateway.Proofs.Form.RoundTrip
import RelationGateway.Proofs.Gateway.Audit
import RelationGateway.Proofs.Relation.Validation
import RelationGateway.Relation.Publication
import RelationGateway.Reply.Delivery
import RelationGateway.Route.Anchored
import RelationGateway.Proofs.Sql.Legibility
import RelationGateway.Proofs.Sql.Building
import RelationGateway.Proofs.Sql.Placeholders
import RelationGateway.Proofs.Sql.UniqueReading
import RelationGateway.Proofs.Sql.Injectivity
import RelationGateway.Proofs.Relation.Compilation
import RelationGateway.Proofs.Route.Anchoring
import RelationGateway.Proofs.Sql.Quoting
import RelationGateway.Proofs.Gateway.Failure
import RelationGateway.Proofs.Gateway.Routing
import RelationGateway.Proofs.Cgi.Environment
import RelationGateway.Proofs.Request.Identity
import RelationGateway.Proofs.Log.Secrets
import RelationGateway.Proofs.Url.Form
import RelationGateway.Proofs.Request.Payload
import RelationGateway.Proofs.Request.SentForm
import RelationGateway.Proofs.Url.Path
import RelationGateway.Proofs.Relation.Addressing
import RelationGateway.Proofs.NameTable.Refinement
import RelationGateway.Proofs.Text.Words
import RelationGateway.Proofs.Url.Letters
import RelationGateway.Proofs.Log.ReadNames
import RelationGateway.Proofs.Request.SizeLimit
import RelationGateway.Proofs.Relation.Pagination
import RelationGateway.Proofs.Reply.Reading
import RelationGateway.Proofs.Relation.RowCap
import RelationGateway.Proofs.Relation.Ordering
import RelationGateway.Proofs.Delimited.Spans
import RelationGateway.Proofs.Form.Places
import RelationGateway.Proofs.Url.Writing
import RelationGateway.Proofs.Cgi.Headers
import RelationGateway.Proofs.Reply.Page
import RelationGateway.Proofs.Log.Masking
import RelationGateway.Proofs.Log.Lines
