import RelationGateway.Text.Case
import RelationGateway.Text.Numeral
import RelationGateway.Text.Trim

/-!
# Settings

What can be set from outside and the values taken otherwise. Settings are read from variables;
a variable that is blank or cannot be read counts as not set.
-/

namespace RelationGateway

/-- What can be set from outside. -/
structure Settings where
  /-- Where the database is. -/
  databaseUrl : Option String := none
  /-- The greatest number of bytes taken from a request, and from its body when expanded. -/
  maxBodySize : UInt64 := 5 * 1024 * 1024
  /-- The schema of a relation named without one. -/
  defaultSchema : String := "public"
  /-- The greatest number of rows of a listing, if there is one. -/
  maxLimit : Option Nat := none
  /-- A look-up without a row is answered as not found. -/
  lookupMissNotFound : Bool := false
  /-- The file that audit entries are appended to. -/
  auditLogPath : Option String := none
  /-- Audit entries are kept in a table of the database. -/
  auditTable : Bool := false
  /-- The file that failures are written to. -/
  errorLogPath : Option String := none
deriving DecidableEq, Repr

namespace Settings

/-- A variable that is set and not blank. -/
def given (lookup : String → Option String) (name : String) : Option String :=
  (lookup name).filter fun value => !(Text.trim value).isEmpty

/-- A variable that says yes. -/
def flag (lookup : String → Option String) (name : String) : Bool :=
  match given lookup name with
  | some value => ["1", "true", "yes", "on"].contains (Text.lower (Text.trim value))
  | none => false

/-- The settings given by variables. -/
def ofVariables (lookup : String → Option String) : Settings :=
  let defaults : Settings := {}
  let number (name : String) : Option Nat :=
    (given lookup name).bind (Text.unsigned? Text.maxUnsigned64)
  { databaseUrl := given lookup "PGBRIDGE_DATABASE_URL" <|> given lookup "DATABASE_URL"
    maxBodySize :=
      match number "PGBRIDGE_MAX_BODY_SIZE" with
      | some n => UInt64.ofNat n
      | none => defaults.maxBodySize
    defaultSchema := (given lookup "PGBRIDGE_SCHEMA").getD defaults.defaultSchema
    maxLimit := number "PGBRIDGE_MAX_LIMIT"
    lookupMissNotFound := flag lookup "PGBRIDGE_LOOKUP_MISS_404"
    auditLogPath := given lookup "PGBRIDGE_AUDIT_LOG"
    auditTable := flag lookup "PGBRIDGE_AUDIT_TABLE"
    errorLogPath := given lookup "PGBRIDGE_ERROR_LOG" }

end Settings

end RelationGateway
