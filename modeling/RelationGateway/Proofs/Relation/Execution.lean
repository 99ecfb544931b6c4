import RelationGateway.Proofs.Observation
import RelationGateway.Proofs.Relation.Listing
import RelationGateway.Proofs.Sql.Skeleton
import RelationGateway.Relation.Publication

/-!
# Executed statements

`executed` is the list of statements that a request makes the database execute. It is read off a
run against a database that keeps each statement before it answers. The database itself is
arbitrary: what it answers may depend on a state of its own.

* `executed_listing`: a listing executes its one statement, if it passes all checks;
* `executed_lookUp`: a look-up executes its one statement, if the relation has a key;
* `OnRelation`: the relation that a request is on;
* `answered`: the run with which a request is answered, `Answers` and `Relays` what it can be, and
  `exists_answered_listing` which of them the run of a listing is.
-/

namespace RelationGateway.Publication

/-- The database that keeps each statement before it answers like the given one. -/
def recording {m : Type → Type} [Monad m] (db : Database m) :
    Database (StateT (List Sql.Query) m) where
  relations := StateT.lift db.relations
  describe name := StateT.lift (db.describe name)
  fetch query := Observation.mark query (db.fetch query)

variable {σ : Type}

/-- The statements that the database executes for a request, in order. -/
def executed (db : Database (StateM σ)) (settings : Settings) (request : Request) (state : σ) :
    List Sql.Query :=
  (Observation.outcome (run (recording db) settings request) [] state).1.2

/-- The first segment of the request names the relation, as the database describes it. -/
def OnRelation (db : Database (StateM σ)) (settings : Settings) (r : Relation)
    (request : Request) (state : σ) : Prop :=
  ∃ segment, request.segments.head? = some segment ∧
    ((db.describe (.ofSegment (Url.decodeSegment segment) settings.defaultSchema)).run state).1 =
      .ok (some r)

variable {db : Database (StateM σ)} {settings : Settings} {r : Relation} {request : Request}
  {state : σ}

open Observation

/-- A request that is answered about its relation executes what the answer executes in some state
of the database. -/
theorem executed_onRelation (hon : OnRelation db settings r request state) {segment : String}
    {rest : List String} (hsegments : request.segments = segment :: rest)
    {answer : Relation → StateT (List Sql.Query) (StateM σ) Run}
    (hrun : run (recording db) settings request =
      onRelation (recording db) settings segment answer) :
    ∃ state', executed db settings request state = (outcome (answer r) [] state').1.2 := by
  obtain ⟨_, hsegment, hdescribe⟩ := hon
  obtain rfl : segment = _ := by simpa [hsegments] using hsegment
  -- Describing the relation is a step of the database alone, so it leaves no statement.
  have hstep : outcome ((recording db).describe
      (.ofSegment (Url.decodeSegment segment) settings.defaultSchema)) [] state =
      ((.ok (some r), []), ((db.describe
        (.ofSegment (Url.decodeSegment segment) settings.defaultSchema)).run state).2) := by
    rw [← hdescribe]
    exact outcome_lift _ _ _
  refine ⟨((db.describe
    (.ofSegment (Url.decodeSegment segment) settings.defaultSchema)).run state).2, ?_⟩
  rw [executed, hrun, onRelation, outcome_bind, hstep]

/-- The database executes the statement that it is asked for, whatever it replies. -/
theorem outcome_fetch (statement : Sql.Query) (state : σ) :
    outcome ((recording db).fetch statement) [] state =
      ((((db.fetch statement).run state).1, [statement]), ((db.fetch statement).run state).2) :=
  outcome_mark _ _ _ _

/-- A listing that passes all checks executes the statement of its selection, and one that does
not executes nothing. -/
theorem executed_listing {segment : String} (hsegments : request.segments = [segment])
    (hon : OnRelation db settings r request state) :
    executed db settings request state =
      match Listing.check r settings.maxLimit request.query with
      | .ok l => [(Listing.selection r l).compile]
      | .error _ => [] := by
  have hrun : run (recording db) settings request = onRelation (recording db) settings segment
      fun r => list (recording db) settings r request.query := by
    rw [run, hsegments]
  obtain ⟨state', hstate⟩ := executed_onRelation hon hsegments hrun
  rw [hstate, list]
  cases hcheck : Listing.check r settings.maxLimit request.query with
  | error objection => rfl
  | ok l =>
    simp only [Listing.compile_of_check hcheck]
    rw [outcome_bind, outcome_fetch]
    -- Whatever the database replies, nothing more is asked of it.
    rcases ((db.fetch (Listing.selection r l).compile).run state').1 with failure | rows <;> rfl

/-- A listing that passes all checks executes the statement of its selection. -/
theorem executed_of_check {segment : String} (hsegments : request.segments = [segment])
    (hon : OnRelation db settings r request state) {l : Listing}
    (hcheck : Listing.check r settings.maxLimit request.query = .ok l) :
    executed db settings request state = [(Listing.selection r l).compile] := by
  rw [executed_listing hsegments hon, hcheck]

/-- What a listing executes is the statement of a selection that passed all checks. -/
theorem exists_of_mem_executed {segment : String} (hsegments : request.segments = [segment])
    (hon : OnRelation db settings r request state) {statement : Sql.Query}
    (hstatement : statement ∈ executed db settings request state) :
    ∃ l, Listing.check r settings.maxLimit request.query = .ok l ∧
      statement = (Listing.selection r l).compile := by
  rw [executed_listing hsegments hon] at hstatement
  cases hcheck : Listing.check r settings.maxLimit request.query with
  | error objection => rw [hcheck] at hstatement; cases hstatement
  | ok l =>
    rw [hcheck] at hstatement
    exact ⟨l, rfl, List.mem_singleton.mp hstatement⟩

/-- A look-up executes its statement if the relation has a key, and else nothing. -/
theorem executed_lookUp {segment key : String} (hsegments : request.segments = [segment, key])
    (hon : OnRelation db settings r request state) :
    executed db settings request state =
      match r.keyColumn with
      | .ok column => [Sql.lookup r column (Url.decodeSegment key)]
      | .error _ => [] := by
  have hrun : run (recording db) settings request = onRelation (recording db) settings segment
      fun r => lookUp (recording db) settings r (Url.decodeSegment key) := by
    rw [run, hsegments]
  obtain ⟨state', hstate⟩ := executed_onRelation hon hsegments hrun
  rw [hstate, lookUp]
  cases r.keyColumn with
  | error failure => rfl
  | ok column =>
    rw [outcome_bind, outcome_fetch]
    rcases ((db.fetch (Sql.lookup r column (Url.decodeSegment key))).run state').1 with
      failure | _ | row
    · rfl
    · cases settings.lookupMissNotFound <;> rfl
    · rfl

/-! ## Answers -/

/-- The run with which a request is answered. -/
def answered (db : Database (StateM σ)) (settings : Settings) (request : Request) (state : σ) :
    Run :=
  ((run db settings request).run state).1

/-- The run answers with a status and a JSON value: the text of the value is the whole body, and its
type is the only header. -/
structure Answers (run : Run) (status : UInt16) (body : Json) : Prop where
  /-- It ends with the status. -/
  ending : run.ending = .answered status
  /-- The body is the text of the value. -/
  body : run.draft.body = body.write
  /-- The headers are the type of the body. -/
  headers : run.draft.headers.toList = [("Content-Type", "application/json")]

/-- The run hands the reply of the database to a statement on, and keeps the statement. -/
structure Relays (run : Run) (statement : Sql.Query) (reply : Except Failure (Option Json)) :
    Prop where
  /-- It fails as the database does. -/
  failed : ∀ failure, reply = .error failure → run.ending = .failed failure
  /-- It answers with the value that the statement returns, and with the empty list for none. -/
  answered : ∀ rows, reply = .ok rows → Answers run 200 (rows.getD (.list []))
  /-- The statement is kept for debugging. -/
  debug : run.draft.debug = some (.object [("query", statement.json)])

/-- A run that answers on a draft without body and headers has no others. -/
theorem answers_answer {draft : Draft} (hfragments : draft.fragments = [])
    (hheaders : draft.headers = .empty) (status : UInt16) (body : Json) :
    Answers (answer draft status body) status body where
  ending := rfl
  body := by
    simp [answer, Draft.body, Draft.appendJson, Draft.append, Draft.setHeader, hfragments]
  headers := by
    rw [answer, Draft.appendJson, Draft.append, Draft.setHeader, hheaders]
    rfl

/-- A request for a listing describes the relation first, and the rest of the run sees the state
after that. -/
theorem answered_listing {segment : String} (hsegments : request.segments = [segment]) :
    answered db settings request state =
      ((match ((db.describe
          (.ofSegment (Url.decodeSegment segment) settings.defaultSchema)).run state).1 with
        | .error failure => pure (fail {} failure)
        | .ok none => pure (unknownRelation (Url.decodeSegment segment))
        | .ok (some r) => list db settings r request.query).run
          ((db.describe
            (.ofSegment (Url.decodeSegment segment) settings.defaultSchema)).run state).2).1 := by
  rw [answered, run, hsegments]
  rfl

/-- A listing that passes all checks is answered with what the database replies to its statement,
and one that does not with the objection as the client's fault. -/
theorem exists_answered_listing {segment : String} (hsegments : request.segments = [segment])
    (hon : OnRelation db settings r request state) :
    ∃ state', match Listing.check r settings.maxLimit request.query with
      | .ok l => Relays (answered db settings request state) (Listing.selection r l).compile
          ((db.fetch (Listing.selection r l).compile).run state').1
      | .error objection => Answers (answered db settings request state) 400 objection.json ∧
          (answered db settings request state).draft.debug = none := by
  obtain ⟨_, hsegment, hdescribe⟩ := hon
  obtain rfl : segment = _ := by simpa [hsegments] using hsegment
  generalize hdescription : (db.describe
    (.ofSegment (Url.decodeSegment segment) settings.defaultSchema)).run state = description
    at hdescribe
  obtain ⟨described, state'⟩ := description
  obtain rfl : described = .ok (some r) := hdescribe
  refine ⟨state', ?_⟩
  rw [answered_listing hsegments, hdescription]
  simp only [list]
  cases hcheck : Listing.check r settings.maxLimit request.query with
  | error objection => exact ⟨answers_answer rfl rfl 400 objection.json, rfl⟩
  | ok l =>
    have hfetch (next : Except Failure (Option Json) → StateM σ Run) :
        ((db.fetch (Listing.selection r l).compile >>= next).run state').1 =
          ((next ((db.fetch (Listing.selection r l).compile).run state').1).run
            ((db.fetch (Listing.selection r l).compile).run state').2).1 := rfl
    simp only [Listing.compile_of_check hcheck, hfetch]
    rcases ((db.fetch (Listing.selection r l).compile).run state').1 with failure | rows
    · exact ⟨fun _ h => congrArg Ending.failed (Except.error.inj h), nofun, rfl⟩
    · refine ⟨nofun, fun rows' h => ?_, rfl⟩
      obtain rfl := Except.ok.inj h
      exact answers_answer rfl rfl 200 _

end RelationGateway.Publication
