import RelationGateway.Proofs.Relation.Execution
import RelationGateway.Proofs.Relation.Validation
import RelationGateway.Proofs.Request.Identity
import RelationGateway.Proofs.Url.Form
import RelationGateway.Proofs.Url.Path
import RelationGateway.Request.Payload

/-!
# Every relation and every key has a path

A relation is asked for by the path with its name as the only segment, and a row of it by the path
with the key behind the name. Both are written with escapes, and then any characters may stand in
the name and in the key.

* `asked`: the names of relations that a request makes the database describe;
* `asked_eq`: they are read off the segments of the path;
* `AsksFor`: the variables of an environment that ask for a URL;
* `asked_writePath`: what is asked and executed for the paths of a relation and of its rows.
-/

namespace RelationGateway

/-- A name is read back from its text, if its schema holds no dot and no part is empty. -/
theorem QualifiedName.ofSegment_text {n : QualifiedName} (hschema : n.schema ≠ "")
    (hdot : '.' ∉ n.schema.toList) (hname : n.name ≠ "") (defaultSchema : String) :
    ofSegment n.text defaultSchema = n := by
  have hparts : (n.schema.isEmpty || n.name.isEmpty) = false := by simp [hschema, hname]
  rw [ofSegment, text, Text.cut?_of_not_mem rfl hdot]
  simp only [hparts, Bool.false_eq_true, if_false]

/-! ## Requests for a path -/

/-- The variables of an environment ask for the resource at a URL. -/
structure AsksFor (url : String) (vars : List (String × String)) : Prop where
  /-- The names are names of variables. -/
  valid : ∀ pair ∈ vars, Cgi.isVariableName pair.1
  /-- The method is that of asking for a resource. -/
  method : vars.lookup "REQUEST_METHOD" = some "GET"
  /-- The URL is the given one. -/
  url : vars.lookup "REQUEST_URI" = some url

namespace AsksFor

variable {vars : List (String × String)}

/-- A body does not matter where a resource is asked for. -/
theorem read_eq {url : String} (h : AsksFor url vars) {body : List UInt8} {settings : Settings}
    {expander : Gzip.Expander} (hsize : body.length ≤ settings.maxBodySize.toNat) :
    (Request.identify (Cgi.write vars)).read body settings expander =
      .ok (Request.identify (Cgi.write vars)) := by
  have hmethod : (Request.identify (Cgi.write vars)).method ≠ .post := by
    rw [Request.method_identify_write h.valid List.mem_cons_self h.method]
    exact nofun
  rw [Request.read, if_neg (Nat.not_lt.mpr hsize), if_pos (.inl hmethod)]

/-- The path has the segments that were written, and there are no query variables. -/
theorem segments_eq {texts : List String} (h : AsksFor (Url.writePath texts) vars)
    (hne : texts ≠ []) (htexts : ∀ text ∈ texts, text ≠ "") :
    (Request.identify (Cgi.write vars)).segments = texts.map Url.encodeSegment ∧
      (Request.identify (Cgi.write vars)).query = .empty := by
  have hvisible : ∀ c ∈ (Url.writePath texts).toList, Url.Visible ['%', '/'] c :=
    fun _ => Url.visible_of_mem_writePath
  have hurl : (Request.identify (Cgi.write vars)).url = Url.writePath texts :=
    Request.url_identify_write h.valid h.url (by simp [Url.writePath])
      (mt (hvisible '\n') (by decide)) (Text.trimEnd_eq_self (Url.unpadded_of_visible hvisible))
  -- The only question marks are escaped ones.
  have hparts : Url.parts (Url.writePath texts) = (Url.writePath texts, "") := by
    have hcut : Text.cut? "?" (Url.writePath texts) = none :=
      Text.cut?_eq_none_iff.mpr
        (Delimited.cut?_eq_none_of_not_mem (mt (hvisible '?') (by decide)) [])
    rw [Url.parts, hcut, Option.getD_none]
  rw [Request.segments_identify, Request.query_identify, hurl, hparts, Url.readForm_eq]
  exact ⟨Url.pathSegments_writePath hne htexts, rfl⟩

end AsksFor

namespace Publication

open Observation

/-! ## Described relations -/

/-- The database that keeps the name of each relation before it describes it. -/
def asking {m : Type → Type} [Monad m] (db : Database m) :
    Database (StateT (List QualifiedName) m) where
  relations := StateT.lift db.relations
  describe name := mark name (db.describe name)
  fetch query := StateT.lift (db.fetch query)

variable {σ : Type}

/-- The names of the relations that the database describes for a request, in order. -/
def asked (db : Database (StateM σ)) (settings : Settings) (request : Request) (state : σ) :
    List QualifiedName :=
  (outcome (run (asking db) settings request) [] state).1.2

/-- The name of the relation that a request is on: with one or two segments the first one names
it. -/
def requested (settings : Settings) (request : Request) : List QualifiedName :=
  match request.segments with
  | [segment] | [segment, _] => [.ofSegment (Url.decodeSegment segment) settings.defaultSchema]
  | _ => []

section Asked

variable {db : Database (StateM σ)} {settings : Settings}

/-- A listing does not ask for further relations. -/
theorem follows_list (r : Relation) (query : NameTable .exact) :
    Follows (list (asking db) settings r query) (list db settings r query)
      fun _ added => added = [] := by
  unfold list
  cases Listing.check r settings.maxLimit query with
  | error objection => exact follows_pure rfl
  | ok l =>
    dsimp only
    cases l.compile r with
    | error failure => exact follows_pure rfl
    | ok statement =>
      refine Follows.lift_bind fun reply => ?_
      cases reply <;> exact follows_pure rfl

/-- A look-up does not ask for further relations. -/
theorem follows_lookUp (r : Relation) (key : String) :
    Follows (lookUp (asking db) settings r key) (lookUp db settings r key)
      fun _ added => added = [] := by
  unfold lookUp
  cases r.keyColumn with
  | error failure => exact follows_pure rfl
  | ok column =>
    refine Follows.lift_bind fun reply => ?_
    rcases reply with failure | _ | row
    · exact follows_pure rfl
    · -- What is answered without a row depends on the settings, but nothing is asked for.
      dsimp only
      split <;> exact follows_pure rfl
    · exact follows_pure rfl

/-- Answering about a relation asks for the relation that the segment names, and for what the
answer asks. -/
theorem follows_onRelation (segment : String)
    {answer : Relation → StateT (List QualifiedName) (StateM σ) Run}
    {bareAnswer : Relation → StateM σ Run}
    (hanswer : ∀ r, Follows (answer r) (bareAnswer r) fun _ added => added = []) :
    Follows (onRelation (asking db) settings segment answer)
      (onRelation db settings segment bareAnswer) fun _ added =>
        added = [.ofSegment (Url.decodeSegment segment) settings.defaultSchema] := by
  have hdescribe : Follows
      ((asking db).describe (.ofSegment (Url.decodeSegment segment) settings.defaultSchema))
      (db.describe (.ofSegment (Url.decodeSegment segment) settings.defaultSchema))
      fun _ added => added = [.ofSegment (Url.decodeSegment segment) settings.defaultSchema] :=
    follows_mark fun _ => rfl
  refine hdescribe.bind fun described added hadded => ?_
  -- Nothing is asked for after the relation is described.
  rw [hadded]
  rcases described with failure | _ | r
  · exact follows_pure rfl
  · exact follows_pure rfl
  · exact (hanswer r).mono fun _ more hmore => by rw [hmore, List.append_nil]

/-- A request asks for the relation that it is on and for no other. -/
theorem follows_run (request : Request) :
    Follows (run (asking db) settings request) (run db settings request)
      fun _ added => added = requested settings request := by
  unfold run requested
  rcases request.segments with _ | ⟨segment, _ | ⟨key, _ | ⟨_, _⟩⟩⟩
  · -- The root lists the relations without describing any.
    refine Follows.lift_bind fun reply => ?_
    cases reply <;> exact follows_pure rfl
  · exact follows_onRelation segment fun r => follows_list r request.query
  · exact follows_onRelation segment fun r => follows_lookUp r (Url.decodeSegment key)
  · exact follows_pure rfl

/-- The database describes the relation that the request is on and no other. -/
theorem asked_eq (request : Request) (state : σ) :
    asked db settings request state = requested settings request := by
  have hfollows : Follows (run (asking db) settings request) (run db settings request)
      fun _ added => added = requested settings request := follows_run request
  obtain ⟨added, hadded, hrun⟩ := hfollows [] state
  rw [asked, hrun, hadded, List.nil_append]

end Asked

/-! ## Paths of relations -/

/-- Without query variables all rows are selected, up to the greatest number allowed. -/
theorem check_empty (d : Relation) (maxLimit : Option Nat) :
    ∃ l, Listing.check d maxLimit .empty = .ok l ∧
      Listing.selection d l = { relation := d, limit := maxLimit } := by
  refine ⟨Listing.wanted maxLimit .empty, ?_, ?_⟩
  · rw [Listing.check_eq]
    rfl
  · cases maxLimit <;> rfl

/-- The paths of a relation, and of a row of it, lead to the relation and to the row. Of an
environment that asks for the path with the name of the relation as its only segment the request
asks the database for exactly this relation, and executes the listing of all its rows if there is
one. If a key stands behind the name, the request asks for the same relation and executes the
look-up of exactly this key, if there is a single column for it. -/
theorem asked_writePath {r : QualifiedName} (hschema : r.schema ≠ "")
    (hdot : '.' ∉ r.schema.toList) (hname : r.name ≠ "") (db : Database (StateM σ))
    (settings : Settings) (expander : Gzip.Expander) (state : σ) (body : List UInt8)
    (hsize : body.length ≤ settings.maxBodySize.toNat) :
    (∀ vars, AsksFor (Url.writePath [r.text]) vars → ∃ request,
      (Request.identify (Cgi.write vars)).read body settings expander = .ok request ∧
        asked db settings request state = [r] ∧
        ∀ d, ((db.describe r).run state).1 = .ok (some d) →
          executed db settings request state =
            [Sql.Select.compile { relation := d, limit := settings.maxLimit }]) ∧
    ∀ vars key, key ≠ "" → AsksFor (Url.writePath [r.text, key]) vars → ∃ request,
      (Request.identify (Cgi.write vars)).read body settings expander = .ok request ∧
        asked db settings request state = [r] ∧
        ∀ d column, ((db.describe r).run state).1 = .ok (some d) →
          d.columns.filter (·.inPrimaryKey) = [column] →
          executed db settings request state = [Sql.lookup d column key] ∧
            (Sql.lookup d column key).params = [key] := by
  have htext : r.text ≠ "" := by simp [QualifiedName.text]
  have hsegment : QualifiedName.ofSegment (Url.decodeSegment (Url.encodeSegment r.text))
      settings.defaultSchema = r := by
    rw [Url.decodeSegment_encodeSegment, QualifiedName.ofSegment_text hschema hdot hname]
  -- What stands behind the name does not matter for which relation the request is on.
  have hon {request : Request} {rest : List String} {d : Relation}
      (hsegments : request.segments = Url.encodeSegment r.text :: rest)
      (hdescribe : ((db.describe r).run state).1 = .ok (some d)) :
      OnRelation db settings d request state :=
    ⟨Url.encodeSegment r.text, by rw [hsegments]; rfl, by rw [hsegment, hdescribe]⟩
  constructor
  · intro vars hvars
    obtain ⟨hsegments, hquery⟩ :=
      hvars.segments_eq (List.cons_ne_nil _ _) (List.forall_mem_singleton.mpr htext)
    refine ⟨_, hvars.read_eq hsize, ?_, fun d hdescribe => ?_⟩
    · rw [asked_eq, requested, hsegments]
      exact congrArg (fun name => [name]) hsegment
    · obtain ⟨l, hcheck, hselection⟩ := check_empty d settings.maxLimit
      rw [executed_listing hsegments (hon hsegments hdescribe), hquery, hcheck]
      dsimp only
      rw [hselection]
  · intro vars key hkey hvars
    obtain ⟨hsegments, -⟩ := hvars.segments_eq (List.cons_ne_nil _ _)
      (List.forall_mem_cons.mpr ⟨htext, List.forall_mem_singleton.mpr hkey⟩)
    refine ⟨_, hvars.read_eq hsize, ?_, fun d column hdescribe hcolumn => ⟨?_, ?_⟩⟩
    · rw [asked_eq, requested, hsegments]
      exact congrArg (fun name => [name]) hsegment
    · have hkeyColumn : d.keyColumn = .ok column := by rw [Relation.keyColumn, hcolumn]
      rw [executed_lookUp hsegments (hon hsegments hdescribe), hkeyColumn,
        Url.decodeSegment_encodeSegment]
    · exact Sql.params_lookup d column key

/-- Slashes, question marks and dots in a name, and a key of blanks and signs, are no obstacle. -/
theorem asked_writePath_slashes :
    (∃ request,
      (Request.identify (Cgi.write [("REQUEST_METHOD", "GET"),
        ("REQUEST_URI", "/s%2F.a.b%3F")])).read [] {} .ofMembers = .ok request ∧
      asked (single items) {} request () = [⟨"s/", "a.b?"⟩] ∧
      executed (single items) {} request () =
        [Sql.Select.compile { relation := items, limit := none }]) ∧
    ∃ request,
      (Request.identify (Cgi.write [("HTTP_HOST", "h"), ("REQUEST_METHOD", "GET"),
        ("REQUEST_URI", "/s%2F.a.b%3F/%20%2B%25%0A")])).read [] {} .ofMembers = .ok request ∧
      asked (single items) {} request () = [⟨"s/", "a.b?"⟩] ∧
      executed (single items) {} request () =
        [Sql.lookup items { name := "id", type := "integer", inPrimaryKey := true } " +%\n"] := by
  have hpath : Url.writePath [QualifiedName.text ⟨"s/", "a.b?"⟩] = "/s%2F.a.b%3F" ∧
      Url.writePath [QualifiedName.text ⟨"s/", "a.b?"⟩, " +%\n"] = "/s%2F.a.b%3F/%20%2B%25%0A" := by
    decide +kernel
  have hlisted : AsksFor "/s%2F.a.b%3F" [("REQUEST_METHOD", "GET"),
      ("REQUEST_URI", "/s%2F.a.b%3F")] := ⟨by decide, rfl, rfl⟩
  have hlookedUp : AsksFor "/s%2F.a.b%3F/%20%2B%25%0A" [("HTTP_HOST", "h"),
      ("REQUEST_METHOD", "GET"), ("REQUEST_URI", "/s%2F.a.b%3F/%20%2B%25%0A")] :=
    ⟨by decide, rfl, rfl⟩
  obtain ⟨hlist, hlookUp⟩ := asked_writePath (r := ⟨"s/", "a.b?"⟩) (by decide) (by decide)
    (by decide) (single items) {} .ofMembers () [] (Nat.zero_le _)
  constructor
  · obtain ⟨request, hread, hasked, hexecuted⟩ := hlist _ (hpath.1 ▸ hlisted)
    exact ⟨request, hread, hasked, hexecuted items rfl⟩
  · obtain ⟨request, hread, hasked, hexecuted⟩ :=
      hlookUp _ " +%\n" (by decide) (hpath.2 ▸ hlookedUp)
    exact ⟨request, hread, hasked, (hexecuted items _ rfl rfl).1⟩

end Publication

end RelationGateway
