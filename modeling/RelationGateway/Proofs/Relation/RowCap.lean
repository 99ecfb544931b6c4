import RelationGateway.Proofs.Sql.Clauses
import RelationGateway.Proofs.Url.Form

/-!
# The cap on the number of rows

Whatever query string asks for a listing, the statement that is executed has the limit that is given
first, under the cap that is set, and it has a limit if there is either.

* `executed_limited`: the limit of the statement that a query string makes the database execute.
-/

namespace RelationGateway.Publication

open Listing

variable {σ : Type} {db : Database (StateM σ)} {settings : Settings} {r : Relation}
  {request : Request} {state : σ}

/-- A listing that executes anything executes one statement with one limit. Without a cap that is
the number in the first variable whose decoded name is `limit`, if there is one, and with a cap it
is the lesser of both, or the cap alone. The limit is the parameter that its clause has the number of.
If the types of the columns close the names and parentheses that they open, the inner statement has
the word for the limit once outside of names and parentheses, or never without a limit. -/
theorem executed_limited {segment raw : String} (hsegments : request.segments = [segment])
    (hquery : request.query = Url.readForm raw) (hon : OnRelation db settings r request state) :
    ∀ statement ∈ executed db settings request state,
      let given := (Url.readPairs raw).lookup "limit"
      ∃ limit : Option Nat,
        executed db settings request state = [statement] ∧
        (∀ value ∈ given, Directive.IsCount value) ∧
        (settings.maxLimit = none →
          limit = given.map fun value => Text.decimalValue (Text.trim value)) ∧
        (∀ cap ∈ settings.maxLimit, limit =
          some (given.elim cap fun value => min (Text.decimalValue (Text.trim value)) cap)) ∧
        (∃ k before after, statement.sql =
          before ++ Sql.countText " LIMIT " (k + 1) limit ++ after ∧
            ∀ n ∈ limit, statement.params[k]? = some (toString n)) ∧
        ((∀ column ∈ r.columns, Sql.Balanced column.type) →
          ∃ inner, Sql.source? statement.sql = some inner ∧
            Sql.LimitedBy inner statement.params limit) := by
  intro statement hstatement given
  obtain ⟨l, hcheck, rfl⟩ := exists_of_mem_executed hsegments hon hstatement
  have hexecuted := executed_of_check hsegments hon hcheck
  obtain ⟨hsound, rfl⟩ := check_eq_ok_iff.mp hcheck
  -- In the table of the query each name has the first value that the string gives for it.
  have hgiven : request.query.get? "limit" = given := by
    rw [hquery, Url.readForm_eq, NameTable.get?_ofList_eq_lookup]
  have hlimit : (wanted settings.maxLimit request.query).limit =
      cappedLimit (givenCount request.query "limit") settings.maxLimit := hsound.limit_wanted
  rw [givenCount, hgiven] at hlimit
  refine ⟨(wanted settings.maxLimit request.query).limit, hexecuted, ?_, ?_, ?_, ?_, ?_⟩
  · intro value hvalue
    exact hsound.isCount (by decide) (hgiven.trans hvalue)
  · intro hnone
    rw [hlimit, hnone]
    cases given <;> rfl
  · intro cap hcap
    rw [hlimit, hcap]
    cases given <;> rfl
  · obtain ⟨before, after, hsql⟩ := Sql.Select.exists_compile_counts
      (selection r (wanted settings.maxLimit request.query))
    rw [String.append_assoc] at hsql
    exact ⟨_, before, _, hsql, Sql.Select.getElem?_params_compile (selection r (wanted _ _))⟩
  · -- The types of filtered columns are the only foreign text outside of names.
    intro htypes
    have hfilters : ∀ pair ∈ (selection r (wanted settings.maxLimit request.query)).filters,
        Sql.Balanced pair.1.type := by
      intro pair hpair
      exact htypes pair.1 (mem_columns_of_mem_filters hpair)
    exact ⟨_, Sql.Select.source?_compile hfilters, Sql.Select.limitedBy_innerText hfilters⟩

/-- A relation with a type whose name looks like the end of a statement with a limit. -/
def tagged : Relation where
  name := ⟨"public", "items"⟩
  columns := [{ name := "id", type := "numeric(10,2)", inPrimaryKey := true },
    { name := "tag", type := "\"x) LIMIT 1\"" }]

/-- The first limit counts although its name is escaped and it stands behind other variables, and
the cap on it is the number of rows. -/
theorem executed_limited_tagged :
    let raw := "order=tag.desc&%6Cimit=%205&limit=2&tag=eq.y&offset=7"
    let request := { listItems [] with query := Url.readForm raw }
    ∃ statement inner, executed (single tagged) { maxLimit := some 3 } request () = [statement] ∧
      Sql.source? statement.sql = some inner ∧ Sql.LimitedBy inner statement.params (some 3) := by
  intro raw request
  have hon : OnRelation (single tagged) { maxLimit := some 3 } tagged request () :=
    ⟨"items", rfl, rfl⟩
  have hsegments : request.segments = ["items"] := rfl
  have hquery : request.query = Url.readForm raw := rfl
  have hpairs : Url.readPairs raw = [("order", "tag.desc"), ("limit", " 5"), ("limit", "2"),
      ("tag", "eq.y"), ("offset", "7")] := by
    decide +kernel
  have hgiven : (Url.readPairs raw).lookup "limit" = some " 5" := by
    rw [hpairs]
    decide +kernel
  have hfive : Text.decimalValue (Text.trim " 5") = 5 := by decide +kernel
  -- The filter is on the column whose type, read without its quotes, would end the statement.
  have hcheck : check tagged (some 3) request.query = .ok (wanted (some 3) request.query) := by
    rw [hquery, Url.readForm_eq, hpairs]
    decide +kernel
  have hexecuted := executed_of_check hsegments hon hcheck
  have hmem : (selection tagged (wanted (some 3) request.query)).compile ∈
      executed (single tagged) { maxLimit := some 3 } request () :=
    hexecuted.symm ▸ List.mem_singleton_self _
  obtain ⟨limit, -, -, -, hcapped, -, hinner⟩ := executed_limited hsegments hquery hon _ hmem
  obtain ⟨inner, hsource, hinner⟩ := hinner (by decide)
  obtain rfl : limit = some 3 := by
    rw [hcapped 3 rfl, hgiven, Option.elim_some, hfive]
    rfl
  exact ⟨_, inner, hexecuted, hsource, hinner⟩

end RelationGateway.Publication
