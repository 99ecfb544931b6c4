import RelationGateway.Proofs.Relation.Validation
import RelationGateway.Proofs.Sql.Placeholders

/-!
# Numbers of rows

The numbers of rows of a listing are read as numbers of 64 bits without a sign, and cast to the type
`bigint`, which has one bit for the sign.

* `Sql.countText`, `Sql.Select.exists_compile_counts`: how the numbers are written in a statement;
* `Listing.givenCount`, `Listing.CountsFit`: the numbers that are given, and whether they fit;
* `Publication.executed_counts`: which numbers reach the database.
-/

namespace RelationGateway

/-! ## Clauses with numbers of rows -/

namespace Sql

open Template

/-- The text of a clause with a number of rows whose placeholder has number `k`, or nothing. -/
def countText (word : String) (k : Nat) : Option Nat → String
  | some _ => word ++ "CAST($" ++ toString k ++ "::text AS bigint)"
  | none => ""

namespace Select

/-- A clause with a number of rows is written as its text. -/
theorem write_countClause (word : String) (k : Nat) (count : Option Nat) :
    (countClause word count).write k = countText word k count := by
  cases count with
  | none => rfl
  | some n =>
    have hdollar (s : String) : "CAST(" ++ ("$" ++ s) = "CAST($" ++ s := by
      rw [← String.append_assoc]
      rfl
    simp [countClause, rowCount, write, countText, String.append_assoc, hdollar]

/-- The clauses with numbers of rows stand in the template of a selection behind the literals of its
filters. -/
theorem exists_template_counts (s : Select) :
    ∃ t u, s.template =
        t ++ (countClause " LIMIT " s.limit ++ (countClause " OFFSET " s.offset ++ u)) ∧
      t.arguments = operands s.filtersByFamily := by
  obtain ⟨t, hrows⟩ : ∃ t, s.rows =
      t ++ (countClause " LIMIT " s.limit ++ countClause " OFFSET " s.offset) :=
    ⟨_, List.append_assoc ..⟩
  -- The literals of the rows are those of the filters and then the numbers of rows.
  have harguments : t.arguments = operands s.filtersByFamily := by
    have hall := arguments_rows s
    rw [hrows, arguments_append, arguments_append, arguments_countClause, arguments_countClause,
      ← List.map_append] at hall
    exact List.append_cancel_right hall
  refine ⟨frameFront s.order.isEmpty ++ t, s.frameBack, ?_, ?_⟩
  · rw [template_eq_frame, hrows]
    simp only [List.append_assoc]
  · rw [arguments_append, arguments_frameFront, harguments, List.nil_append]

/-- The numbers of rows are written with the numbers behind that of the last literal of a filter. -/
theorem exists_compile_counts (s : Select) :
    let values := operands s.filtersByFamily
    ∃ before after, s.compile.sql =
      before ++ countText " LIMIT " (values.length + 1) s.limit ++
        countText " OFFSET " (values.length + 1 + s.limit.toList.length) s.offset ++ after := by
  intro values
  obtain ⟨t, u, heq, harguments⟩ := exists_template_counts s
  have hsql : s.compile.sql = s.template.write 1 := rfl
  refine ⟨t.write 1,
    u.write (values.length + 1 + s.limit.toList.length + s.offset.toList.length), ?_⟩
  rw [hsql, heq, write_append, write_append, write_append, write_countClause, write_countClause,
    harguments, arguments_countClause, arguments_countClause, List.length_map, List.length_map,
    Nat.add_comm 1, String.append_assoc, String.append_assoc]

end Select

end Sql

/-! ## Numbers that are given -/

/-- The number of rows that is read of a value is that of the numeral in it. -/
theorem Directive.count?_eq_some_iff {value : String} {n : Nat} :
    Directive.count? value = some n ↔
      Directive.IsCount value ∧ n = Text.decimalValue (Text.trim value) := by
  rw [Directive.count?]
  exact Text.unsigned?_eq_some_iff

namespace Listing

variable {r : Relation} {maxLimit : Option Nat} {query : NameTable .exact}

/-- The number that the directive of the given name gives, whether or not it is a number of rows. -/
def givenCount (query : NameTable .exact) (name : String) : Option Nat :=
  (query.get? name).map fun value => Text.decimalValue (Text.trim value)

/-- Where the checks are passed, a number of rows is one. -/
theorem Sound.isCount (hsound : Sound r query) {name value : String}
    (hname : name ∈ ["limit", "offset"]) (hvalue : query.get? name = some value) :
    Directive.IsCount value := by
  have hcount := hsound.counts name hname
  rw [malformedCount?, hvalue, Option.bind_some] at hcount
  -- A value of which no number is read would be reported.
  by_contra hnone
  rw [if_neg (mt Directive.isSome_count?_iff.mp hnone)] at hcount
  cases hcount

/-- Where the checks are passed, the number that is given is the one that is read. -/
theorem Sound.directiveCount?_eq (hsound : Sound r query) {name : String}
    (hname : name ∈ ["limit", "offset"]) : directiveCount? query name = givenCount query name := by
  rw [directiveCount?, givenCount]
  cases hvalue : query.get? name with
  | none => rfl
  | some value =>
    have hread := Directive.count?_eq_some_iff.mpr ⟨hsound.isCount hname hvalue, rfl⟩
    rw [Option.bind_some, Option.map_some, hread]

/-- The numbers of rows that are given fit the type that they are cast to. -/
structure CountsFit (maxLimit : Option Nat) (query : NameTable .exact) : Prop where
  /-- The limit fits, or there is a cap on it that does. -/
  limit : ∀ n ∈ givenCount query "limit", n < 2 ^ 63 ∨ ∃ cap ∈ maxLimit, cap < 2 ^ 63
  /-- Without a limit the cap is one. -/
  cap : givenCount query "limit" = none → ∀ cap ∈ maxLimit, cap < 2 ^ 63
  /-- The offset fits. -/
  offset : ∀ n ∈ givenCount query "offset", n < 2 ^ 63

/-- A limit under a cap is below a bound where it or the cap is. -/
theorem cappedLimit_lt_iff {bound : Nat} {given cap : Option Nat} :
    (∀ n ∈ cappedLimit given cap, n < bound) ↔
      (∀ n ∈ given, n < bound ∨ ∃ m ∈ cap, m < bound) ∧ (given = none → ∀ m ∈ cap, m < bound) := by
  cases given <;> cases cap <;> simp [cappedLimit]

theorem Sound.limit_wanted (hsound : Sound r query) :
    (wanted maxLimit query).limit = cappedLimit (givenCount query "limit") maxLimit := by
  rw [← hsound.directiveCount?_eq (by decide)]
  rfl

theorem Sound.offset_wanted (hsound : Sound r query) :
    (wanted maxLimit query).offset = givenCount query "offset" :=
  hsound.directiveCount?_eq (by decide)

/-- The numbers that a listing asks for fit exactly where those that are given do. -/
theorem Sound.counts_lt_iff (hsound : Sound r query) :
    (∀ n ∈ (wanted maxLimit query).limit.toList ++ (wanted maxLimit query).offset.toList,
        n < 2 ^ 63) ↔ CountsFit maxLimit query := by
  rw [hsound.limit_wanted, hsound.offset_wanted]
  simp only [List.mem_append, Option.mem_toList, or_imp, forall_and, ← Option.mem_def,
    cappedLimit_lt_iff]
  exact ⟨fun ⟨⟨h₁, h₂⟩, h₃⟩ => ⟨h₁, h₂, h₃⟩, fun h => ⟨⟨h.limit, h.cap⟩, h.offset⟩⟩

/-- A directive that gives no number of rows is among those that are reported. -/
theorem mem_miscounted {name value : String} (hname : name ∈ ["limit", "offset"])
    (hvalue : query.get? name = some value) (hcount : ¬ Directive.IsCount value) :
    name ++ "=" ++ value ∈ miscounted query := by
  refine List.mem_flatMap.mpr ⟨name, hname, List.mem_map.mpr ⟨value, ?_, rfl⟩⟩
  rw [hvalue]
  simp [hcount]

end Listing

/-! ## Numbers that reach the database -/

namespace Publication

open Listing

variable {σ : Type} {db : Database (StateM σ)} {settings : Settings} {r : Relation}
  {request : Request} {state : σ}

/-- What is no number of rows does not reach the database. Without faults of other kinds, it is
reported. Where the checks are passed, one statement is executed, and the numbers of rows are its
last parameters: the limit that is given or its cap, and the offset that is given. They are below
`2 ^ 63`, like the type that they are cast to, exactly where those that are given fit. -/
theorem executed_counts {segment : String} (hsegments : request.segments = [segment])
    (hon : OnRelation db settings r request state) :
    (∀ name ∈ ["limit", "offset"], ∀ value, request.query.get? name = some value →
        ¬ Directive.IsCount value →
        executed db settings request state = [] ∧
          (unknownNames r request.query = [] → misordered request.query = [] →
            misfiltered request.query = [] →
            name ++ "=" ++ value ∈ miscounted request.query ∧
              Refused db settings request state (.object [("error", .text "malformed pagination"),
                ("pagination", .texts (miscounted request.query))]))) ∧
      ∀ l, check r settings.maxLimit request.query = .ok l →
        let values := Sql.Select.operands (selection r l).filtersByFamily
        let counts := l.limit.toList ++ l.offset.toList
        ∃ statement before after, executed db settings request state = [statement] ∧
          statement.sql = before ++ Sql.countText " LIMIT " (values.length + 1) l.limit ++
            Sql.countText " OFFSET " (values.length + 1 + l.limit.toList.length) l.offset ++
            after ∧
          statement.params = values ++ counts.map toString ∧
          l.limit = cappedLimit (givenCount request.query "limit") settings.maxLimit ∧
          l.offset = givenCount request.query "offset" ∧
          ((∀ n ∈ counts, n < 2 ^ 63) ↔ CountsFit settings.maxLimit request.query) := by
  have hexecuted := executed_listing hsegments hon
  refine ⟨fun name hname value hvalue hcount => ?_, fun l hcheck => ?_⟩
  · have hmem := mem_miscounted hname hvalue hcount
    have hfault : miscounted request.query ≠ [] := List.ne_nil_of_mem hmem
    have hcheck := check_eq r settings.maxLimit request.query
    refine ⟨?_, fun h₁ h₂ h₃ => ⟨hmem, ?_⟩⟩
    · -- Whichever fault is the first one, there is one.
      rw [if_pos hfault] at hcheck
      rw [hexecuted]
      split
      next l hok =>
        rw [hcheck] at hok
        split_ifs at hok
      next => rfl
    · rw [if_neg (not_not.mpr h₁), if_neg (not_not.mpr h₂), if_neg (not_not.mpr h₃),
        if_pos hfault] at hcheck
      exact refused_of_check hsegments hon hcheck
  · intro values counts
    -- What passes the checks is what is wanted, and it compiles to the one statement.
    rw [hcheck] at hexecuted
    obtain ⟨hsound, rfl⟩ := check_eq_ok_iff.mp hcheck
    obtain ⟨before, after, hsql⟩ := Sql.Select.exists_compile_counts
      (selection r (wanted settings.maxLimit request.query))
    refine ⟨_, before, after, hexecuted, hsql, ?_, hsound.limit_wanted, hsound.offset_wanted,
      hsound.counts_lt_iff⟩
    rw [Sql.Select.params_compile]
    rfl

/-- The greatest number that fits, between blanks, and one with zeros in front are executed as the
numbers that they stand for. The first number beyond 64 bits is reported and not executed. -/
theorem executed_counts_greatest :
    let fitting := listItems [("limit", " 9223372036854775807 "), ("offset", "007")]
    let beyond := listItems [("limit", "18446744073709551616")]
    OnRelation (single items) {} items fitting () ∧ OnRelation (single items) {} items beyond () ∧
      (∃ statement, executed (single items) {} fitting () = [statement] ∧
        statement.params = ["9223372036854775807", "7"]) ∧
      ¬ Directive.IsCount "18446744073709551616" ∧ executed (single items) {} beyond () = [] := by
  intro fitting beyond
  have hfitting : OnRelation (single items) {} items fitting () := ⟨"items", rfl, rfl⟩
  have hbeyond : OnRelation (single items) {} items beyond () := ⟨"items", rfl, rfl⟩
  have hcheck : check items none fitting.query = .ok (wanted none fitting.query) := by
    decide +kernel
  let l := wanted none fitting.query
  have hvalues : Sql.Select.operands (selection items l).filtersByFamily ++
      (l.limit.toList ++ l.offset.toList).map toString = ["9223372036854775807", "7"] := by
    decide +kernel
  have hcount : ¬ Directive.IsCount "18446744073709551616" := by decide +kernel
  obtain ⟨statement, -, -, hexecuted, -, hparams, -⟩ :=
    (executed_counts rfl hfitting).2 _ hcheck
  have hnone := ((executed_counts rfl hbeyond).1 "limit" (by decide) _ rfl hcount).1
  exact ⟨hfitting, hbeyond, ⟨statement, hexecuted, hparams.trans hvalues⟩, hcount, hnone⟩

/-- The first number that does not fit is a number of rows for the checks, and is executed. -/
theorem executed_count_beyond :
    let request := listItems [("limit", "9223372036854775808")]
    check items none request.query = .ok (wanted none request.query) ∧
      executed (single items) {} request () =
        [{ sql := "SELECT coalesce(json_agg(row_to_json(q)), '[]'::json) FROM (SELECT * FROM " ++
              "\"public\".\"items\" LIMIT CAST($1::text AS bigint)) AS q"
           params := ["9223372036854775808"] }] ∧
      ¬ 9223372036854775808 < 2 ^ 63 := by
  refine ⟨by decide +kernel, by decide +kernel, by decide⟩

end Publication

end RelationGateway
