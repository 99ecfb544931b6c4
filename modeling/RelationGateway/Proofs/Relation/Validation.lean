import RelationGateway.Proofs.Accumulation
import RelationGateway.Proofs.Relation.Literals
import RelationGateway.Proofs.Text.Numeral

/-!
# What a listing is refused for

Query variables can have four kinds of faults. This file says what has each of them, without the
readers, and shows that a listing is refused for the first kind there is, with all that has it.

* `unknownNames`, `misordered`, `misfiltered`, `miscounted`: what has each kind of fault;
* `check_eq`: the checks of a listing are these four, in this order;
* `answered_listing_first_fault`: how a request for a listing is answered.
-/

namespace RelationGateway

/-- The value follows the grammar of filters. -/
def Filter.IsClause (value : String) : Prop :=
  ∃ negated operator operand, value = clauseText negated operator operand ∧ operator.Takes operand

/-- The item of an ordering is a name without dots, alone or with a direction behind a dot. -/
def SortTerm.IsItem (item : String) : Prop :=
  ∃ column, column ≠ "" ∧ '.' ∉ column.toList ∧
    (item = column ∨ item = column ++ ".asc" ∨ item = column ++ ".desc")

/-- The item of a grouping is a place. -/
abbrev Grouping.IsPlace (item : String) : Prop := Text.IsNumeral Text.maxUnsigned32 item

/-- The value is a number of rows, with or without blanks around it. -/
abbrev Directive.IsCount (value : String) : Prop :=
  Text.IsNumeral Text.maxUnsigned64 (Text.trim value)

/-! ## Readers -/

/-- A filter is read of exactly the clauses. -/
theorem Filter.isSome_readFilter?_iff (pair : String × String) :
    (Listing.readFilter? pair).isSome ↔ Filter.IsClause pair.2 :=
  Filter.isSome_read?_iff

instance (value : String) : Decidable (Filter.IsClause value) :=
  decidable_of_iff _ (Filter.isSome_readFilter?_iff ("", value))

/-- An item holds no dot and is not cut, or it is cut at its first dot. -/
theorem SortTerm.cut?_dot_cases (item : String) :
    ('.' ∉ item.toList ∧ Text.cut? "." item = none) ∨
      ∃ before after, '.' ∉ before.toList ∧ item = before ++ "." ++ after ∧
        Text.cut? "." item = some (before, after) := by
  cases hcut : Text.cut? "." item with
  | none =>
    refine .inl ⟨fun hdot => ?_, rfl⟩
    rw [Text.cut?_eq_none_iff, Delimited.cut?_eq_none_iff] at hcut
    rcases hcut with hempty | hinfix
    · exact absurd hempty (by decide)
    · obtain ⟨front, back, hitem⟩ := List.append_of_mem hdot
      exact hinfix ⟨front, back, by simp [hitem]⟩
  | some cut =>
    exact .inr ⟨cut.1, cut.2, Text.not_mem_of_cut? rfl hcut, Text.eq_append_of_cut? hcut, rfl⟩

/-- The column that an item of an ordering names is what stands before its first dot. -/
theorem SortTerm.columnName_eq (item : String) :
    SortTerm.columnName item = String.ofList (item.toList.takeWhile (· ≠ '.')) := by
  have hkept {s : String} (hdot : '.' ∉ s.toList) (rest : List Char) :
      (s.toList ++ rest).takeWhile (· ≠ '.') = s.toList ++ rest.takeWhile (· ≠ '.') :=
    List.takeWhile_append_of_pos fun c hc => decide_eq_true fun h : c = '.' => hdot (h ▸ hc)
  unfold SortTerm.columnName
  rcases SortTerm.cut?_dot_cases item with ⟨hdot, hcut⟩ | ⟨before, after, hdot, rfl, hcut⟩
  · have hall := hkept hdot []
    rw [List.append_nil, List.takeWhile_nil, List.append_nil] at hall
    rw [hcut, hall, String.ofList_toList]
  · have hdrop : (".".toList ++ after.toList).takeWhile (· ≠ '.') = [] := rfl
    rw [hcut, String.toList_append, String.toList_append, List.append_assoc, hkept hdot, hdrop,
      List.append_nil, String.ofList_toList]

/-- A term is read of exactly the well-formed items. -/
theorem SortTerm.isSome_read?_iff {item : String} :
    (SortTerm.read? item).isSome ↔ SortTerm.IsItem item := by
  have hdirection (word : String) :
      (SortTerm.direction? word).isSome ↔ word = "asc" ∨ word = "desc" := by
    unfold SortTerm.direction?
    split <;> simp_all
  unfold SortTerm.read?
  rcases SortTerm.cut?_dot_cases item with ⟨hdot, hcut⟩ | ⟨before, after, hdot, heq, hcut⟩
  · -- Without a dot there is no direction, and the item is the column.
    have hbare : SortTerm.IsItem item ↔ item ≠ "" := by
      constructor
      · rintro ⟨column, hne, -, rfl | rfl | rfl⟩
        · exact hne
        · exact absurd (by simp) hdot
        · exact absurd (by simp) hdot
      · exact fun hne => ⟨item, hne, hdot, .inl rfl⟩
    rw [hcut, hbare]
    simp
  · -- With a dot the column and the direction are what stands around the first one.
    have hdotted : SortTerm.IsItem item ↔ before ≠ "" ∧ (after = "asc" ∨ after = "desc") := by
      have hsplit {column word : String} (hcolumn : '.' ∉ column.toList)
          (h : item = column ++ ("." ++ word)) : before = column ∧ after = word := by
        rw [← String.append_assoc] at h
        have hcut' : Text.cut? "." item = some (column, word) :=
          h ▸ Text.cut?_of_not_mem rfl hcolumn word
        exact Prod.mk.inj (Option.some.inj (hcut.symm.trans hcut'))
      constructor
      · rintro ⟨column, hne, hcolumn, rfl | h | h⟩
        · exact absurd (by simp [heq]) hcolumn
        · obtain ⟨rfl, hword⟩ : before = column ∧ after = "asc" := hsplit hcolumn h
          exact ⟨hne, .inl hword⟩
        · obtain ⟨rfl, hword⟩ : before = column ∧ after = "desc" := hsplit hcolumn h
          exact ⟨hne, .inr hword⟩
      · rw [String.append_assoc] at heq
        rintro ⟨hne, rfl | rfl⟩
        · exact ⟨before, hne, hdot, .inr (.inl heq)⟩
        · exact ⟨before, hne, hdot, .inr (.inr heq)⟩
    rw [hcut, hdotted, ← hdirection after]
    cases hafter : SortTerm.direction? after <;> simp [hafter]

instance (item : String) : Decidable (SortTerm.IsItem item) :=
  decidable_of_iff _ SortTerm.isSome_read?_iff

/-- An item of a grouping is a column exactly when it is no place. -/
theorem Grouping.groupedColumn?_read (item : String) :
    Listing.groupedColumn? (Grouping.read item) =
      if Grouping.IsPlace item then none else some item := by
  unfold Grouping.read
  split
  next n h => rw [if_pos (Text.unsigned?_eq_some_iff.mp h).1]; rfl
  next h =>
    rw [if_neg fun hplace => ?_]
    · rfl
    · rw [Text.unsigned?_eq_some_iff.mpr ⟨hplace, rfl⟩] at h
      exact absurd h (Option.some_ne_none _)

/-- A number is read of exactly the numbers of rows. -/
theorem Directive.isSome_count?_iff {value : String} :
    (Directive.count? value).isSome ↔ Directive.IsCount value := by
  rw [Option.isSome_iff_exists, Directive.count?]
  simp only [Text.unsigned?_eq_some_iff]
  exact ⟨fun ⟨_, h, _⟩ => h, fun h => ⟨_, h, rfl⟩⟩

/-! ## Faults -/

namespace Listing

/-- The names that query variables mention: those of variables that are no directives, the
selected ones, those to group by, and those to order by. -/
def mentions (query : NameTable .exact) : List String :=
  (query.toList.map (·.1)).filter (· ∉ Directive.names) ++ directiveItems query "select" ++
    (directiveItems query "group").filter (¬ Grouping.IsPlace ·) ++
    (directiveItems query "order").map fun item => String.ofList (item.toList.takeWhile (· ≠ '.'))

/-- The mentioned names that no column has, each where it is mentioned first. -/
def unknownNames (r : Relation) (query : NameTable .exact) : List String :=
  (mentions query).eraseDups.filter fun name => ∀ column ∈ r.columns, column.name ≠ name

/-- The items of the ordering that are not well formed. -/
def misordered (query : NameTable .exact) : List String :=
  (directiveItems query "order").filter (¬ SortTerm.IsItem ·)

/-- The variables that are no directives and whose values are no clauses, as name and value. -/
def misfiltered (query : NameTable .exact) : List String :=
  (query.toList.filter fun (name, value) => name ∉ Directive.names ∧ ¬ Filter.IsClause value).map
    fun (name, value) => name ++ "=" ++ value

/-- Those of the directives `limit` and `offset` that are there and are no numbers of rows, as
name and value. -/
def miscounted (query : NameTable .exact) : List String :=
  ["limit", "offset"].flatMap fun name =>
    ((query.get? name).toList.filter (¬ Directive.IsCount ·)).map fun value => name ++ "=" ++ value

variable {r : Relation} {maxLimit : Option Nat} {query : NameTable .exact}

/-- Leaving out later copies of an item keeps its first one. -/
theorem distinct_eq_eraseDups (items : List String) : distinct items = items.eraseDups := by
  induction items using List.reverseRecOn with
  | nil => rfl
  | append_singleton front last ih =>
    have hlast : distinct (front ++ [last]) =
        if (distinct front).contains last then distinct front else distinct front ++ [last] := by
      rw [distinct, List.foldl_append]
      rfl
    -- The last item is new exactly when it does not stand before.
    have hmem : last ∈ distinct front ↔ last ∈ front := mem_distinct
    simp only [hlast, Accumulation.eraseDups_concat, ← ih, List.contains_iff_mem, hmem]

/-- The names that the checks look at are the mentioned ones. -/
theorem mentioned_eq (query : NameTable .exact) : mentioned query = (mentions query).eraseDups := by
  have hfilters : (filterVariables query).map (·.1) =
      (query.toList.map (·.1)).filter (· ∉ Directive.names) := by
    rw [filterVariables, List.filter_map]
    congr 1
    apply List.filter_congr
    simp [Directive.isName]
  have hgroups : (groupings query).filterMap groupedColumn? =
      (directiveItems query "group").filter (¬ Grouping.IsPlace ·) := by
    rw [groupings, List.filterMap_map, ← List.filterMap_eq_filter]
    congr 1
    funext item
    rw [Function.comp_apply, Grouping.groupedColumn?_read]
    by_cases h : Grouping.IsPlace item <;> simp [h, Option.guard]
  have horder : (directiveItems query "order").map SortTerm.columnName =
      (directiveItems query "order").map fun item =>
        String.ofList (item.toList.takeWhile (· ≠ '.')) :=
    List.map_congr_left fun item _ => SortTerm.columnName_eq item
  rw [mentioned, distinct_eq_eraseDups, hfilters, hgroups, horder, mentions]

/-- The checks of a listing look for the four kinds of faults one after the other. -/
theorem check_eq (r : Relation) (maxLimit : Option Nat) (query : NameTable .exact) :
    check r maxLimit query =
      if unknownNames r query ≠ [] then .error (.unknownColumns (unknownNames r query))
      else if misordered query ≠ [] then .error (.malformedOrder (misordered query))
      else if misfiltered query ≠ [] then .error (.malformedFilters (misfiltered query))
      else if miscounted query ≠ [] then .error (.malformedCounts (miscounted query))
      else .ok (wanted maxLimit query) := by
  -- A reader that decides a predicate returns nothing exactly where the predicate fails.
  have hnone {α : Type} {o : Option α} {p : Prop} [Decidable p] (h : o.isSome ↔ p) :
      o.isNone = decide (¬ p) := by
    by_cases hp : p <;> cases o <;> simp_all
  have hunknown : (mentioned query).filter (fun name => !r.hasColumn name) =
      unknownNames r query := by
    rw [mentioned_eq, unknownNames]
    refine List.filter_congr fun name _ => ?_
    have hcolumn : (r.column? name).isSome ↔ ¬ ∀ column ∈ r.columns, column.name ≠ name := by
      simp [Relation.column?]
    rw [Relation.hasColumn, Option.not_isSome, hnone hcolumn]
    simp only [not_not]
  have horder : (directiveItems query "order").filter (fun item => (SortTerm.read? item).isNone) =
      misordered query :=
    List.filter_congr fun _ _ => hnone SortTerm.isSome_read?_iff
  have hfilters : ((filterVariables query).filter fun pair => (readFilter? pair).isNone).map
      written = misfiltered query := by
    rw [filterVariables, List.filter_filter, misfiltered]
    congr 1
    refine List.filter_congr fun pair _ => ?_
    rw [hnone (Filter.isSome_readFilter?_iff pair), Bool.and_comm]
    simp [Directive.isName]
  have hcounts : ["limit", "offset"].filterMap (malformedCount? query) = miscounted query := by
    rw [List.filterMap_eq_flatMap_toList, miscounted]
    congr 1
    funext name
    unfold malformedCount?
    cases query.get? name with
    | none => rfl
    | some value =>
      by_cases hcount : Directive.IsCount value
      · simp [hcount, Directive.isSome_count?_iff]
      · simp [hcount, Directive.isSome_count?_iff, written]
  have hfault (items : List String) : (!items.isEmpty) = true ↔ items ≠ [] := by simp
  have hfault' (pairs : List (String × String)) :
      (!pairs.isEmpty) = true ↔ pairs.map written ≠ [] := by simp
  simp only [check, hunknown, horder, hcounts, hfault, hfault', hfilters]
  rfl

end Listing

/-! ## Refusals -/

namespace Publication

open Listing

variable {σ : Type} {db : Database (StateM σ)} {settings : Settings} {r : Relation}
  {request : Request} {state : σ}

/-- The request is refused as the client's fault with a JSON value, and nothing is executed for
it. -/
structure Refused (db : Database (StateM σ)) (settings : Settings) (request : Request) (state : σ)
    (body : Json) : Prop where
  /-- The answer is the value with the status of a bad request. -/
  answer : Answers (answered db settings request state) 400 body
  /-- Nothing is kept for debugging. -/
  debug : (answered db settings request state).draft.debug = none
  /-- The database executes no statement. -/
  executed : executed db settings request state = []

/-- A listing that meets an objection is refused with it. -/
theorem refused_of_check {segment : String} (hsegments : request.segments = [segment])
    (hon : OnRelation db settings r request state) {objection : Objection}
    (hcheck : check r settings.maxLimit request.query = .error objection) :
    Refused db settings request state objection.json := by
  obtain ⟨_, hanswered⟩ := exists_answered_listing hsegments hon
  have hexecuted := executed_listing hsegments hon
  rw [hcheck] at hanswered hexecuted
  exact ⟨hanswered.1, hanswered.2, hexecuted⟩

/-- A request for a listing is refused for the first kind of faults that its query variables
have, with all that has it: unknown columns, malformed items of the ordering, malformed filters,
malformed numbers of rows. Without any faults it executes the one statement that it asks for, and
is answered with what the database replies. -/
theorem answered_listing_first_fault {segment : String} (hsegments : request.segments = [segment])
    (hon : OnRelation db settings r request state) :
    (unknownNames r request.query ≠ [] → Refused db settings request state
      (.object [("error", .text "unknown columns"),
        ("columns", .texts (unknownNames r request.query))])) ∧
    (unknownNames r request.query = [] → misordered request.query ≠ [] →
      Refused db settings request state (.object [("error", .text "malformed order_sql"),
        ("order", .texts (misordered request.query))])) ∧
    (unknownNames r request.query = [] → misordered request.query = [] →
      misfiltered request.query ≠ [] →
      Refused db settings request state (.object [("error", .text "malformed clauses"),
        ("clauses", .texts (misfiltered request.query))])) ∧
    (unknownNames r request.query = [] → misordered request.query = [] →
      misfiltered request.query = [] → miscounted request.query ≠ [] →
      Refused db settings request state (.object [("error", .text "malformed pagination"),
        ("pagination", .texts (miscounted request.query))])) ∧
    (unknownNames r request.query = [] → misordered request.query = [] →
      misfiltered request.query = [] → miscounted request.query = [] →
      ∃ statement state', statement =
          (selection r (wanted settings.maxLimit request.query)).compile ∧
        executed db settings request state = [statement] ∧
        Relays (answered db settings request state) statement
          ((db.fetch statement).run state').1) := by
  have hcheck := check_eq r settings.maxLimit request.query
  refine ⟨fun h₁ => ?_, fun h₁ h₂ => ?_, fun h₁ h₂ h₃ => ?_, fun h₁ h₂ h₃ h₄ => ?_,
    fun h₁ h₂ h₃ h₄ => ?_⟩
  · rw [if_pos h₁] at hcheck
    exact refused_of_check hsegments hon hcheck
  · rw [if_neg (not_not.mpr h₁), if_pos h₂] at hcheck
    exact refused_of_check hsegments hon hcheck
  · rw [if_neg (not_not.mpr h₁), if_neg (not_not.mpr h₂), if_pos h₃] at hcheck
    exact refused_of_check hsegments hon hcheck
  · rw [if_neg (not_not.mpr h₁), if_neg (not_not.mpr h₂), if_neg (not_not.mpr h₃),
      if_pos h₄] at hcheck
    exact refused_of_check hsegments hon hcheck
  · rw [if_neg (not_not.mpr h₁), if_neg (not_not.mpr h₂), if_neg (not_not.mpr h₃),
      if_neg (not_not.mpr h₄)] at hcheck
    obtain ⟨state', hanswered⟩ := exists_answered_listing hsegments hon
    have hexecuted := executed_listing hsegments hon
    rw [hcheck] at hanswered hexecuted
    exact ⟨_, state', rfl, hexecuted, hanswered⟩

/-- Query variables with faults of all four kinds. -/
def faulty : Request :=
  listItems [("zip", "bogus"), ("select", " nope, id ,,zip"), ("group", "7,4294967296"),
    ("order", "tag.up,none.asc.desc"), ("limit", "-1")]

/-- Of all faults the unknown columns are reported. Each is named once, a number beyond 32 bits is
no place, and an item of the ordering names what stands before its first dot. -/
theorem answered_listing_first_fault_unknown :
    unknownNames items faulty.query = ["zip", "nope", "4294967296", "none"] ∧
      Refused (single items) {} faulty () (.object [("error", .text "unknown columns"),
        ("columns", .texts ["zip", "nope", "4294967296", "none"])]) ∧
      (answered (single items) {} faulty ()).draft.body = "\x7b\"error\":\"unknown columns\"," ++
        "\"columns\":[\"zip\",\"nope\",\"4294967296\",\"none\"]\x7d" := by
  have hunknown : unknownNames items faulty.query = ["zip", "nope", "4294967296", "none"] := by
    decide
  have hon : OnRelation (single items) {} items faulty () := ⟨"items", rfl, rfl⟩
  obtain ⟨hrefused, -⟩ := answered_listing_first_fault rfl hon
  rw [hunknown] at hrefused
  have hfirst := hrefused (List.cons_ne_nil _ _)
  exact ⟨hunknown, hfirst, hfirst.answer.body.trans (by decide +kernel)⟩

end Publication

end RelationGateway
