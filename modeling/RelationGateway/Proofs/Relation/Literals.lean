import RelationGateway.NameTable.View
import RelationGateway.Proofs.Related
import RelationGateway.Proofs.Relation.Execution

/-!
# Literals stay out of the text

Two requests on a relation that differ only in literals execute statements with one text, and the
literals are the parameters.

* `Filter.SameButLiterals`, `Variable.SameButLiterals`, `Request.SameButLiterals`: what it is to
  differ only in literals;
* `Listing.literals`, `Request.literals`: the literals of a request, in order;
* `executed_of_sameButLiterals`: the statements of two such requests.
-/

namespace RelationGateway

/-- Two values of filters differ only in literals: the operand of a comparison, the pattern, or
the items of a list of the same length. -/
inductive Filter.SameButLiterals : String → String → Prop
  | refl (value : String) : SameButLiterals value value
  | compare (negated : Bool) (comparison : Comparison) (x y : String) :
      SameButLiterals (clauseText negated (.compare comparison) x)
        (clauseText negated (.compare comparison) y)
  | pattern (negated : Bool) (matching : Matching) (x y : String) :
      SameButLiterals (clauseText negated (.pattern matching) x)
        (clauseText negated (.pattern matching) y)
  | among (negated : Bool) {x y : String} {xs ys : List String}
      (hx : Operator.among.Denotes x (.among xs)) (hy : Operator.among.Denotes y (.among ys))
      (hlength : xs.length = ys.length) :
      SameButLiterals (clauseText negated .among x) (clauseText negated .among y)

/-- Two query variables differ only in literals. Numbers of rows may be any. -/
inductive Variable.SameButLiterals : String × String → String × String → Prop
  | refl (pair : String × String) : SameButLiterals pair pair
  | filter {name x y : String} (hname : ¬ Directive.isName name)
      (hvalue : Filter.SameButLiterals x y) : SameButLiterals (name, x) (name, y)
  | count {name x y : String} (hname : name = "limit" ∨ name = "offset") :
      SameButLiterals (name, x) (name, y)

/-- Two requests differ only in literals: those of their query variables if both ask for a
listing, and the keys if both look a row up. -/
inductive Request.SameButLiterals (a b : Request) : Prop
  | listing {segment segment' : String} (ha : a.segments = [segment])
      (hb : b.segments = [segment'])
      (hquery : List.Forall₂ Variable.SameButLiterals a.query.toList b.query.toList)
  | lookUp {segment segment' key key' : String} (ha : a.segments = [segment, key])
      (hb : b.segments = [segment', key'])

/-- The literals of a listing: those of its filters family by family, then the numbers of rows. -/
def Listing.literals (l : Listing) : List String :=
  (Family.all.flatMap fun family =>
    (l.filters.filter fun f => f.condition.family == family).flatMap fun f =>
      f.condition.literals) ++
    (l.limit.toList ++ l.offset.toList).map toString

/-- The literals of a request: the key of a look-up, or those of the listing. -/
def Request.literals (settings : Settings) (request : Request) : List String :=
  match request.segments with
  | [_, key] => [Url.decodeSegment key]
  | _ => (Listing.wanted settings.maxLimit request.query).literals

/-! ## Filters -/

/-- Values that differ only in literals are read as filters with one skeleton. -/
theorem Filter.SameButLiterals.map_skeleton {x y : String} (hsame : Filter.SameButLiterals x y)
    (column : String) :
    (Filter.read? column x).map Filter.skeleton = (Filter.read? column y).map Filter.skeleton := by
  -- What a clause denotes is what is read of it, so only conditions are compared below.
  have hread {negated : Bool} {operator : Filter.Operator} {x : String} {condition : Condition}
      (h : operator.Denotes x condition) :
      Filter.read? column (Filter.clauseText negated operator x) =
        some { column, negated, condition } :=
    Filter.read?_eq_some_iff.mpr ⟨rfl, operator, x, rfl, h⟩
  cases hsame with
  | refl => rfl
  | compare negated comparison x y =>
    rw [hread (.compare comparison x), hread (.compare comparison y)]
    rfl
  | pattern negated matching x y =>
    rw [hread (.pattern matching x _ String.toList_ofList),
      hread (.pattern matching y _ String.toList_ofList)]
    rfl
  | @among negated x y xs ys hx hy hlength =>
    -- Without their texts, as many items are the same items.
    have hitems : (xs.map fun _ => "") = ys.map fun _ => "" := by
      rw [List.map_const', List.map_const', hlength]
    rw [hread hx, hread hy]
    simp only [Option.map_some, Filter.skeleton, Condition.skeleton, hitems]

/-! ## Query variables -/

/-- Variables that differ only in literals have the same name. -/
theorem Variable.SameButLiterals.name_eq {v w : String × String}
    (hsame : Variable.SameButLiterals v w) : v.1 = w.1 := by
  cases hsame <;> rfl

/-- Variables that differ only in literals are filters with one skeleton, or are no filters. -/
theorem Variable.SameButLiterals.map_skeleton {v w : String × String}
    (hsame : Variable.SameButLiterals v w) :
    (if Directive.isName v.1 then none else (Listing.readFilter? v).map Filter.skeleton) =
      if Directive.isName w.1 then none else (Listing.readFilter? w).map Filter.skeleton := by
  cases hsame with
  | refl => rfl
  | @filter name x y hname hvalue =>
    rw [if_neg hname, if_neg hname]
    exact hvalue.map_skeleton name
  | count hname =>
    -- Both variables are directives, which are not read as filters.
    have hdirective : ∀ name, name = "limit" ∨ name = "offset" → Directive.isName name := by
      rintro _ (rfl | rfl) <;> decide
    rw [if_pos (hdirective _ hname), if_pos (hdirective _ hname)]

namespace Listing

variable {r : Relation} {maxLimit : Option Nat} {query query' : NameTable .exact} {l l' : Listing}

section Related

variable (hquery : List.Forall₂ Variable.SameButLiterals query.toList query'.toList)
include hquery

/-- Directives other than numbers of rows are the same in both queries. -/
theorem get?_eq_of_sameButLiterals {name : String} (hname : name ∈ ["select", "group", "order"]) :
    query.get? name = query'.get? name := by
  rw [NameTable.get?_eq, NameTable.get?_eq]
  refine map_find?_eq_of_forall₂ hquery (fun v w h => by rw [h.name_eq]) (fun v w h hv => ?_)
  obtain rfl : v.1 = name := by simpa [NameRule.key] using hv
  -- Literals stand in filters and in numbers of rows, and the name is that of neither.
  cases h with
  | refl => rfl
  | filter hfilter =>
    have hreserved := List.contains_iff_mem.mpr (List.mem_append_left ["limit", "offset"] hname)
    exact absurd hreserved hfilter
  | count hcount => rcases hcount with rfl | rfl <;> exact absurd hname (by simp)

/-- The same names have values in both queries. -/
theorem isSome_get?_of_sameButLiterals (name : String) :
    (query.get? name).isSome = (query'.get? name).isSome := by
  let found (v : String × String) : Bool := NameRule.exact.key v.1 == NameRule.exact.key name
  have hfound : ((query.toList.find? found).map fun _ => ()) =
      (query'.toList.find? found).map fun _ => () :=
    map_find?_eq_of_forall₂ hquery (fun v w h => by simp only [found, h.name_eq])
      fun _ _ _ _ => rfl
  rw [NameTable.get?_eq, NameTable.get?_eq, Option.isSome_map, Option.isSome_map]
  simpa only [Option.isSome_map] using congrArg Option.isSome hfound

/-- The filters of both queries have the same skeletons. -/
theorem map_skeleton_filters :
    ((filterVariables query).filterMap readFilter?).map Filter.skeleton =
      ((filterVariables query').filterMap readFilter?).map Filter.skeleton := by
  rw [List.map_filterMap, List.map_filterMap, filterVariables, filterVariables,
    List.filterMap_filter, List.filterMap_filter]
  refine filterMap_eq_of_forall₂ hquery fun v w h => ?_
  -- The two variables have one name, so both are directives or neither is.
  have hskeleton := h.map_skeleton
  cases hv : Directive.isName v.1 <;> cases hw : Directive.isName w.1 <;>
    simp_all

end Related

/-- A directive that gives no malformed number gives a number if it is there. -/
theorem isSome_directiveCount? {name : String} (hcount : malformedCount? query name = none) :
    (directiveCount? query name).isSome = (query.get? name).isSome := by
  unfold malformedCount? at hcount
  unfold directiveCount?
  cases hvalue : query.get? name with
  | none => rfl
  | some value =>
    rw [hvalue, Option.bind_some] at hcount
    split_ifs at hcount with hsome
    simpa using hsome

/-- A cap makes a limit where there is none, and changes no limit into none. -/
theorem isSome_cappedLimit (wanted cap : Option Nat) :
    (cappedLimit wanted cap).isSome = (wanted.isSome || cap.isSome) := by
  cases wanted <;> cases cap <;> rfl

/-- A number that is only known to be there. -/
theorem map_const_eq_of_isSome_eq {n m : Option Nat} (h : n.isSome = m.isSome) :
    (n.map fun _ => 0) = m.map fun _ => 0 := by
  cases n <;> cases m <;> simp_all

/-- The skeleton of a selection depends only on the skeletons of the filters and on which numbers
of rows are there. -/
theorem selection_skeleton_eq (hselect : l.select = l'.select) (hgroups : l.groups = l'.groups)
    (horder : l.order = l'.order)
    (hfilters : l.filters.map Filter.skeleton = l'.filters.map Filter.skeleton)
    (hlimit : l.limit.isSome = l'.limit.isSome) (hoffset : l.offset.isSome = l'.offset.isSome) :
    (selection r l).skeleton = (selection r l').skeleton := by
  -- A filter keeps its column without its literals, so the column may be looked up afterwards.
  have hcolumns (l : Listing) : (selection r l).skeleton.filters =
      (l.filters.map Filter.skeleton).filterMap fun f =>
        (r.column? f.column).map fun column => (column, f) := by
    simp only [selection, Sql.Select.skeleton, List.map_filterMap, List.filterMap_map]
    congr 1
    funext f
    rw [Option.map_map]
    rfl
  have hboth : (selection r l).skeleton.filters = (selection r l').skeleton.filters := by
    rw [hcolumns, hcolumns, hfilters]
  simp only [selection, Sql.Select.skeleton, hselect, hgroups, horder,
    map_const_eq_of_isSome_eq hlimit, map_const_eq_of_isSome_eq hoffset] at hboth ⊢
  rw [hboth]

/-- The literals of a selection are those of its listing. -/
theorem Known.literals_selection (hknown : Known r l) : (selection r l).literals = l.literals := by
  -- No filter is left out of the selection, because its column is known.
  have hfilters : (selection r l).filters.map (·.2) = l.filters := by
    have hcolumn : ∀ f ∈ l.filters, ((r.column? f.column).map fun column => (column, f)).map (·.2) =
        some f := by
      intro f hf
      obtain ⟨column, hcolumn, -⟩ := knownColumn_eq_ok (hknown.filters f hf)
      rw [hcolumn]
      rfl
    rw [selection, List.map_filterMap, List.filterMap_congr hcolumn, List.filterMap_some]
  rw [literals, ← hfilters]
  simp only [Sql.Select.literals, Sql.Select.filtersByFamily, List.flatMap_assoc, List.filter_map,
    List.flatMap_map]
  rfl

/-- The numbers of rows that are there do not depend on the literals. -/
theorem isSome_directiveCount?_of_sameButLiterals
    (hquery : List.Forall₂ Variable.SameButLiterals query.toList query'.toList)
    (hsound : Sound r query) (hsound' : Sound r query') {name : String}
    (hname : name ∈ ["limit", "offset"]) :
    (directiveCount? query name).isSome = (directiveCount? query' name).isSome := by
  rw [isSome_directiveCount? (hsound.counts name hname),
    isSome_directiveCount? (hsound'.counts name hname), isSome_get?_of_sameButLiterals hquery]

/-- Listings that differ only in literals have one text. -/
theorem sql_compile_selection_eq
    (hquery : List.Forall₂ Variable.SameButLiterals query.toList query'.toList)
    (hsound : Sound r query) (hsound' : Sound r query') (maxLimit : Option Nat) :
    (selection r (wanted maxLimit query)).compile.sql =
      (selection r (wanted maxLimit query')).compile.sql := by
  have hitems {name : String} (hname : name ∈ ["select", "group", "order"]) :
      directiveItems query name = directiveItems query' name := by
    rw [directiveItems, directiveItems, get?_eq_of_sameButLiterals hquery hname]
  have hgroup : groupings query = groupings query' := by
    rw [groupings, groupings, hitems (by decide)]
  have horder : directiveItems query "order" = directiveItems query' "order" := hitems (by decide)
  have hcount {name : String} (hname : name ∈ ["limit", "offset"]) :=
    isSome_directiveCount?_of_sameButLiterals hquery hsound hsound' hname
  have hlimit : (directiveCount? query "limit").isSome = (directiveCount? query' "limit").isSome :=
    hcount (by decide)
  -- The capped limit may differ as a number, but it is there for both or for neither.
  refine Sql.Select.sql_eq_of_skeleton_eq (selection_skeleton_eq ?_ hgroup ?_ ?_ ?_ ?_)
  · exact hitems (by decide)
  · exact congrArg (List.filterMap SortTerm.read?) horder
  · exact map_skeleton_filters hquery
  · simp only [wanted, isSome_cappedLimit, hlimit]
  · exact hcount (by decide)

end Listing

namespace Publication

variable {σ : Type} {db : Database (StateM σ)} {settings : Settings} {r : Relation}
  {a b request : Request} {state : σ}

/-- A listing that executes anything passed all checks. It executes the one statement of its
selection, with its literals as parameters. -/
theorem executed_listing_of_ne_nil {segment : String} (hsegments : request.segments = [segment])
    (hon : OnRelation db settings r request state)
    (hexecuted : executed db settings request state ≠ []) :
    Listing.Sound r request.query ∧ executed db settings request state =
      [{ sql :=
          (Listing.selection r (Listing.wanted settings.maxLimit request.query)).compile.sql
         params := request.literals settings }] := by
  rw [executed_listing hsegments hon] at hexecuted ⊢
  -- An objection would have kept the listing from executing anything.
  cases hcheck : Listing.check r settings.maxLimit request.query with
  | error objection => rw [hcheck] at hexecuted; exact absurd rfl hexecuted
  | ok l =>
    obtain ⟨hsound, rfl⟩ := Listing.check_eq_ok_iff.mp hcheck
    refine ⟨hsound, ?_⟩
    have hliterals : request.literals settings =
        (Listing.wanted settings.maxLimit request.query).literals := by
      rw [Request.literals, hsegments]
    rw [hliterals, ← hsound.known_wanted.literals_selection, ← Sql.Select.params_compile]

/-- A look-up that executes anything executes the one statement for the key column, with the key
as parameter. -/
theorem executed_lookUp_of_ne_nil {segment key : String}
    (hsegments : request.segments = [segment, key])
    (hon : OnRelation db settings r request state)
    (hexecuted : executed db settings request state ≠ []) :
    ∃ column, r.keyColumn = .ok column ∧ executed db settings request state =
      [{ sql := (Sql.lookup r column (Url.decodeSegment key)).sql
         params := request.literals settings }] := by
  rw [executed_lookUp hsegments hon] at hexecuted ⊢
  cases hcolumn : r.keyColumn with
  | error failure => rw [hcolumn] at hexecuted; exact absurd rfl hexecuted
  | ok column =>
    have hliterals : request.literals settings =
        (Sql.lookup r column (Url.decodeSegment key)).params := by
      rw [Request.literals, hsegments, Sql.params_lookup]
    refine ⟨column, rfl, ?_⟩
    rw [hliterals]

/-- Two requests on a relation that differ only in literals and both execute anything execute one
statement each. The texts of the two are equal, and the literals are the parameters. -/
theorem executed_of_sameButLiterals {state' : σ} (hsame : Request.SameButLiterals a b)
    (hon : OnRelation db settings r a state) (hon' : OnRelation db settings r b state')
    (hexecuted : executed db settings a state ≠ [])
    (hexecuted' : executed db settings b state' ≠ []) :
    ∃ sql, executed db settings a state = [{ sql, params := a.literals settings }] ∧
      executed db settings b state' = [{ sql, params := b.literals settings }] := by
  cases hsame with
  | listing ha hb hquery =>
    obtain ⟨hsound, heq⟩ := executed_listing_of_ne_nil ha hon hexecuted
    obtain ⟨hsound', heq'⟩ := executed_listing_of_ne_nil hb hon' hexecuted'
    refine ⟨_, heq, ?_⟩
    rw [heq', Listing.sql_compile_selection_eq hquery hsound hsound']
  | lookUp ha hb =>
    obtain ⟨column, hcolumn, heq⟩ := executed_lookUp_of_ne_nil ha hon hexecuted
    obtain ⟨column', hcolumn', heq'⟩ := executed_lookUp_of_ne_nil hb hon' hexecuted'
    -- The key column is that of the relation, so the look-ups differ only in their keys.
    obtain rfl : column = column' := Except.ok.inj (hcolumn.symm.trans hcolumn')
    refine ⟨_, heq, ?_⟩
    rw [heq', Sql.sql_lookup_eq]

/-- A database with one relation, which has no rows. -/
def single (r : Relation) : Database (StateM Unit) where
  relations := pure (.ok [r.name])
  describe _ := pure (.ok (some r))
  fetch _ := pure (.ok none)

/-- A relation of tagged items. -/
def items : Relation where
  name := ⟨"public", "items"⟩
  columns := [{ name := "id", type := "integer", inPrimaryKey := true },
    { name := "tag", type := "text" }]

/-- A request for the items that some query variables ask for. -/
def listItems (pairs : List (String × String)) : Request :=
  { Request.ofUrl .get "/items" with query := .ofList pairs }

/-- Quotes, placeholders and parentheses in an operand and in items stay out of the text. -/
theorem executed_of_sameButLiterals_quotes :
    ∃ sql,
      executed (single items) {}
        (listItems [("id", "eq.1"), ("tag", "not.in.(a,b)"), ("limit", "5")]) () =
          [{ sql, params := ["1", "a", "b", "5"] }] ∧
      executed (single items) {}
        (listItems [("id", "eq.$2'; --"), ("tag", "not.in.(),('$1)"), ("limit", " 07")]) () =
          [{ sql, params := ["$2'; --", ")", "('$1", "7"] }] := by
  have hid : Variable.SameButLiterals ("id", "eq.1") ("id", "eq.$2'; --") :=
    .filter (by decide) (.compare false .eq "1" "$2'; --")
  have hx : Filter.Operator.among.Denotes "(a,b)" (.among ["a", "b"]) :=
    Filter.condition?_word_eq_some_iff.mp (by decide)
  have hy : Filter.Operator.among.Denotes "(),('$1)" (.among [")", "('$1"]) :=
    Filter.condition?_word_eq_some_iff.mp (by decide)
  have htag : Variable.SameButLiterals ("tag", "not.in.(a,b)") ("tag", "not.in.(),('$1)") :=
    .filter (by decide) (.among true hx hy rfl)
  have hlimit : Variable.SameButLiterals ("limit", "5") ("limit", " 07") := .count (.inl rfl)
  have hsame : Request.SameButLiterals
      (listItems [("id", "eq.1"), ("tag", "not.in.(a,b)"), ("limit", "5")])
      (listItems [("id", "eq.$2'; --"), ("tag", "not.in.(),('$1)"), ("limit", " 07")]) :=
    .listing rfl rfl (.cons hid (.cons htag (.cons hlimit .nil)))
  have hon (pairs : List (String × String)) :
      OnRelation (single items) {} items (listItems pairs) () := ⟨"items", rfl, rfl⟩
  exact executed_of_sameButLiterals hsame (hon _) (hon _) (by decide) (by decide)

end Publication

end RelationGateway
