import RelationGateway.Proofs.Accumulation
import RelationGateway.Proofs.NameTable
import RelationGateway.Reply.Draft

/-!
# Drafts step by step

A handler writes a draft in steps, one after another. What a draft holds is read off the steps.

* `Step`, `ofSteps`: the steps and the draft that they write;
* `debug_ofSteps`: the last value that was kept for debugging is the one that the draft holds;
* `fragments_ofSteps`: the body holds the fragments of the steps in their order;
* `toList_headers_ofSteps`: each header stands where it was given first, with the value that was set
  last, or else the one that was offered first.
-/

namespace RelationGateway.Draft

/-- One step of writing a draft. -/
inductive Step where
  /-- A fragment is added to the body. -/
  | append (fragment : String)
  /-- A JSON value is added to the body. -/
  | appendJson (value : Json)
  /-- A header is set, whatever it was before. -/
  | setHeader (name value : String)
  /-- A header is set unless it is set already. -/
  | defaultHeader (name value : String)
  /-- A value is kept for debugging. -/
  | setDebug (value : Json)

namespace Step

/-- The draft after the step. -/
def apply (d : Draft) : Step → Draft
  | .append fragment => d.append fragment
  | .appendJson value => d.appendJson value
  | .setHeader name value => d.setHeader name value
  | .defaultHeader name value => d.defaultHeader name value
  | .setDebug value => d.setDebug value

/-- The value that the step keeps for debugging, if it does. -/
def debug? : Step → Option Json
  | .setDebug value => some value
  | _ => none

/-- A step keeps a value for debugging if it is such a step, and else the one kept before stays. -/
theorem debug_apply (d : Draft) (step : Step) :
    (step.apply d).debug = step.debug?.or d.debug := by
  cases step <;> rfl

/-- The fragment that the step adds to the body, if it adds one. -/
def fragment? : Step → Option String
  | .append fragment => some fragment
  | .appendJson value => some value.write
  | _ => none

/-- The header that the step gives, whether or not it is one that is set already. -/
def given? : Step → Option (String × String)
  | .setHeader name value => some (name, value)
  | .defaultHeader name value => some (name, value)
  | _ => none

/-- The value to which the step sets the header of a name, whatever it was before. -/
def set? (name : String) : Step → Option String
  | .setHeader other value => if Text.sameIgnoringCase other name then some value else none
  | _ => none

/-- The value to which the step sets the header of a name unless it is set already. -/
def offer? (name : String) : Step → Option String
  | .defaultHeader other value => if Text.sameIgnoringCase other name then some value else none
  | _ => none

/-- A step adds its fragment behind those that are there. -/
theorem fragments_apply (d : Draft) (step : Step) :
    (step.apply d).fragments = d.fragments ++ step.fragment?.toList := by
  cases step with
  | append fragment => rfl
  | appendJson value => rfl
  | _ => exact (List.append_nil _).symm

/-- A header that the step sets has its value, and one that it offers has it unless it is there. -/
theorem get?_headers_apply (d : Draft) (step : Step) (name : String) :
    (step.apply d).headers.get? name =
      (step.set? name).or ((d.headers.get? name).or (step.offer? name)) := by
  have hsame (other : String) : NameRule.ignoringCase.key other = NameRule.ignoringCase.key name ↔
      Text.sameIgnoringCase other name := beq_iff_eq.symm
  cases step with
  | setHeader other value =>
    change (d.headers.insert other value).get? name = _
    simp only [NameTable.get?_insert, set?, offer?, hsame, Option.or_none]
    split <;> rfl
  | defaultHeader other value =>
    change (d.headers.insertIfAbsent other value).get? name = _
    simp only [NameTable.get?_insertIfAbsent, set?, offer?, hsame, Option.none_or]
  | _ => exact (Option.or_none ..).symm

/-- A step adds the name of the header that it gives, unless it is there. -/
theorem map_fst_headers_apply (d : Draft) (step : Step) :
    (step.apply d).headers.toList.map (·.1) =
      (step.given?.elim d.headers fun header =>
        d.headers.insertIfAbsent header.1 header.2).toList.map (·.1) := by
  cases step with
  | setHeader name value => exact NameTable.map_fst_insert
  | _ => rfl

end Step

/-- The draft that some steps write. -/
def ofSteps (steps : List Step) : Draft := steps.foldl Step.apply {}

/-- The value that is kept for debugging is that of the last step which kept one. -/
theorem debug_ofSteps (steps : List Step) :
    (ofSteps steps).debug = (steps.filterMap Step.debug?).getLast? := by
  have hset := Accumulation.foldl_set Draft.debug Step.debug? Step.debug_apply steps {}
  rwa [Option.or_none] at hset

/-- The fragments of a draft are those of its steps, in their order. -/
theorem fragments_ofSteps (steps : List Step) :
    (ofSteps steps).fragments = steps.filterMap Step.fragment? :=
  Accumulation.foldl_collect Draft.fragments Step.fragment? Step.fragments_apply steps {}

/-- The value that some steps give the header of a name: the last one that was set, or, if it was
never set, the first one that was offered. -/
def valueOf (steps : List Step) (name : String) : Option String :=
  (steps.filterMap (Step.set? name)).getLast?.or (steps.filterMap (Step.offer? name)).head?

/-- The headers that some steps give, in the order in which they were given first and with the
names that they had there. -/
def headersOf (steps : List Step) : List (String × String) :=
  (NameTable.firsts .ignoringCase (steps.filterMap Step.given?)).filterMap fun (name, _) =>
    (valueOf steps name).map (name, ·)

/-- A header has the value that the steps give it. -/
theorem get?_headers_ofSteps (steps : List Step) (name : String) :
    (ofSteps steps).headers.get? name = valueOf steps name :=
  Accumulation.foldl_set_or (fun d : Draft => d.headers.get? name) (Step.set? name)
    (Step.offer? name) (fun d step => Step.get?_headers_apply d step name) steps {}

/-- Steps add the names of the headers that they give. Their values do not matter for that, so the
table of what is given may hold other values than the draft. -/
theorem map_fst_headers_foldl (steps : List Step) {d : Draft} {t : NameTable .ignoringCase}
    (h : d.headers.toList.map (·.1) = t.toList.map (·.1)) :
    (steps.foldl Step.apply d).headers.toList.map (·.1) =
      ((steps.filterMap Step.given?).foldl
        (fun t header => t.insertIfAbsent header.1 header.2) t).toList.map (·.1) := by
  induction steps generalizing d t with
  | nil => exact h
  | cons step rest ih =>
    have hnext := Step.map_fst_headers_apply d step
    rw [List.foldl_cons, List.filterMap_cons]
    cases hgiven : step.given? with
    | none =>
      rw [hgiven] at hnext
      exact ih (hnext.trans h)
    | some header =>
      rw [hgiven] at hnext
      exact ih (hnext.trans (NameTable.map_fst_insertIfAbsent h))

/-- The names of the headers are those that the steps give, each where it was given first. -/
theorem map_fst_headers_ofSteps (steps : List Step) :
    (ofSteps steps).headers.toList.map (·.1) =
      (NameTable.firsts .ignoringCase (steps.filterMap Step.given?)).map (·.1) := by
  rw [← NameTable.toList_ofList]
  exact map_fst_headers_foldl steps rfl

/-- The headers of a draft are those that its steps give. -/
theorem toList_headers_ofSteps (steps : List Step) :
    (ofSteps steps).headers.toList = headersOf steps := by
  rw [NameTable.toList_eq_filterMap, map_fst_headers_ofSteps, List.filterMap_map]
  simp only [get?_headers_ofSteps, headersOf]
  rfl

end RelationGateway.Draft
