import Mathlib.Data.List.Basic

/-!
# Observed runs

A run in a world with a state is observed by marking some of its steps. The marks are kept in
order beside the state of the world, and neither the steps nor the world can see them.

* `mark`, `note`: steps that leave a mark before and after they are done;
* `outcome`: what a run returns, the marks and the state after it;
* `outcome_bind`, `outcome_lift`, `outcome_mark`: the outcome of a run by its steps;
* `Follows`: a run does what another does that leaves no marks, and its marks satisfy a condition,
  with a rule for each way to put runs together.
-/

namespace RelationGateway.Observation

/-- A step that first leaves a mark. -/
def mark {ω α : Type} {m : Type → Type} [Monad m] (item : ω) (step : m α) :
    StateT (List ω) m α := do
  modify (· ++ [item])
  StateT.lift step

/-- A step that leaves its result as a mark. -/
def note {ω α : Type} {m : Type → Type} [Monad m] (item : α → ω) (step : m α) :
    StateT (List ω) m α := do
  let a ← StateT.lift step
  modify (· ++ [item a])
  return a

variable {ω σ α β ι : Type}

/-- What a run returns, the marks and the state after it, given those before it. -/
def outcome (run : StateT (List ω) (StateM σ) α) (marks : List ω) (state : σ) :
    (α × List ω) × σ :=
  (run.run marks).run state

/-- A run after another takes up its marks and its state. -/
theorem outcome_bind (first : StateT (List ω) (StateM σ) α)
    (next : α → StateT (List ω) (StateM σ) β) (marks : List ω) (state : σ) :
    outcome (first >>= next) marks state =
      outcome (next (outcome first marks state).1.1) (outcome first marks state).1.2
        (outcome first marks state).2 := rfl

/-- A step of the world leaves no mark. -/
theorem outcome_lift (step : StateM σ α) (marks : List ω) (state : σ) :
    outcome (StateT.lift step) marks state =
      (((step.run state).1, marks), (step.run state).2) := rfl

/-- A marked step leaves its mark, whatever the world does. -/
theorem outcome_mark (item : ω) (step : StateM σ α) (marks : List ω) (state : σ) :
    outcome (mark item step) marks state =
      (((step.run state).1, marks ++ [item]), (step.run state).2) := rfl

/-! ## Runs that follow others -/

/-- From any marks and any state, the run returns what the bare run returns and leaves the state
that it leaves. The marks that it adds satisfy a condition on them and the result. -/
def Follows (run : StateT (List ω) (StateM σ) α) (bare : StateM σ α)
    (post : α → List ω → Prop) : Prop :=
  ∀ marks state, ∃ added, post (bare.run state).1 added ∧
    outcome run marks state = (((bare.run state).1, marks ++ added), (bare.run state).2)

section Rules

variable {post : α → List ω → Prop} {run : StateT (List ω) (StateM σ) α} {bare step : StateM σ α}

theorem follows_pure {a : α} (h : post a []) : Follows (pure a) (pure a : StateM σ α) post :=
  fun marks _ => ⟨[], h, by rw [List.append_nil]; rfl⟩

theorem follows_lift (h : ∀ a, post a []) : Follows (StateT.lift step) step post :=
  fun marks _ => ⟨[], h _, by rw [List.append_nil]; rfl⟩

theorem follows_mark {item : ω} (h : ∀ a, post a [item]) : Follows (mark item step) step post :=
  fun _ _ => ⟨[item], h _, rfl⟩

theorem follows_note {item : α → ω} (h : ∀ a, post a [item a]) :
    Follows (note item step) step post :=
  fun _ _ => ⟨[item _], h _, rfl⟩

theorem Follows.mono {post' : α → List ω → Prop} (h : Follows run bare post)
    (himp : ∀ a added, post a added → post' a added) : Follows run bare post' := by
  intro marks state
  obtain ⟨added, hpost, hrun⟩ := h marks state
  exact ⟨added, himp _ _ hpost, hrun⟩

/-- The marks of a run after another come behind the marks of that. -/
theorem Follows.bind {next : α → StateT (List ω) (StateM σ) β} {bareNext : α → StateM σ β}
    {post' : β → List ω → Prop} (hfirst : Follows run bare post)
    (hnext : ∀ a added, post a added →
      Follows (next a) (bareNext a) fun b more => post' b (added ++ more)) :
    Follows (run >>= next) (bare >>= bareNext) post' := by
  intro marks state
  obtain ⟨added, hpost, hrun⟩ := hfirst marks state
  -- The second run takes up the marks and the state that the first one leaves.
  obtain ⟨more, hpost', hmore⟩ := hnext _ added hpost (marks ++ added) (bare.run state).2
  refine ⟨added ++ more, hpost', ?_⟩
  rw [outcome_bind, hrun, hmore, List.append_assoc]
  rfl

/-- A step of the world before a run adds no marks. -/
theorem Follows.lift_bind {next : α → StateT (List ω) (StateM σ) β} {bareNext : α → StateM σ β}
    {post' : β → List ω → Prop} (hnext : ∀ a, Follows (next a) (bareNext a) post') :
    Follows (StateT.lift step >>= next) (step >>= bareNext) post' := by
  have hstep : Follows (StateT.lift step) step fun _ (added : List ω) => added = [] :=
    follows_lift fun _ => rfl
  refine hstep.bind fun a added hadded => ?_
  rw [hadded]
  exact hnext a

/-- One result and one list of marks belong to each item of a loop, in their order. -/
theorem follows_mapM {body : ι → StateT (List ω) (StateM σ) α} {bareBody : ι → StateM σ α}
    {post : ι → α → List ω → Prop} (hbody : ∀ i, Follows (body i) (bareBody i) (post i))
    (items : List ι) :
    Follows (items.mapM body) (items.mapM bareBody) fun results added =>
      ∃ parts : List (ι × α × List ω), parts.map (·.1) = items ∧
        parts.map (·.2.1) = results ∧ parts.flatMap (·.2.2) = added ∧
        ∀ part ∈ parts, post part.1 part.2.1 part.2.2 := by
  induction items with
  | nil => exact follows_pure ⟨[], rfl, rfl, rfl, by simp⟩
  | cons item rest ih =>
    rw [List.mapM_cons, List.mapM_cons]
    -- The first item comes first in the results and in the marks, and the others follow it.
    refine (hbody item).bind fun a added hpost => ih.bind fun results more hparts => ?_
    obtain ⟨parts, hitems, hresults, hadded, hall⟩ := hparts
    refine follows_pure ⟨(item, a, added) :: parts, ?_, ?_, ?_, ?_⟩
    · rw [List.map_cons, hitems]
    · rw [List.map_cons, hresults]
    · rw [List.flatMap_cons, hadded, List.append_nil]
    · exact List.forall_mem_cons.mpr ⟨hpost, hall⟩

/-- A loop whose rounds leave one mark each leaves the marks of its items in their order. -/
theorem follows_forM {body : ι → StateT (List ω) (StateM σ) PUnit} {bareBody : ι → StateM σ PUnit}
    {item : ι → ω}
    (hbody : ∀ i, Follows (body i) (bareBody i) fun _ added => added = [item i])
    (items : List ι) :
    Follows (items.forM body) (items.forM bareBody) fun _ added => added = items.map item := by
  induction items with
  | nil => exact follows_pure rfl
  | cons i rest ih =>
    rw [List.forM_eq_forM, List.forM_cons, List.forM_eq_forM, List.forM_cons]
    refine (hbody i).bind fun _ added hadded => ?_
    exact ih.mono fun _ more hmore => by rw [hadded, hmore, List.singleton_append, List.map_cons]

end Rules

end RelationGateway.Observation
