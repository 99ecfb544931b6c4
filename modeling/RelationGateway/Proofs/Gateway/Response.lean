import RelationGateway.Proofs.Gateway.Failure
import RelationGateway.Proofs.Gateway.Watching

/-!
# Responses of the gateway

Whatever handlers, places for audit entries and the world around do, a gateway answers every
request with a well-formed response, and keeps in every place one entry with the status and the
text of that response.

* `Verdict.WellFormed`: a verdict answers with a well-formed response;
* `answer_wellFormed`: every answer is a well-formed response whose status is kept.
-/

namespace RelationGateway

/-! ## Verdicts -/

/-- A verdict answers with a well-formed response that has its status. -/
def Verdict.WellFormed (v : Verdict) : Prop := Response.WellFormed v.status v.output

/-- The verdict on a failed request is well formed. -/
theorem Verdict.wellFormed_ofFailure (failure : Failure) (context : String)
    (debug : Option Json) : (Verdict.ofFailure failure context debug).WellFormed :=
  Response.wellFormed_page failure.status failure.message

/-- The verdict on a run is well formed, however the run ended and whatever it wrote. -/
theorem Run.wellFormed_verdict (run : Run) (context : String) :
    (run.verdict context).WellFormed := by
  unfold Run.verdict
  cases hresult : run.result with
  | error failure => exact Verdict.wellFormed_ofFailure failure context run.draft.debug
  | ok result =>
    obtain ⟨-, hfinish⟩ := Run.result_eq_ok_iff.mp hresult
    exact Response.wellFormed_of_finish hfinish

/-- However a call is judged, the verdict is well formed. -/
theorem Call.Judgement.wellFormed {σ : Type} {g : Gateway (StateM σ)} {call : Call}
    {verdict : Verdict} {events : List Event} (hjudged : call.Judgement g verdict events) :
    verdict.WellFormed := by
  cases hjudged with
  | refused context => exact Verdict.wellFormed_ofFailure _ context none
  | unread context => exact Verdict.wellFormed_ofFailure _ context none
  | unrouted context => exact Verdict.wellFormed_ofFailure _ context none
  | ran run context => exact run.wellFormed_verdict context

/-! ## Answers -/

namespace Gateway

open Observation

variable {σ : Type}

/-- A call is served with the text of one entry, which is a well-formed response with its status.
That entry is handed to each place once, in turn, and no other entry is handed to any. -/
theorem serve_wellFormed (g : Gateway (StateM σ)) (host : Host (StateM σ)) (call : Call)
    (state : σ) :
    ∃ (entry : Audit.Entry) (events : List Event),
      Response.WellFormed entry.status entry.output ∧
        ((g.serve host call).run state).1 = entry.output ∧
        (outcome (g.watched.serve host.watched call) [] state).1 = (entry.output, events) ∧
        events.filterMap Event.handed? =
          (List.range g.sinks.length).map fun place => (place, entry) := by
  obtain ⟨events, ⟨verdict, judging, id, timestamp, elapsed, hjudged, htext, hevents⟩, hrun⟩ :=
    follows_serve g host call [] state
  let entry := ((call.arrived id timestamp).judged verdict).finished elapsed verdict.output
  refine ⟨entry, events, hjudged.wellFormed, htext, ?_, ?_⟩
  · rw [hrun, htext]
    rfl
  · -- Judging hands nothing to a place.
    rw [hevents, List.filterMap_append, hjudged.filterMap_handed, List.nil_append,
      filterMap_handing]

/-- Every answer is a well-formed response. It is also the text of the one entry that is handed to
each place, and its status is that of the entry. -/
theorem answer_wellFormed (g : Gateway (StateM σ)) (host : Host (StateM σ))
    (environment : String) (input : List UInt8) (state : σ) :
    (∃ (entry : Audit.Entry) (events : List Event),
      Response.WellFormed entry.status entry.output ∧
        ((g.answer host environment input).run state).1 = entry.output ∧
        (outcome (g.watched.answer host.watched environment input) [] state).1 =
          (entry.output, events) ∧
        events.filterMap Event.handed? =
          (List.range g.sinks.length).map fun place => (place, entry)) ∧
    ∀ failure, ∃ (entry : Audit.Entry) (events : List Event),
      Response.WellFormed entry.status entry.output ∧
        ((g.refuse host environment input failure).run state).1 = entry.output ∧
        (outcome (g.watched.refuse host.watched environment input failure) [] state).1 =
          (entry.output, events) ∧
        events.filterMap Event.handed? =
          (List.range g.sinks.length).map fun place => (place, entry) :=
  ⟨serve_wellFormed g host (.submit environment input) state,
    fun failure => serve_wellFormed g host (.refuse environment input failure) state⟩

end Gateway

end RelationGateway
