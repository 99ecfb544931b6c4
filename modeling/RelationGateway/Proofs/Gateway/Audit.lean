import RelationGateway.Proofs.Gateway.Response
import RelationGateway.Proofs.Text.Utf8

/-!
# The audit trail

A gateway that is called again and again hands one entry of each call to each place, whether or
not places fail, and the entry tells what the call was and what came of it.

* `Gateway.serveAll`: calls of a gateway, one after another;
* `Served.Truthful`: an entry tells the truth about its call;
* `Gateway.follows_serve_truthful`: one call;
* `Gateway.serveAll_audited`: any number of calls.
-/

namespace RelationGateway

open Observation

/-- The entry, if one is handed to the place. -/
def Event.entryAt? (place : Nat) (event : Event) : Option Audit.Entry :=
  event.handed?.bind fun (other, entry) => if other = place then some entry else none

/-- Serves calls one after another. -/
def Gateway.serveAll {m : Type → Type} [Monad m] (g : Gateway m) (host : Host m)
    (calls : List Call) : m (List String) :=
  calls.mapM (g.serve host)

/-! ## Truthful entries -/

variable {σ : Type} {g : Gateway (StateM σ)} {host : Host (StateM σ)}

/-- A request, once its body is read or not, fails: it cannot be read, no handler accepts it, or
the handler fails. -/
inductive Gateway.Fails (g : Gateway (StateM σ)) (read : Except Failure Request)
    (events : List Event) : Prop
  | unread {failure : Failure} (hread : read = .error failure)
  | unrouted {request : Request} (hread : read = .ok request)
      (hrefused : ∀ handler ∈ g.handlers, ¬ handler.accepts request.path request.method)
  | failed {run : Run} {failure : Failure} (hran : .ran run ∈ events) (hfails : run.Fails failure)

/-- The call fails; one that is refused always does. -/
def Call.Fails (g : Gateway (StateM σ)) (events : List Event) : Call → Prop
  | submit environment input =>
    g.Fails ((Request.identify environment).read input g.settings g.expander) events
  | refuse .. => True

/-- A call that was served. -/
structure Served where
  /-- The call. -/
  call : Call
  /-- The text it was served with. -/
  text : String
  /-- What was seen meanwhile. -/
  events : List Event
  /-- The entry that is kept of it. -/
  entry : Audit.Entry

/-- The entry of a call that was served is handed to each place and tells the truth. -/
structure Served.Truthful (g : Gateway (StateM σ)) (s : Served) : Prop where
  /-- Each place is handed the entry once, in turn, and no other entry. -/
  handed : s.events.filterMap Event.handed? =
    (List.range g.sinks.length).map fun place => (place, s.entry)
  /-- It has the environment. -/
  environment : s.entry.environment = s.call.environment
  /-- It has the body. -/
  input : s.entry.input = s.call.input
  /-- It has what the environment tells of the request. -/
  identity :
    let request := Request.identify s.call.environment
    s.entry.method = request.method.text ∧ s.entry.url = request.url ∧
      s.entry.ip = request.ip ∧ s.entry.referrer = request.referrer ∧
      s.entry.username = request.username ∧ s.entry.agent = request.agent
  /-- It has the text. -/
  output : s.entry.output = s.text
  /-- It has the length of the text. -/
  size : s.entry.size = s.text.utf8ByteSize
  /-- The text is a response with its status. -/
  status : Response.WellFormed s.entry.status s.text
  /-- It has a report exactly if the call failed. -/
  error : s.entry.error.isSome ↔ s.call.Fails g s.events
  /-- What has a report is the error page of its message. -/
  page : ∀ report, s.entry.error = some report →
    s.text = Page.response s.entry.status report.message

/-! ## Verdicts -/

/-- A verdict with a report answers with an error page. -/
def Verdict.Paged (v : Verdict) : Prop :=
  ∀ report, v.error = some report → v.output = Page.response v.status report.message

theorem Verdict.paged_ofFailure (failure : Failure) (context : String) (debug : Option Json) :
    (Verdict.ofFailure failure context debug).Paged := by
  rintro report hreport
  obtain rfl := Option.some.inj hreport
  rfl

theorem Run.paged_verdict (run : Run) (context : String) : (run.verdict context).Paged := by
  unfold Run.verdict
  split
  · nofun
  · exact Verdict.paged_ofFailure _ _ _

/-- What has a report is an error page, however the call is judged. -/
theorem Call.Judgement.paged {call : Call} {verdict : Verdict} {events : List Event}
    (hjudged : call.Judgement g verdict events) : verdict.Paged := by
  cases hjudged with
  | refused context => exact Verdict.paged_ofFailure _ context none
  | unread context => exact Verdict.paged_ofFailure _ context none
  | unrouted context => exact Verdict.paged_ofFailure _ context none
  | ran run context => exact run.paged_verdict context

/-- There is a report exactly if the call fails, also where more is seen than how it is judged, as
long as no other handler runs. -/
theorem Call.Judgement.isSome_error_iff {call : Call} {verdict : Verdict}
    {judging events : List Event} (hjudged : call.Judgement g verdict judging)
    (hran : ∀ run, .ran run ∈ events ↔ .ran run ∈ judging) :
    verdict.error.isSome ↔ call.Fails g events := by
  cases hjudged with
  | refused context => exact iff_of_true rfl trivial
  | unread context hread => exact iff_of_true rfl (.unread hread)
  | unrouted context hread hrefused => exact iff_of_true rfl (.unrouted hread hrefused)
  | @ran environment input request handler run context hread hmem haccepts =>
    rw [Option.isSome_iff_ne_none, Ne, Run.error_verdict_eq_none_iff, not_forall_not]
    -- The request was read and a handler accepts it, so only its run can fail.
    constructor
    · rintro ⟨failure, hfails⟩
      exact .failed ((hran run).mpr (List.mem_singleton.mpr rfl)) hfails
    · intro hfails
      cases hfails with
      | unread hread' => cases hread.symm.trans hread'
      | unrouted hread' hrefused =>
        obtain rfl := Except.ok.inj (hread.symm.trans hread')
        exact absurd haccepts (hrefused handler hmem)
      | @failed run' failure hmem' hfails =>
        obtain rfl : run' = run := Event.ran.inj (List.mem_singleton.mp ((hran run').mp hmem'))
        exact ⟨failure, hfails⟩

namespace Gateway

/-! ## One call -/

/-- The entry of a call, once it is finished with the verdict and handed out, is truthful. -/
theorem truthful_of_judgement {call : Call} {verdict : Verdict} {judging : List Event}
    (hjudged : call.Judgement g verdict judging) (id timestamp : String) (elapsed : Nat) :
    let entry := ((call.arrived id timestamp).judged verdict).finished elapsed verdict.output
    (Served.mk call verdict.output (judging ++ g.handing entry) entry).Truthful g := by
  intro entry
  have hhanded : (judging ++ g.handing entry).filterMap Event.handed? =
      (List.range g.sinks.length).map fun place => (place, entry) := by
    rw [List.filterMap_append, hjudged.filterMap_handed, List.nil_append, filterMap_handing]
  -- No handler runs while entries are handed out.
  have hran (run : Run) : .ran run ∈ judging ++ g.handing entry ↔ .ran run ∈ judging := by
    simp [handing]
  constructor
  · exact hhanded
  · rfl
  · rfl
  · -- The fields are unfolded by name, lest the environment is read.
    dsimp only [entry, Audit.Entry.finished, Audit.Entry.judged, Call.arrived,
      Audit.Entry.identified]
    exact ⟨rfl, rfl, rfl, rfl, rfl, rfl⟩
  · rfl
  · exact Utf8.length_encode verdict.output
  · exact hjudged.wellFormed
  · exact hjudged.isSome_error_iff hran
  · exact hjudged.paged

/-- A call is served as it is without watching, and its entry is truthful. -/
theorem follows_serve_truthful (g : Gateway (StateM σ)) (host : Host (StateM σ)) (call : Call) :
    Follows (g.watched.serve host.watched call) (g.serve host call) fun text events =>
      ∃ entry, (Served.mk call text events entry).Truthful g := by
  refine (follows_serve g host call).mono ?_
  rintro _ _ ⟨verdict, judging, id, timestamp, elapsed, hjudged, rfl, rfl⟩
  exact ⟨_, truthful_of_judgement hjudged id timestamp elapsed⟩

/-! ## Any number of calls -/

/-- Of the events of a call whose entry is truthful, a place is handed the entry once. -/
theorem filterMap_entryAt? {s : Served} (h : s.Truthful g) {place : Nat}
    (hplace : place < g.sinks.length) : s.events.filterMap (Event.entryAt? place) = [s.entry] := by
  have hone : (List.range g.sinks.length).filter (· == place) = [place] := by
    rw [List.filter_beq, List.count_eq_one_of_mem List.nodup_range (List.mem_range.mpr hplace)]
    rfl
  calc s.events.filterMap (Event.entryAt? place)
    _ = (s.events.filterMap Event.handed?).filterMap
          fun (other, entry) => if other = place then some entry else none := by
        rw [List.filterMap_filterMap]
        rfl
    _ = ((List.range g.sinks.length).filter (· == place)).map fun _ => s.entry := by
        rw [h.handed, List.filterMap_map, ← List.filterMap_eq_map, List.filterMap_filter]
        simp only [Function.comp_def, beq_iff_eq]
    _ = [s.entry] := by rw [hone, List.map_singleton]

/-- Whatever calls come, and whatever handlers and places do, the calls are served as they are
without watching. Each place is handed one entry of each call, in the order of the calls, and
each entry is truthful. -/
theorem serveAll_audited (g : Gateway (StateM σ)) (host : Host (StateM σ)) (calls : List Call)
    (state : σ) :
    ∃ served : List Served, served.map (·.call) = calls ∧
      outcome (g.watched.serveAll host.watched calls) [] state =
        ((served.map (·.text), served.flatMap (·.events)),
          ((g.serveAll host calls).run state).2) ∧
      ((g.serveAll host calls).run state).1 = served.map (·.text) ∧
      (∀ s ∈ served, s.Truthful g) ∧
      ∀ place < g.sinks.length,
        (served.flatMap (·.events)).filterMap (Event.entryAt? place) = served.map (·.entry) := by
  -- The calls follow the calls that are not watched, one after another.
  obtain ⟨events, ⟨parts, hcalls, htexts, hevents, hparts⟩, hrun⟩ :=
    follows_mapM (follows_serve_truthful g host) calls [] state
  have hentry (part : Call × String × List Event) : ∃ entry, part ∈ parts →
      (Served.mk part.1 part.2.1 part.2.2 entry).Truthful g := by
    by_cases hpart : part ∈ parts
    · obtain ⟨entry, h⟩ := hparts part hpart
      exact ⟨entry, fun _ => h⟩
    · exact ⟨.begin "" [], fun h => absurd h hpart⟩
  choose entry hentry using hentry
  -- Each call with its text, its events and its entry is a call that was served.
  let served := parts.map fun part => Served.mk part.1 part.2.1 part.2.2 (entry part)
  have htruthful : ∀ s ∈ served, s.Truthful g := List.forall_mem_map.mpr hentry
  refine ⟨served, ?_, ?_, ?_, htruthful, fun place hplace => ?_⟩
  · rw [List.map_map]
    exact hcalls
  · rw [List.flatMap_map, List.map_map]
    rw [← hevents, ← htexts] at hrun
    exact hrun
  · rw [List.map_map]
    exact htexts.symm
  · rw [List.filterMap_flatMap, List.map_eq_flatMap]
    exact List.flatMap_congr fun s hs => filterMap_entryAt? (htruthful s hs) hplace

end Gateway

end RelationGateway
