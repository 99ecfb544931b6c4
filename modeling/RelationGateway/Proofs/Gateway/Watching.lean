import RelationGateway.Gateway.Basic
import RelationGateway.Proofs.Observation

/-!
# Watched gateways

A gateway is watched at work: each run of a handler leaves an event, and so does each entry that is
handed to a place. Neither handlers nor places nor the host can see the events, so what they do is
the same.

* `Call`, `Gateway.serve`: a call of a gateway;
* `Event`, `Gateway.watched`: what is seen of a gateway at work;
* `Call.Judgement`: how a call can be judged;
* `Gateway.follows_serve`: a call is judged, and then the entry of its verdict is handed to each
  place.
-/

namespace RelationGateway

open Observation

/-! ## Calls -/

/-- A call of a gateway. -/
inductive Call where
  /-- A request is to be answered. -/
  | submit (environment : String) (input : List UInt8)
  /-- A request cannot be run, because of a failure. -/
  | refuse (environment : String) (input : List UInt8) (failure : Failure)

namespace Call

/-- The block of the environment that comes with the call. -/
def environment : Call → String
  | submit environment _ | refuse environment _ _ => environment

/-- The body that comes with the call. -/
def input : Call → List UInt8
  | submit _ input | refuse _ input _ => input

/-- The entry of the call when it arrives. -/
def arrived (call : Call) (id timestamp : String) : Audit.Entry :=
  { (Audit.Entry.begin call.environment call.input).identified
      (Request.identify call.environment) with id, timestamp }

end Call

section Watched

variable {m : Type → Type} [Monad m]

/-- Serves a call with a text. -/
def Gateway.serve (g : Gateway m) (host : Host m) : Call → m String
  | .submit environment input => g.answer host environment input
  | .refuse environment input failure => g.refuse host environment input failure

/-! ## What is seen -/

/-- What is seen of a gateway at work. -/
inductive Event where
  /-- A handler has run. -/
  | ran (run : Run)
  /-- A place is asked to keep an entry. -/
  | handed (place : Nat) (entry : Audit.Entry)

/-- The place and the entry, if an entry is handed to a place. -/
def Event.handed? : Event → Option (Nat × Audit.Entry)
  | ran _ => none
  | handed place entry => some (place, entry)

/-- The handler whose runs are seen. -/
def Handler.watched (h : Handler m) : Handler (StateT (List Event) m) where
  pattern := h.pattern
  accepts := h.accepts
  run request := note .ran (h.run request)

/-- The place whose entries are seen. -/
def Audit.Sink.watched (sink : Audit.Sink m) (place : Nat) :
    Audit.Sink (StateT (List Event) m) where
  keep entry := mark (.handed place entry) (sink.keep entry)

/-- The host beside a gateway that is watched. -/
def Host.watched (host : Host m) : Host (StateT (List Event) m) where
  newId := StateT.lift host.newId
  timestamp := StateT.lift host.timestamp
  clock := StateT.lift host.clock
  stamp := StateT.lift host.stamp
  appendLog path text := StateT.lift (host.appendLog path text)

/-- The gateway of which handlers and places are watched. -/
def Gateway.watched (g : Gateway m) : Gateway (StateT (List Event) m) where
  handlers := g.handlers.map Handler.watched
  sinks := g.sinks.zipIdx.map fun (sink, place) => sink.watched place
  settings := g.settings
  expander := g.expander

end Watched

variable {σ : Type} {g : Gateway (StateM σ)} {host : Host (StateM σ)}

/-- The events of handing an entry to each place in turn. -/
def Gateway.handing (g : Gateway (StateM σ)) (entry : Audit.Entry) : List Event :=
  (List.range g.sinks.length).map fun place => .handed place entry

theorem Gateway.filterMap_handing (entry : Audit.Entry) :
    (g.handing entry).filterMap Event.handed? =
      (List.range g.sinks.length).map fun place => (place, entry) := by
  have hhanded : (Event.handed? ∘ fun place => .handed place entry) =
      some ∘ fun place : Nat => (place, entry) := rfl
  rw [handing, List.filterMap_map, hhanded, List.filterMap_eq_map]

/-! ## Judging -/

/-- How a call can be judged, and what is seen of that. -/
inductive Call.Judgement (g : Gateway (StateM σ)) : Call → Verdict → List Event → Prop
  /-- The call is refused. -/
  | refused {environment : String} {input : List UInt8} {failure : Failure} (context : String) :
      Judgement g (.refuse environment input failure) (.ofFailure failure context) []
  /-- The body of the request cannot be read. -/
  | unread {environment : String} {input : List UInt8} {failure : Failure} (context : String)
      (hread : (Request.identify environment).read input g.settings g.expander =
        .error failure) :
      Judgement g (.submit environment input) (.ofFailure failure context) []
  /-- No handler accepts the request. -/
  | unrouted {environment : String} {input : List UInt8} {request : Request} (context : String)
      (hread : (Request.identify environment).read input g.settings g.expander = .ok request)
      (hrefused : ∀ handler ∈ g.handlers, ¬ handler.accepts request.path request.method) :
      Judgement g (.submit environment input) (.ofFailure (Gateway.noRoute request) context) []
  /-- A handler that accepts the request has run. -/
  | ran {environment : String} {input : List UInt8} {request : Request}
      {handler : Handler (StateM σ)} (run : Run) (context : String)
      (hread : (Request.identify environment).read input g.settings g.expander = .ok request)
      (hmem : handler ∈ g.handlers) (haccepts : handler.accepts request.path request.method) :
      Judgement g (.submit environment input) (run.verdict context) [.ran run]

/-- Judging hands nothing to a place. -/
theorem Call.Judgement.filterMap_handed {call : Call} {verdict : Verdict} {events : List Event}
    (hjudged : call.Judgement g verdict events) : events.filterMap Event.handed? = [] := by
  cases hjudged <;> rfl

namespace Gateway

theorem handler?_watched (path : String) (method : Http.Method) :
    g.watched.handler? path method = (g.handler? path method).map Handler.watched :=
  List.find?_map

/-- Watching a gateway does not change how it judges a request. -/
theorem follows_judge (environment : String) (input : List UInt8) :
    let identity := Request.identify environment
    let read := identity.read input g.settings g.expander
    Follows (g.watched.judge identity read) (g.judge identity read)
      fun verdict events => (Call.submit environment input).Judgement g verdict events := by
  intro identity read
  cases hread : read with
  | error failure => exact follows_pure (.unread _ hread)
  | ok request =>
    simp only [judge, handler?_watched]
    cases hfound : g.handler? request.path request.method with
    | none => exact follows_pure (.unrouted _ hread (List.find?_eq_none.mp hfound))
    | some handler =>
      have hmem : handler ∈ g.handlers := List.mem_of_find?_eq_some hfound
      have haccepts : handler.accepts request.path request.method := by
        simpa using List.find?_some hfound
      -- The handler runs once, and the verdict is on that run.
      have hrun : Follows (handler.watched.run request) (handler.run request)
          fun run events => events = [.ran run] := follows_note fun _ => rfl
      refine hrun.bind fun run events hevents => follows_pure ?_
      rw [hevents]
      exact .ran run request.line hread hmem haccepts

/-! ## Concluding -/

/-- The places are asked in turn to keep the entry, whether or not others fail. -/
theorem follows_forM_keep (entry : Audit.Entry) :
    Follows (g.watched.sinks.forM fun sink => do let _ ← sink.keep entry)
      (g.sinks.forM fun sink => do let _ ← sink.keep entry) fun _ events =>
        events = g.handing entry := by
  have hkeep (pair : Audit.Sink (StateM σ) × Nat) :
      Follows (do let _ ← (pair.1.watched pair.2).keep entry) (do let _ ← pair.1.keep entry)
        fun _ events => events = [.handed pair.2 entry] := by
    have hmark : Follows ((pair.1.watched pair.2).keep entry) (pair.1.keep entry)
        fun _ events => events = [.handed pair.2 entry] := follows_mark fun _ => rfl
    exact hmark.bind fun _ events hevents => follows_pure (by rw [hevents, List.append_nil])
  have hfollows := follows_forM hkeep g.sinks.zipIdx
  -- The loop over the places with their numbers is the loop over the places.
  have hsinks : g.sinks.zipIdx.map Prod.fst = g.sinks := List.zipIdx_map_fst 0 g.sinks
  have hplaces : g.sinks.zipIdx.map Prod.snd = List.range g.sinks.length := by
    rw [List.zipIdx_map_snd, List.range_eq_range']
  rw [handing, ← hplaces, List.map_map, watched, List.forM_eq_forM, List.forM_map]
  nth_rewrite 2 [← hsinks]
  rw [List.forM_eq_forM, List.forM_map]
  exact hfollows

/-- Concluding a request hands out the finished entry and returns the text of the verdict. -/
theorem follows_conclude (entry : Audit.Entry) (started : Nat) (request : Request)
    (verdict : Verdict) :
    Follows (g.watched.conclude host.watched entry started request verdict)
      (g.conclude host entry started request verdict) fun text events =>
        text = verdict.output ∧ ∃ elapsed,
          events = g.handing ((entry.judged verdict).finished elapsed verdict.output) := by
  refine .lift_bind fun now => ?_
  let concluded := (entry.judged verdict).finished (now - started) verdict.output
  -- Once the failure is logged, or not, the places are asked.
  have hkeep : Follows
      (do g.watched.sinks.forM fun sink => do let _ ← sink.keep concluded
          return verdict.output)
      (do g.sinks.forM fun sink => do let _ ← sink.keep concluded
          return verdict.output) fun text events =>
        text = verdict.output ∧ ∃ elapsed,
          events = g.handing ((entry.judged verdict).finished elapsed verdict.output) := by
    refine (follows_forM_keep concluded).bind fun _ events hevents => ?_
    exact follows_pure ⟨rfl, now - started, (List.append_nil events).trans hevents⟩
  dsimp only [watched]
  cases g.settings.errorLogPath with
  | none => exact hkeep
  | some path =>
    cases verdict.error with
    | none => exact hkeep
    | some report => exact .lift_bind fun stamp => .lift_bind fun _ => hkeep

/-! ## Serving -/

/-- The entry of a call that arrives has what came with it. -/
theorem follows_arrive (call : Call) :
    Follows (arrive host.watched call.environment call.input)
      (arrive host call.environment call.input) fun arrived events =>
        events = [] ∧ ∃ id timestamp, arrived.1 = call.arrived id timestamp :=
  .lift_bind fun _ => .lift_bind fun id => .lift_bind fun timestamp =>
    follows_pure ⟨rfl, id, timestamp, rfl⟩

/-- A call is served with the text of a verdict, and what is seen is how it is judged, and then the
entry with that verdict handed to each place. -/
theorem follows_serve (g : Gateway (StateM σ)) (host : Host (StateM σ)) (call : Call) :
    Follows (g.watched.serve host.watched call) (g.serve host call) fun text events =>
      ∃ verdict judging id timestamp elapsed, call.Judgement g verdict judging ∧
        text = verdict.output ∧
        events = judging ++
          g.handing (((call.arrived id timestamp).judged verdict).finished elapsed
            verdict.output) := by
  cases call with
  | submit environment input =>
    -- The request arrives, is judged and concluded; only judging and concluding leave events.
    refine (follows_arrive (.submit environment input)).bind ?_
    rintro ⟨entry, started⟩ _ ⟨rfl, id, timestamp, rfl⟩
    refine (follows_judge environment input).bind fun verdict judging hjudged => ?_
    refine (follows_conclude _ started _ verdict).mono ?_
    rintro _ _ ⟨rfl, elapsed, rfl⟩
    exact ⟨verdict, judging, id, timestamp, elapsed, hjudged, rfl, rfl⟩
  | refuse environment input failure =>
    refine (follows_arrive (.refuse environment input failure)).bind ?_
    rintro ⟨entry, started⟩ _ ⟨rfl, id, timestamp, rfl⟩
    refine (follows_conclude _ started _ _).mono ?_
    rintro _ _ ⟨rfl, elapsed, rfl⟩
    exact ⟨_, [], id, timestamp, elapsed, .refused _, rfl, rfl⟩

end Gateway

end RelationGateway
