import RelationGateway.Gateway.Handler
import RelationGateway.Proofs.Reply.Response
import RelationGateway.Proofs.Reply.Writing

/-!
# Failed runs

A run of a handler fails in three ways: it gives a failure, it breaks off, or its draft cannot be
sent. Whichever it is, the answer is the error page of the failure, and nothing that the handler
wrote is part of it; the audit entry keeps the report and the last value for debugging.

* `Run.Fails`: the ways to fail;
* `Run.result_eq_error_iff`, `Run.result_eq_ok_iff`: what a run makes, by its ending;
* `Handler.verdictFrom_fails`: failed runs with the same status and message have the same answer.
-/

namespace RelationGateway

namespace Run

/-- The run fails with the failure. -/
inductive Fails : Run → Failure → Prop
  /-- It ends with the failure. -/
  | failed (draft : Draft) (failure : Failure) : Fails ⟨draft, .failed failure⟩ failure
  /-- It breaks off, with or without a text. -/
  | crashed (draft : Draft) (text : Option String) :
      Fails ⟨draft, .crashed text⟩ (.handlerCrashed (text.getD "panic occurred in handler"))
  /-- It ends with a status, but what it wrote cannot be sent. -/
  | refused {draft : Draft} {status : UInt16} {failure : Failure}
      (h : draft.finish status = .error failure) : Fails ⟨draft, .answered status⟩ failure

variable {run : Run} {failure : Failure} {status : UInt16} {output : String}

/-- A run makes no response exactly if it fails. -/
theorem result_eq_error_iff : run.result = .error failure ↔ run.Fails failure := by
  constructor
  · intro h
    obtain ⟨draft, ending⟩ := run
    cases ending with
    | answered status =>
      -- A status makes a response unless the draft is refused with it.
      cases hfinish : draft.finish status with
      | error cause =>
        simp only [result, hfinish] at h
        exact .refused (hfinish.trans (congrArg _ (Except.error.inj h)))
      | ok text =>
        simp only [result, hfinish] at h
        cases h
    | failed cause =>
      obtain rfl : cause = failure := Except.error.inj h
      exact .failed draft cause
    | crashed text =>
      obtain rfl : crashFailure text = failure := Except.error.inj h
      exact .crashed draft text
  · intro h
    cases h with
    | failed draft => rfl
    | crashed draft text => rfl
    | refused hfinish =>
      simp only [result, hfinish]
      rfl

/-- A run makes a response if it ends with a status and its draft can be sent with that. -/
theorem result_eq_ok_iff :
    run.result = .ok (status, output) ↔
      run.ending = .answered status ∧ run.draft.finish status = .ok output := by
  obtain ⟨draft, ending⟩ := run
  cases ending with
  | answered status' =>
    cases hfinish : draft.finish status' with
    | error cause =>
      refine iff_of_false ?_ ?_
      · simp [result, hfinish, Except.map]
      · rintro ⟨hstatus, hok⟩
        obtain rfl := Ending.answered.inj hstatus
        cases hfinish.symm.trans hok
    | ok text =>
      simp only [result, hfinish, Except.map, Except.ok.injEq, Prod.mk.injEq,
        Ending.answered.injEq]
      refine and_congr_right fun hstatus => ?_
      subst hstatus
      rw [hfinish, Except.ok.injEq]
  | failed cause => exact iff_of_false nofun nofun
  | crashed text => exact iff_of_false nofun nofun

/-- The verdict on a run that fails is that on its failure. -/
theorem verdict_of_fails (h : run.Fails failure) (context : String) :
    run.verdict context = .ofFailure failure context run.draft.debug := by
  simp only [verdict, result_eq_error_iff.mpr h]

/-- A verdict reports no failure exactly if the run does not fail. -/
theorem error_verdict_eq_none_iff (context : String) :
    (run.verdict context).error = none ↔ ∀ failure, ¬ run.Fails failure := by
  cases hresult : run.result with
  | error failure =>
    have hfails := result_eq_error_iff.mp hresult
    rw [verdict_of_fails hfails]
    exact iff_of_false nofun fun h => h failure hfails
  | ok result =>
    refine iff_of_true ?_ fun failure hfails => ?_
    · simp only [verdict, hresult]
    · cases hresult.symm.trans (result_eq_error_iff.mpr hfails)

end Run

namespace Handler

variable {σ : Type}

/-- The run of a handler on a request from a state of the world. -/
def runFrom (h : Handler (StateM σ)) (request : Request) (state : σ) : Run :=
  ((h.run request).run state).1

/-- The verdict of a handler on a request from a state of the world. -/
def verdictFrom (h : Handler (StateM σ)) (request : Request) (state : σ) : Verdict :=
  ((h.answer request).run state).1

theorem verdictFrom_eq (h : Handler (StateM σ)) (request : Request) (state : σ) :
    h.verdictFrom request state = (h.runFrom request state).verdict request.line := rfl

/-- Handlers that fail on a request with the same status and the same message answer it with the
same text, however they fail and whatever they wrote before. The text is an error page, with two
headers and the status in its head. The audit entry gets the status, the report of the failure and
the last value that was kept for debugging. It reports a failure only if the handler fails. -/
theorem verdictFrom_fails (h h' : Handler (StateM σ)) (request : Request) (state state' : σ)
    (steps : List Draft.Step) (hsteps : (h.runFrom request state).draft = .ofSteps steps)
    (failure failure' : Failure) (hfails : (h.runFrom request state).Fails failure)
    (hfails' : (h'.runFrom request state').Fails failure')
    (hstatus : failure.status = failure'.status) (hmessage : failure.message = failure'.message)
    (entry : Audit.Entry) :
    let verdict := h.verdictFrom request state
    verdict.output = (h'.verdictFrom request state').output ∧
    verdict.output = Page.response failure.status failure.message ∧
    (∃ first body, Response.StatusLine failure.status first ∧
      Delimited.FirstCut "\r\n\r\n".toList verdict.output.toList
        (String.intercalate "\r\n"
          [first, "Content-Type: text/html", "Connection: close"]).toList body) ∧
    entry.judged verdict = { entry with
      status := failure.status
      debug := (steps.filterMap Draft.Step.debug?).getLast?
      error := some {
        code := failure.code
        message := failure.message
        detail := failure.detail
        context := request.method.text ++ " " ++ request.url } } ∧
    ∀ (other : Handler (StateM σ)) (before : σ),
      (entry.judged (other.verdictFrom request before)).error = none ↔
        ∀ cause, ¬ (other.runFrom request before).Fails cause := by
  intro verdict
  have hverdict : verdict = .ofFailure failure request.line
      (steps.filterMap Draft.Step.debug?).getLast? := by
    rw [← Draft.debug_ofSteps, ← hsteps]
    exact Run.verdict_of_fails hfails request.line
  have houtput : verdict.output = Page.response failure.status failure.message := by
    rw [hverdict]
    rfl
  have hhead := Response.firstCut_page failure.status failure.message
  rw [← houtput] at hhead
  refine ⟨?_, houtput, ?_, ?_, fun other before => ?_⟩
  · -- The page is made of the status and the message alone.
    rw [houtput, verdictFrom_eq, Run.verdict_of_fails hfails', hstatus, hmessage]
    rfl
  · exact ⟨_, _, Response.statusLine_statusLine failure.status, hhead⟩
  · rw [hverdict]
    rfl
  · exact Run.error_verdict_eq_none_iff request.line

/-- A handler that keeps a value, writes a text and a cookie, and breaks off. -/
def breaksOff : Handler (StateM Unit) where
  pattern := "/"
  accepts _ _ := true
  run _ := pure
    { draft := .ofSteps [.setDebug (.int 1), .append "secret", .setHeader "Set-Cookie" "s=1",
        .setDebug (.int 2)]
      ending := .crashed (some "handlers must not set the Status header") }

/-- A handler that sets a status as a header. -/
def setsStatus : Handler (StateM Unit) where
  pattern := "/"
  accepts _ _ := true
  run _ := pure { draft := .ofSteps [.setHeader "status" "200 OK"], ending := .answered 200 }

/-- Breaking off with what a refused header is reported with looks like the refusal. -/
theorem verdictFrom_fails_breaksOff :
    let request := Request.ofUrl .get "/a"
    (breaksOff.verdictFrom request ()).output = (setsStatus.verdictFrom request ()).output ∧
      (breaksOff.verdictFrom request ()).debug = some (.int 2) := by
  intro request
  have hrefused : (setsStatus.runFrom request ()).Fails
      (.invalidHeader "handlers must not set the Status header") := by
    have hheaders : (Draft.ofSteps [.setHeader "status" "200 OK"]).headers.toList =
        [("status", "200 OK")] := by
      change (NameTable.empty.insert "status" "200 OK").toList = _
      rw [NameTable.toList_insert]
      rfl
    have hrefusal : Draft.refusal? ("status", "200 OK") =
        some (.invalidHeader "handlers must not set the Status header") :=
      if_pos (Text.sameIgnoringCase_iff.mpr (by decide))
    refine .refused ?_
    rw [Draft.finish, hheaders, List.findSome?_cons, hrefusal]
  obtain ⟨houtput, -, -, hentry, -⟩ := verdictFrom_fails breaksOff setsStatus request () ()
    [.setDebug (.int 1), .append "secret", .setHeader "Set-Cookie" "s=1", .setDebug (.int 2)] rfl
    (.handlerCrashed "handlers must not set the Status header") _ (.crashed _ _) hrefused rfl rfl
    (.begin "" [])
  exact ⟨houtput, congrArg Audit.Entry.debug hentry⟩

end Handler

end RelationGateway
