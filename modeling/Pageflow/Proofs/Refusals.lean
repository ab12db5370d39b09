/-
  Pageflow.Proofs.Refusals — responses that are refused.

  Whatever its strategy is, an activity whose call is answered with a response that is no success
  fails: there is no mark of a result then, so nothing is stored and no sub-activity runs.  It does
  not matter whether the response is that of a server, or an output in the manner of one, be it of
  a function of the process, of a function of a bridge, or of one that changes results.  But only a
  server is refused for a status below 200; an output with such a status is read like any other.

  Main definitions: `Reply.status?` and `IsSuccessful`.
  Main statements: `refused_response_fails`, and `informational_output_settles` on what is left
  out.
-/
import Pageflow.Proofs.Outcomes
import Pageflow.Proofs.Replies

namespace Pageflow

/-! ## §1. The status of a reply. -/

/-- The status of a response, or of an output in the manner of a response. -/
def Reply.status? : Reply → Option Nat
  | ⟨.send _, .ok response⟩ => some response.status
  | ⟨.call _ _, .ok (.response r)⟩ => some r.status
  | _ => none

/-- The reply is that of a server. -/
def Reply.IsOfServer (r : Reply) : Prop := ∃ request, r.1 = .send request

/-- A status that says that all went well. -/
def IsSuccessful (status : Nat) : Prop := 200 ≤ status ∧ status ≤ 299

/-- The reply is no refusal: its status, if it has one, is a success, or it is below 200 and not
that of a server. -/
def Reply.IsAccepted (r : Reply) : Prop :=
  ∀ status, r.status? = some status → r.IsOfServer ∨ 200 ≤ status → IsSuccessful status

theorem Reply.isAccepted_of_file {r : Reply} (h : r.1.IsAboutFile) : r.IsAccepted := by
  obtain ⟨q, answer⟩ := r
  cases q <;> first | exact absurd h id | exact fun _ given => by contradiction

/-- An output that carries a result is accepted. -/
theorem Reply.isAccepted_of_result {f : Function} {arguments : List Json} {output : Output}
    {v : Json} (h : output.result = .ok v) :
    Reply.IsAccepted ⟨.call f arguments, .ok output⟩ := by
  intro status given of_server
  cases output with
  | value _ => contradiction
  | response r =>
    obtain rfl := Option.some.inj given
    have least : 200 ≤ r.status := by
      rcases of_server with ⟨_, other⟩ | least
      · contradiction
      · exact least
    have limit : ¬ r.status > FunctionResponse.statusLimit := by
      intro above
      rw [Output.result, FunctionResponse.result, if_pos above] at h
      contradiction
    exact ⟨least, Nat.not_lt.mp limit⟩

/-- A response that is interpreted is accepted. -/
theorem Reply.isAccepted_of_interpret {o : Remote.Operation} {request : Http.Request}
    {response : Http.Response} {v : Json} (h : o.interpret response = .ok v) :
    Reply.IsAccepted ⟨.send request, .ok response⟩ := by
  intro status given _
  obtain rfl := Option.some.inj given
  have success : response.isSuccess = true := by
    by_contra failed
    rw [Remote.Operation.interpret, if_pos (by simpa using failed)] at h
    contradiction
  rw [Http.Response.isSuccess, Bool.and_eq_true, decide_eq_true_eq, decide_eq_true_eq] at success
  exact ⟨success.1, Nat.le_of_lt_succ success.2⟩

namespace Run

open Pageflow.Flow (IsBuilt Materials Strategy)

/-! ## §2. Results. -/

theorem Hooked.accepted {f? : Option Function} {value result : Json} {replies : List Reply}
    (h : Hooked f? value replies result) : ∀ r ∈ replies, r.IsAccepted := by
  cases h with
  | nothing => exact fun _ h => absurd h List.not_mem_nil
  | output carried =>
    intro r hr
    rw [List.mem_singleton.mp hr]
    exact Reply.isAccepted_of_result carried

theorem Unwraps.accepted {strategy : Strategy} {value : Json} {replies : List Reply}
    (h : Unwraps strategy replies value) : ∀ r ∈ replies, r.IsAccepted := by
  intro r hr
  cases h with
  | function value_eq =>
    rw [List.mem_singleton.mp hr]
    exact Reply.isAccepted_of_result value_eq
  | remote before value_eq =>
    rcases List.mem_append.mp hr with file | response
    · exact Reply.isAccepted_of_file (before r file)
    · rw [List.mem_singleton.mp response]
      exact Reply.isAccepted_of_interpret value_eq
  | capability value_eq =>
    rw [List.mem_singleton.mp hr]
    exact Reply.isAccepted_of_result value_eq

/-- No reply that leads a strategy to a result is a refusal. -/
theorem Yields.accepted {strategy : Strategy} {result : Json} {replies : List Reply}
    (h : Yields strategy replies result) : ∀ r ∈ replies, r.IsAccepted := by
  obtain ⟨unwraps, hooked⟩ := h
  intro r hr
  exact (List.mem_append.mp hr).elim (unwraps.accepted r) (hooked.accepted r)

variable {m : Materials} {page : Document.Page} {process : Document.Process} {flow : Flow}

/-- **All strategies refuse the same responses, but for statuses below 200.**  Whatever a host does
and however it is answered: if an activity that is called gets a response whose status is not from
200 to 299, the next mark is that of its failure, or it was called from outside and the operation
ends there with a failure.  Only an output of a function with a status below 200 may go through. -/
theorem refused_response_fails (hb : IsBuilt m page process flow) (op : Operation) (s : State) :
    (op.run flow s).Chronicles (fun moves x _ => ∀ place replies after,
      CallAnswered flow place replies after moves →
        ∀ r ∈ replies, ∀ status, r.status? = some status → ¬ IsSuccessful status →
          r.IsOfServer ∨ 200 ≤ status →
            (∃ rest, after = .mark ⟨place, .failed⟩ :: rest)
              ∨ (∃ c, op = .call c) ∧ after = [] ∧ ∃ e, x = .error e) s := by
  refine (operation_accounts hb.orderly op s).mono ?_
  intro moves x _ accounted place replies after answered r hr status given refused left
  obtain ⟨a, y, ha, own, goes, next⟩ := accounted.followedUp place replies after answered
  obtain ⟨strategy, arguments, u, t, hs, goes⟩ := goes
  cases y with
  | ok result =>
    have own : strategy.isReference = false := by
      rwa [Flow.Activity.isReference, hs] at own
    exact absurd ((yields_of_goes own goes).accepted r hr status given left) refused
  | error e =>
    rcases next with next | ⟨outside, last, same⟩
    · exact .inl next
    · refine .inr ⟨outside, last, ?_⟩
      cases x with
      | ok _ => contradiction
      | error e => exact ⟨e, rfl⟩

/-! ## §3. A booth. -/

/-- A booth fetches a price, keeps it and shows it. -/
def boothProcess : Document.Process where
  services := [("booth",
    { activities := [
        ("quote",
          { moduleFunction := some "fetch"
            storeResult := some { key := "price" }
            subActivities := [("show", { moduleFunction := some "show" })] })] })]

def boothMaterials : Materials where
  functions := [("fetch", ⟨"booth", "fetch", []⟩), ("show", ⟨"booth", "show", []⟩)]
  bridges := []

def boothFlow : Flow := (Flow.assemble? boothMaterials {} boothProcess).value.getD default

theorem boothFlow_isBuilt : IsBuilt boothMaterials {} boothProcess boothFlow :=
  Flow.isBuilt_getD (by decide +kernel)

/-- Functions respond with this status and the number 7; nothing else is answered. -/
def respondsWith (status : Nat) : Task.Environment Unit
  | .call _ _, _ => (.ok (.response ⟨status, "", some "application/json", Utf8.encode "7"⟩), ())
  | .send _, _ => (.error (.network "unreachable"), ())
  | .fileBytes _, _ => (.error .notFound, ())
  | .fileSize _, _ => (.error .notFound, ())
  | .fetch _, _ => (.error "unreachable", ())

/-- The response of the function of the booth, as a reply. -/
def boothReply (status : Nat) : Reply :=
  ⟨.call ⟨"booth", "fetch", []⟩ [],
    .ok (.response ⟨status, "", some "application/json", Utf8.encode "7"⟩)⟩

/-- What quoting comes to with such responses: the chronicle, the outcome and the state at the
end. -/
def quoted (status : Nat) : Option (List Move × Except HostError Unit × State) :=
  ((Operation.activity "booth" "quote" true).run boothFlow (initial boothFlow)).record
    (respondsWith status) (initial boothFlow) ()

theorem boothFlow_place : ∃ a, boothFlow.arena[0]? = some a ∧ a.isReference = false := by
  have place : (boothFlow.arena[0]?).map Flow.Activity.isReference = some false := by
    decide +kernel
  exact Option.map_eq_some_iff.mp place

/-- A response with the status 500 makes the quote fail. -/
theorem refused_response_fails_booth :
    IsBuilt boothMaterials {} boothProcess boothFlow
    ∧ ∃ moves x t after, quoted 500 = some (moves, x, t)
      ∧ CallAnswered boothFlow 0 [boothReply 500] after moves
      ∧ (boothReply 500).status? = some 500 ∧ ¬ IsSuccessful 500
      ∧ ∃ rest, after = .mark ⟨0, .failed⟩ :: rest := by
  have chronicle : (quoted 500).map Prod.fst
      = some ([.mark ⟨0, .entered {}⟩, .mark ⟨0, .admitted⟩, .mark ⟨0, .called⟩]
        ++ [boothReply 500].map .reply ++ [.mark ⟨0, .failed⟩]) := by
    decide +kernel
  obtain ⟨⟨moves, x, t⟩, hq, rfl⟩ := Option.map_eq_some_iff.mp chronicle
  obtain ⟨a, ha, own⟩ := boothFlow_place
  have answered : CallAnswered boothFlow 0 [boothReply 500] [.mark ⟨0, .failed⟩] _ :=
    ⟨a, [.mark ⟨0, .entered {}⟩, .mark ⟨0, .admitted⟩], ha, own, unanswered_mark _ _, rfl⟩
  have failed := (refused_response_fails boothFlow_isBuilt _ _).of_record hq 0 _ _ answered _
    List.mem_cons_self 500 rfl (fun h => absurd h.2 (by decide)) (.inr (by decide))
  refine ⟨boothFlow_isBuilt, _, x, t, _, hq, answered, rfl, fun h => absurd h.2 (by decide), ?_⟩
  rcases failed with failed | ⟨_, nothing, _⟩
  · exact failed
  · contradiction

/-- A response with the status 150 is no success, and yet the quote is settled: it is kept and
shown, and the operation ends well. -/
theorem informational_output_settles :
    IsBuilt boothMaterials {} boothProcess boothFlow
    ∧ ∃ moves t rest, quoted 150 = some (moves, .ok (), t)
      ∧ CallAnswered boothFlow 0 [boothReply 150] (.mark ⟨0, .settled (.integer 7)⟩ :: rest) moves
      ∧ (boothReply 150).status? = some 150 ∧ ¬ IsSuccessful 150
      ∧ (t.service? "booth").bind (fun service => service.store.get? "price") = some (.integer 7)
      ∧ .mark ⟨1, .entered ⟨some (.integer 7), none⟩⟩ ∈ rest := by
  have chronicle : (quoted 150).map (fun r => (r.1.take 5, r.2.1.isOk,
      (r.2.2.service? "booth").bind (fun service => service.store.get? "price"),
      decide (.mark ⟨1, .entered ⟨some (.integer 7), none⟩⟩ ∈ r.1.drop 5)))
      = some ([.mark ⟨0, .entered {}⟩, .mark ⟨0, .admitted⟩, .mark ⟨0, .called⟩]
        ++ ([boothReply 150].map .reply ++ [.mark ⟨0, .settled (.integer 7)⟩]), true,
        some (.integer 7), true) := by
    decide +kernel
  obtain ⟨⟨moves, x, t⟩, hq, seen⟩ := Option.map_eq_some_iff.mp chronicle
  obtain ⟨first, others⟩ := Prod.mk.inj seen
  obtain ⟨ended, others⟩ := Prod.mk.inj others
  obtain ⟨kept, shown⟩ := Prod.mk.inj others
  obtain ⟨a, ha, own⟩ := boothFlow_place
  have split : moves = [.mark ⟨0, .entered {}⟩, .mark ⟨0, .admitted⟩]
      ++ .mark ⟨0, .called⟩ :: ([boothReply 150].map .reply
        ++ .mark ⟨0, .settled (.integer 7)⟩ :: moves.drop 5) := by
    exact (List.take_append_drop 5 moves).symm.trans (congrArg (· ++ moves.drop 5) first)
  cases x with
  | error e => contradiction
  | ok _ =>
    exact ⟨boothFlow_isBuilt, moves, t, moves.drop 5, hq,
      ⟨a, [.mark ⟨0, .entered {}⟩, .mark ⟨0, .admitted⟩], ha, own, unanswered_mark _ _, split⟩, rfl,
      fun h => absurd h.1 (by decide), kept, of_decide_eq_true shown⟩

end Run

end Pageflow
