import SdpK8sInjector.Common.Calls
import SdpK8sInjector.Lib.Strategy

/-! # The HTTP client behaves as the system of remote calls

What is assumed of the controller is that a request is served as a whole or not at all, that an
answer which brings what was asked for is true, and that a login leaves the users and devices alone.
-/

namespace SdpK8sInjector.Common.Http

open Lib Serde

variable {Server : Type}

namespace SystemCall

/-- What the controller is asked to do. -/
def operation (matchesUsername : String → String → Bool) :
    (c : SystemCall) → Controller → Except Common.SDPClientError (c.Answer × Controller)
  | getUsers => Controller.getUsers
  | getUser serviceUserId => Controller.getUser serviceUserId
  | createUser sdpUser => Controller.createUser sdpUser
  | modifyUser serviceUser => Controller.modifyUser serviceUser
  | deleteUser serviceUserId => Controller.deleteUser serviceUserId
  | getRegisteredDeviceIds username => Controller.getRegisteredDeviceIds matchesUsername username
  | unregisterDeviceId distinguishedName => Controller.deleteDevice distinguishedName

/-- The same call to the system of remote calls. -/
def onSystem (outcomes : Nat → CallOutcome) (matchesUsername : String → String → Bool) (system : System) :
    (c : SystemCall) → Except Common.SDPClientError c.Answer × System
  | getUsers => system.getUsers outcomes
  | getUser serviceUserId => system.getUser outcomes serviceUserId
  | createUser sdpUser => system.createUser outcomes sdpUser
  | modifyUser serviceUser => system.modifyUser outcomes serviceUser
  | deleteUser serviceUserId => system.deleteUser outcomes serviceUserId
  | getRegisteredDeviceIds username => system.getRegisteredDeviceIds outcomes matchesUsername username
  | unregisterDeviceId distinguishedName => system.unregisterDeviceId outcomes distinguishedName false

theorem onSystem_eq (outcomes : Nat → CallOutcome) (matchesUsername : String → String → Bool) (system : System)
    (c : SystemCall) : c.onSystem outcomes matchesUsername system =
      ((system.call outcomes .request (c.operation matchesUsername)).1.map c.finish,
        (system.call outcomes .request (c.operation matchesUsername)).2) := by
  have hId : ∀ {α : Type} (result : Except Common.SDPClientError α), result.map id = result := by
    intro α result
    cases result <;> rfl
  cases c with
  | createUser sdpUser =>
    simp only [onSystem, System.createUser, operation, finish]
    cases system.call outcomes .request (Controller.createUser sdpUser) with
    | mk result t => cases result <;> rfl
  | getUsers => exact Prod.ext (hId _).symm rfl
  | getUser serviceUserId => exact Prod.ext (hId _).symm rfl
  | modifyUser serviceUser => exact Prod.ext (hId _).symm rfl
  | deleteUser serviceUserId => exact Prod.ext (hId _).symm rfl
  | getRegisteredDeviceIds username => exact Prod.ext (hId _).symm rfl
  | unregisterDeviceId distinguishedName => exact Prod.ext (hId _).symm rfl

/-- The ids that make one segment of a path. -/
def IsSegment (id : String) : Prop := '/' ∉ id.toList ∧ id ≠ "" ∧ id ≠ "." ∧ id ≠ ".."

def Plain : SystemCall → Prop
  | getUser id | deleteUser id => IsSegment id
  | getUsers | createUser _ | modifyUser _ | getRegisteredDeviceIds _ | unregisterDeviceId _ => True

end SystemCall

/-- What the client relies on; `view` is what the controller keeps of users and devices. -/
structure Truthful (net : Network Server) (matchesUsername : String → String → Bool)
    (view : Server → Controller) :
    Prop where
  login : ∀ server, view (net.serve net.loginRequest server).2 = view server
  effect : ∀ (c : SystemCall) (token : String) (server : Server), c.Plain →
    view (net.serve (c.request.bearerAuth token) server).2 = view server ∨
      ∃ a, c.operation matchesUsername (view server) =
        .ok (a, view (net.serve (c.request.bearerAuth token) server).2)
  answer : ∀ (c : SystemCall) (token : String) (server : Server) (a : c.Answer), c.Plain →
    c.reply net.dateTime (net.serve (c.request.bearerAuth token) server).1 = .ok a →
      c.operation matchesUsername (view server) = .ok (a, view (net.serve (c.request.bearerAuth token) server).2)

variable {net : Network Server} {matchesUsername : String → String → Bool} {view : Server → Controller}

/-- What becomes of a call, as the system of remote calls tells it. -/
def outcomeOf (net : Network Server) (view : Server → Controller) (c : SystemCall)
    (s : Session Server) : CallOutcome :=
  match (c.perform net s).1 with
  | .ok _ => .delivered
  | .error _ => if view (c.perform net s).2.server = view s.server then .requestLost else .replyLost

namespace Truthful

variable {s t : Session Server} {c : SystemCall} {result : Except SDPClientError c.Answer}

/-- A call does what the controller is asked to do, if it returns; else it does that or nothing. -/
theorem exchanged (h : Truthful net matchesUsername view) (hPlain : c.Plain)
    (hExchange : s.Exchanged net (c.reply net.dateTime) c.request result t) :
    (∀ a, result = .ok a → c.operation matchesUsername (view s.server) = .ok (a, view t.server)) ∧
      (view t.server = view s.server ∨
        ∃ a, c.operation matchesUsername (view s.server) = .ok (a, view t.server)) := by
  have hRefreshed : ∀ {result : Except SDPClientError Login} {mid : Session Server},
      s.Refreshes net result mid → view mid.server = view s.server := by
    intro result mid hRefresh
    cases hRefresh with
    | held => rfl
    | renewed hNeeded hSent =>
      rcases hSent.server with hSame | hServed
      · exact congrArg view hSame
      · exact (congrArg view hServed).trans (h.login s.server)
    | refused hNeeded hSent =>
      rcases hSent.server with hSame | hServed
      · exact congrArg view hSame
      · exact (congrArg view hServed).trans (h.login s.server)
  cases hExchange with
  | refused hRefresh => exact ⟨fun a hOk => (by cases hOk), .inl (hRefreshed hRefresh)⟩
  | @lost login mid u e hRefresh hSent =>
    have hMid : view mid.server = view s.server := hRefreshed hRefresh
    refine ⟨fun a hOk => (by cases hOk), ?_⟩
    rcases hSent.server with hSame | hServed
    · rw [hSame]
      exact .inl hMid
    · rw [hServed, ← hMid]
      exact h.effect c login.token mid.server hPlain
  | @answered login mid u response hRefresh hSent =>
    obtain ⟨hResponse, hServed⟩ := hSent.answered response rfl
    rw [hServed, ← hRefreshed hRefresh]
    refine ⟨fun a hOk => ?_, h.effect c login.token mid.server hPlain⟩
    exact h.answer c login.token mid.server a hPlain (hResponse ▸ hOk)

/-- One call in step with one remote call. -/
theorem perform_refines (h : Truthful net matchesUsername view) (hPlain : c.Plain) {outcomes : Nat → CallOutcome}
    {system : System} (hStore : system.store = view s.server)
    (hOutcome : outcomes system.calls = outcomeOf net view c s) :
    (c.perform net s).1.toOption = (c.onSystem outcomes matchesUsername system).1.toOption ∧
      (c.onSystem outcomes matchesUsername system).2.store = view (c.perform net s).2.server ∧
      (c.onSystem outcomes matchesUsername system).2.calls = system.calls + 1 := by
  obtain ⟨result, hExchange, hResult⟩ := SystemCall.exchanged_perform net c s
  obtain ⟨hOk, hEffect⟩ := h.exchanged hPlain hExchange
  rw [c.onSystem_eq]
  refine ⟨?_, ?_, Remote.calls_call⟩
  all_goals
    rw [outcomeOf, hResult] at hOutcome
    unfold Remote.call
    cases result with
    | ok a => simp [hOutcome, hStore, hOk a rfl, hResult, Except.map, Except.toOption]
    | error e =>
      by_cases hSame : view (c.perform net s).2.server = view s.server
      · simp [hOutcome, hSame, hStore, hResult, Except.map, Except.toOption, Remote.failWith]
      · obtain ⟨a, hOp⟩ := hEffect.resolve_left hSame
        simp [hOutcome, hSame, hStore, hOp, hResult, Except.map, Except.toOption, Remote.failWith]

end Truthful

/-- A call as a strategy sees it, which is told no more of a failure than that it was one. -/
def unexplained {ε α State : Type} (result : Except ε α × State) : Option α × State :=
  (result.1.toOption, result.2)

/-- A strategy gets the same answers of the HTTP client and of the system of remote calls, and what the controller
keeps is what the system stores. -/
def InStep (net : Network Server) (matchesUsername : String → String → Bool) (view : Server → Controller)
    (strategy : Strategy SystemCall.Answer) (server : Server) (outcomes : Nat → CallOutcome) (n : Nat) : Prop :=
  let client := strategy.play (fun c s => unexplained (c.perform net s)) (.start server) n
  let system :=
    strategy.play (fun c s => unexplained (c.onSystem outcomes matchesUsername s)) ⟨view server, 0, []⟩ n
  client.1 = system.1 ∧ view client.2.server = system.2.store

/-- Whatever is lost on the way and however the logins go, what a client does over HTTP is what it does in the system
of remote calls, for some outcomes of these. -/
theorem session_refines_system (h : Truthful net matchesUsername view) {strategy : Strategy SystemCall.Answer}
    (hPlain : ∀ transcript c, strategy transcript = some c → c.Plain) (server : Server) :
    ∃ outcomes, ∀ n, InStep net matchesUsername view strategy server outcomes n := by
  let client := strategy.play (fun c s => unexplained (c.perform net s)) (.start server)
  let outcomes : Nat → CallOutcome := fun n =>
    match strategy (client n).1 with
    | some c => outcomeOf net view c (client n).2
    | none => .requestLost
  let InState (n : Nat) (s : Session Server) (system : System) : Prop :=
    system.store = view s.server ∧ system.calls = n
  have hStep : ∀ n c (system : System), strategy (client n).1 = some c → InState n (client n).2 system →
      (unexplained (c.perform net (client n).2)).1 = (unexplained (c.onSystem outcomes matchesUsername system)).1 ∧
        InState (n + 1) (unexplained (c.perform net (client n).2)).2
          (unexplained (c.onSystem outcomes matchesUsername system)).2 := by
    rintro n c system hNext ⟨hStore, rfl⟩
    have hOutcome : outcomes system.calls = outcomeOf net view c (client system.calls).2 := by
      simp only [outcomes, hNext]
    obtain ⟨hAnswer, hStore', hCalls⟩ := h.perform_refines (hPlain _ c hNext) hStore hOutcome
    exact ⟨hAnswer, hStore', hCalls⟩
  have hStart : InState 0 (.start server) ⟨view server, 0, []⟩ := ⟨rfl, rfl⟩
  have hPlays := Strategy.play_eq strategy _ _ InState hStart hStep
  exact ⟨outcomes, fun n => ⟨(hPlays n).1, (hPlays n).2.1.symm⟩⟩

section Sample

/-! A controller that serves some of the calls, and a client that meets a lost reply. -/

def entity (json : Json) : HttpResponse := ⟨200, some ("", some json)⟩

def refusal (status : Nat) : HttpResponse := ⟨status, some ("", none)⟩

def postedUser : Json → Option SDPUser
  | .obj members => do
    let u ← SDPUser.deserialize (.obj members)
    let password ← optionalField "password" members
    some { u with password := password }
  | _ => none

theorem postedUser_serialize (u : SDPUser) : postedUser u.serialize = some u := by
  have hUser := u.deserialize_serialize
  simp only [SDPUser.serialize] at hUser ⊢
  simp only [postedUser, hUser]
  obtain ⟨id, name, labels, tags, password, disabled⟩ := u
  cases password <;> simp [optionalField, readOptional]

def sampleController (request : HttpRequest) (s : Controller) : HttpResponse × Controller :=
  match request.method, request.path, request.body with
  | .post, ["admin", "login"], _ =>
    (entity (.obj [("user", .obj [("name", .str "admin"), ("needTwoFactorAuth", .bool false),
      ("canAccessAuditLogs", .bool true)]),
      ("token", .str "t"), ("expires", .str "2024-01-04T09:00:00Z")]), s)
  | .get, ["admin", "service-users"], _ =>
    (entity (.obj [("data", .arr (s.users.map fun u => { u with password := none }.serialize))]), s)
  | .post, ["admin", "service-users"], some json =>
    match (postedUser json).map fun u => Controller.createUser u s with
    | some (.ok (u, s)) => (entity u.serialize, s)
    | some (.error _) => (refusal 409, s)
    | none => (refusal 400, s)
  | .delete, ["admin", "service-users", id], _ =>
    match Controller.deleteUser id s with
    | .ok ((), s) => (⟨204, none⟩, s)
    | .error _ => (refusal 404, s)
  | _, _, _ => (refusal 501, s)

def sampleNetwork : Network Controller where
  serve := sampleController
  delivery n := if n = 1 then .replyLost else .delivered
  now _ := 0
  dateTime text := if text = "2024-01-04T09:00:00Z" then some 1704358800000000000 else none
  oldest := 0
  credentials := ⟨"admin", "admin", "local", "4c07bc67-57ea-42dd-b702-c2d6c45419fc"⟩

theorem setPath_append (front : String) {path id : String} (hPath : path = front ++ "/") (hId : '/' ∉ id.toList) :
    setPath (path ++ id) = setPath front ++ [id] := by
  have hChars : (path ++ id).toList = front.toList ++ '/' :: id.toList := by simp [hPath]
  have hSplit : front.toList.splitOn '/' ≠ [] := List.splitOn_ne_nil _ _
  rw [setPath, setPath, hChars, List.splitOn_append_cons_self, List.splitOn_eq_singleton hId,
    List.tail_append_of_ne_nil hSplit]
  simp

/-- What becomes of a call there. -/
def sampleService : SystemCall → Controller → HttpResponse × Controller
  | .getUsers, s => (entity (.obj [("data", .arr (s.users.map fun u => { u with password := none }.serialize))]), s)
  | .createUser u, s =>
    match Controller.createUser u s with
    | .ok (u, s) => (entity u.serialize, s)
    | .error _ => (refusal 409, s)
  | .deleteUser id, s =>
    match Controller.deleteUser id s with
    | .ok ((), s) => (⟨204, none⟩, s)
    | .error _ => (refusal 404, s)
  | .getUser _, s | .modifyUser _, s | .getRegisteredDeviceIds _, s | .unregisterDeviceId _, s => (refusal 501, s)

theorem sampleController_request (c : SystemCall) (token : String) (s : Controller) (hPlain : c.Plain) :
    sampleController (c.request.bearerAuth token) s = sampleService c s := by
  cases c with
  | getUsers => rfl
  | getUser id =>
    have hPath : setPath ("/admin/service-users-id/" ++ id) = ["admin", "service-users-id", id] :=
      setPath_append "/admin/service-users-id" rfl hPlain.1
    simp [sampleController, SystemCall.request, HttpRequest.bearerAuth, sampleService, hPath]
  | createUser u =>
    have hPath : setPath "/admin/service-users" = ["admin", "service-users"] := rfl
    simp only [sampleController, SystemCall.request, HttpRequest.bearerAuth, sampleService, hPath, postedUser_serialize,
      Option.map_some]
    cases hCreated : Controller.createUser u s <;> simp
  | modifyUser u => rfl
  | deleteUser id =>
    have hPath : setPath ("/admin/service-users/" ++ id) = ["admin", "service-users", id] :=
      setPath_append "/admin/service-users" rfl hPlain.1
    simp [sampleController, SystemCall.request, HttpRequest.bearerAuth, sampleService, hPath]
  | getRegisteredDeviceIds username => rfl
  | unregisterDeviceId dn => rfl

theorem entityOf_entity {D : Type} {decode : Json → Option D} {json : Json} {data : D} (h : decode json = some data) :
    Session.entityOf decode (entity json) = .ok data := by
  simp [Session.entityOf, errorForStatus, entity, NO_CONTENT, h]

theorem reply_refusal {dateTime : String → Option Int} {c : SystemCall} {status : Nat} {a : c.Answer}
    (h : 400 ≤ status ∧ status < 600) : c.reply dateTime (refusal status) ≠ .ok a := by
  have hStatus : 400 ≤ (refusal status).status ∧ (refusal status).status < 600 := h
  obtain ⟨e, hError⟩ := c.reply_error dateTime hStatus
  simp [hError]

theorem sampleNetwork_truthful : Truthful sampleNetwork (fun a b => a == b) id where
  login server := rfl
  effect c token server hPlain := by
    simp only [sampleNetwork, sampleController_request c token server hPlain, id]
    cases c with
    | getUsers | getUser | modifyUser | getRegisteredDeviceIds | unregisterDeviceId => exact .inl rfl
    | createUser u =>
      simp only [sampleService, SystemCall.operation]
      cases Controller.createUser u server with
      | error e => exact .inl rfl
      | ok created => exact .inr ⟨created.1, rfl⟩
    | deleteUser id =>
      simp only [sampleService, SystemCall.operation]
      cases Controller.deleteUser id server with
      | error e => exact .inl rfl
      | ok gone => exact .inr ⟨(), rfl⟩
  answer c token server a hPlain hReply := by
    simp only [sampleNetwork, sampleController_request c token server hPlain, id] at hReply ⊢
    cases c with
    | getUsers =>
      have hUsers : SDPUsers.deserialize
        (.obj [("data", .arr (server.users.map fun u => { u with password := none }.serialize))]) =
          some (server.users.map fun u => { u with password := none }) := by
        simp only [SDPUsers.deserialize, fieldWith, List.lookup_cons_self, Option.bind_some]
        exact items_map server.users fun u _ => SDPUser.deserialize_serialize _
      have hEntity := (entityOf_entity hUsers).symm.trans hReply
      cases hEntity
      rfl
    | getUser | modifyUser | getRegisteredDeviceIds | unregisterDeviceId =>
      exact absurd hReply (reply_refusal (by decide))
    | createUser u =>
      simp only [sampleService, SystemCall.operation] at hReply ⊢
      cases hCreated : Controller.createUser u server with
      | error e =>
        rw [hCreated] at hReply
        exact absurd hReply (reply_refusal (by decide))
      | ok created =>
        rw [hCreated] at hReply
        have hEntity := (entityOf_entity created.1.deserialize_serialize).symm.trans hReply
        cases hEntity
        unfold Controller.createUser at hCreated
        split at hCreated <;> cases hCreated
        rfl
    | deleteUser id =>
      simp only [sampleService, SystemCall.operation] at hReply ⊢
      cases hGone : Controller.deleteUser id server with
      | error e =>
        rw [hGone] at hReply
        exact absurd hReply (reply_refusal (by decide))
      | ok gone => rfl

/-- A user is posted and the users are asked for. -/
def sampleClient : Strategy SystemCall.Answer
  | [] => some (.createUser (.new "pw" "u" none none))
  | [_] => some .getUsers
  | _ => none

/-- The reply to the post is lost, and the user is there. -/
theorem session_refines_system_sample :
    (∃ outcomes, ∀ n, InStep sampleNetwork (fun a b => a == b) id sampleClient ⟨[], [], []⟩ outcomes n) ∧
      ((sampleClient.play (fun c s => unexplained (c.perform sampleNetwork s))
        (.start ⟨[], [], []⟩) 2).1.map fun r =>
        r.2.isSome) = [false, true] := by
  refine ⟨session_refines_system sampleNetwork_truthful (fun transcript c hNext => ?_) _, by decide +kernel⟩
  unfold sampleClient at hNext
  split at hNext <;> cases hNext <;> exact trivial

end Sample

end SdpK8sInjector.Common.Http
