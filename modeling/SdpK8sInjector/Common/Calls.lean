import SdpK8sInjector.Common.Session
import SdpK8sInjector.Lib.Transition

/-! # The calls to the SDP system

The methods of `System` over the HTTP client, and what any sequence of them sends.
-/

namespace SdpK8sInjector.Common.Http

open Lib

variable {Server : Type} (net : Network Server)

namespace Session

def getUsers (s : Session Server) : Except SDPClientError (List SDPUser) × Session Server :=
  s.get net SDPUsers.deserialize (setPath "/admin/service-users") []

def getUser (serviceUserId : String) (s : Session Server) : Except SDPClientError SDPUser × Session Server :=
  s.get net SDPUser.deserialize (setPath ("/admin/service-users-id/" ++ serviceUserId)) []

/-- The password of the created user is the one that was posted. -/
def createUser (sdpUser : SDPUser) (s : Session Server) : Except SDPClientError SDPUser × Session Server :=
  match s.post net SDPUser.deserialize (setPath "/admin/service-users") sdpUser.serialize with
  | (.ok created, s) => (.ok { created with password := sdpUser.password }, s)
  | (.error e, s) => (.error e, s)

def modifyUser (serviceUser : SDPUser) (s : Session Server) : Except SDPClientError SDPUser × Session Server :=
  s.put net SDPUser.deserialize (setPath "/admin/service-users") serviceUser.serialize

def deleteUser (serviceUserId : String) (s : Session Server) : Except SDPClientError Unit × Session Server :=
  s.delete net (setPath ("/admin/service-users/" ++ serviceUserId))

def getRegisteredDeviceIds (username : String) (s : Session Server) :
    Except SDPClientError (List OnBoardedUser) × Session Server :=
  s.get net (OnBoardedUsers.deserialize net.dateTime) (setPath "/admin/on-boarded-devices")
    [("username", username), ("providerName", "service")]

def unregisterDeviceId (distinguishedName : String) (dryRun : Bool) (s : Session Server) :
    Except SDPClientError Unit × Session Server :=
  if !dryRun then s.delete net ["admin", "on-boarded-devices", distinguishedName] else (.ok (), s)

end Session

/-- The calls that send something. -/
inductive SystemCall where
  | getUsers
  | getUser (serviceUserId : String)
  | createUser (sdpUser : SDPUser)
  | modifyUser (serviceUser : SDPUser)
  | deleteUser (serviceUserId : String)
  | getRegisteredDeviceIds (username : String)
  | unregisterDeviceId (distinguishedName : String)
deriving DecidableEq

namespace SystemCall

abbrev Answer : SystemCall → Type
  | getUsers => List SDPUser
  | getUser _ | createUser _ | modifyUser _ => SDPUser
  | getRegisteredDeviceIds _ => List OnBoardedUser
  | deleteUser _ | unregisterDeviceId _ => Unit

def perform (s : Session Server) : (c : SystemCall) → Except SDPClientError c.Answer × Session Server
  | getUsers => s.getUsers net
  | getUser serviceUserId => s.getUser net serviceUserId
  | createUser sdpUser => s.createUser net sdpUser
  | modifyUser serviceUser => s.modifyUser net serviceUser
  | deleteUser serviceUserId => s.deleteUser net serviceUserId
  | getRegisteredDeviceIds username => s.getRegisteredDeviceIds net username
  | unregisterDeviceId distinguishedName => s.unregisterDeviceId net distinguishedName false

def request : SystemCall → HttpRequest
  | getUsers => ⟨.get, setPath "/admin/service-users", [], none, none⟩
  | getUser serviceUserId => ⟨.get, setPath ("/admin/service-users-id/" ++ serviceUserId), [], none, none⟩
  | createUser sdpUser => ⟨.post, setPath "/admin/service-users", [], none, some sdpUser.serialize⟩
  | modifyUser serviceUser => ⟨.put, setPath "/admin/service-users", [], none, some serviceUser.serialize⟩
  | deleteUser serviceUserId => ⟨.delete, setPath ("/admin/service-users/" ++ serviceUserId), [], none, none⟩
  | getRegisteredDeviceIds username =>
    ⟨.get, setPath "/admin/on-boarded-devices", [("username", username), ("providerName", "service")], none, none⟩
  | unregisterDeviceId distinguishedName =>
    ⟨.delete, ["admin", "on-boarded-devices", distinguishedName], [], none, none⟩

/-- What is read off the response. -/
def reply (dateTime : String → Option Int) : (c : SystemCall) → HttpResponse → Except SDPClientError c.Answer
  | getUsers => Session.entityOf SDPUsers.deserialize
  | getUser _ | createUser _ | modifyUser _ => Session.entityOf SDPUser.deserialize
  | getRegisteredDeviceIds _ => Session.entityOf (OnBoardedUsers.deserialize dateTime)
  | deleteUser _ | unregisterDeviceId _ => Session.deletedOf

/-- What the caller gets of it. -/
def finish : (c : SystemCall) → c.Answer → c.Answer
  | createUser sdpUser => fun created => { created with password := sdpUser.password }
  | getUsers | getUser _ | modifyUser _ | getRegisteredDeviceIds _ | deleteUser _ | unregisterDeviceId _ => id

theorem perform_eq (c : SystemCall) (s : Session Server) :
    c.perform net s = ((s.exchange net (c.reply net.dateTime) c.request).1.map c.finish,
      (s.exchange net (c.reply net.dateTime) c.request).2) := by
  have hId : ∀ {α : Type} (result : Except SDPClientError α), result.map id = result := by
    intro α result
    cases result <;> rfl
  cases c with
  | createUser sdpUser =>
    simp only [perform, Session.createUser, Session.post, request, reply, finish]
    cases Session.exchange net (Session.entityOf SDPUser.deserialize)
        ⟨.post, setPath "/admin/service-users", [], none, some sdpUser.serialize⟩ s with
    | mk result t => cases result <;> rfl
  | getUsers => exact Prod.ext (hId _).symm rfl
  | getUser serviceUserId => exact Prod.ext (hId _).symm rfl
  | modifyUser serviceUser => exact Prod.ext (hId _).symm rfl
  | deleteUser serviceUserId => exact Prod.ext (hId _).symm rfl
  | getRegisteredDeviceIds username => exact Prod.ext (hId _).symm rfl
  | unregisterDeviceId distinguishedName => exact Prod.ext (hId _).symm rfl

/-- What one call sends: nothing but the login it fails to get, or one request, after a login if it needs one. -/
inductive Turn (c : SystemCall) : List Sent → Prop
  | refused (now : Int) : Turn c [.login now none]
  | held (now : Int) (login : Login) : Turn c [.request now (c.request.bearerAuth login.token)]
  | renewed (now : Int) (login : Login) :
    Turn c [.login now (some login), .request now (c.request.bearerAuth login.token)]

variable {net} {s t : Session Server} {c : SystemCall} {result : Except SDPClientError c.Answer}

theorem turn_of_exchanged (h : s.Exchanged net (c.reply net.dateTime) c.request result t) :
    ∃ turn, Turn c turn ∧ t.log = s.log ++ turn := by
  have hRequest : ∀ {login : Login} {mid t : Session Server} {reply : Except RequestError HttpResponse},
      s.Refreshes net (.ok login) mid →
      Session.Message net (c.request.bearerAuth login.token)
        (mid.record (.request (net.now s.messages) (c.request.bearerAuth login.token))) reply t →
      ∃ turn, Turn c turn ∧ t.log = s.log ++ turn := by
    intro login mid t reply hRefresh hSent
    cases hRefresh with
    | held hLogin hFresh => exact ⟨_, .held _ login, hSent.log⟩
    | renewed hNeeded hLogin hAnswer =>
      refine ⟨_, .renewed (net.now s.messages) login, ?_⟩
      simp [hSent.log, Session.record, hLogin.log]
  cases h with
  | refused hRefresh =>
    cases hRefresh with
    | refused hNeeded hLogin => exact ⟨_, .refused (net.now s.messages), by simp [Session.record, hLogin.log]⟩
  | lost hRefresh hSent => exact hRequest hRefresh hSent
  | answered hRefresh hSent => exact hRequest hRefresh hSent

theorem exchanged_perform (net : Network Server) (c : SystemCall) (s : Session Server) :
    ∃ result, s.Exchanged net (c.reply net.dateTime) c.request result (c.perform net s).2 ∧
      (c.perform net s).1 = result.map c.finish := by
  rw [perform_eq]
  exact ⟨_, Session.exchanged net (c.reply net.dateTime) c.request s, rfl⟩

end SystemCall

open SystemCall

/-- The calls one after the other, and what each returns. -/
def performAll : List SystemCall → Session Server →
    List (Σ c : SystemCall, Except SDPClientError c.Answer) × Session Server
  | [], s => ([], s)
  | c :: rest, s =>
    let (result, s) := c.perform net s
    let (results, s) := performAll rest s
    (⟨c, result⟩ :: results, s)

/-- Every call takes one turn, with at most one request in it. Its token is that of the last login, which was
not about to expire unless it had just been made; there is no login but where it is due. -/
theorem requests_bear_latest_login (calls : List SystemCall) (server : Server) :
    ∃ turns, List.Forall₂ Turn calls turns ∧ (performAll net calls (.start server)).2.log = turns.flatten ∧
      Accounted net (performAll net calls (.start server)).2 := by
  have hRun : ∀ s, Accounted net s → ∃ turns, List.Forall₂ Turn calls turns ∧
      (performAll net calls s).2.log = s.log ++ turns.flatten ∧ Accounted net (performAll net calls s).2 := by
    induction calls with
    | nil => exact fun s h => ⟨[], .nil, (List.append_nil _).symm, h⟩
    | cons c calls ih =>
      intro s h
      obtain ⟨result, hExchange, -⟩ := exchanged_perform net c s
      obtain ⟨turn, hTurn, hLog⟩ := turn_of_exchanged hExchange
      obtain ⟨turns, hTurns, hLogs, hAccounted⟩ := ih _ (h.exchanged hExchange)
      refine ⟨turn :: turns, .cons hTurn hTurns, ?_, hAccounted⟩
      rw [performAll, hLogs, hLog, List.flatten_cons, List.append_assoc]
  exact hRun _ (.start server)

variable {net} {s : Session Server}

theorem SystemCall.reply_error (dateTime : String → Option Int) (c : SystemCall) {response : HttpResponse}
    (h : 400 ≤ response.status ∧ response.status < 600) : ∃ e, c.reply dateTime response = .error e := by
  cases c with
  | getUsers | getUser | createUser | modifyUser | getRegisteredDeviceIds => exact Session.entityOf_error h
  | deleteUser | unregisterDeviceId => exact Session.deletedOf_error h

theorem SystemCall.perform_rejected {login : Login} (hLogin : s.login = some login)
    (hRejected : ∀ request server, request.bearer = some login.token →
      400 ≤ (net.serve request server).1.status ∧ (net.serve request server).1.status < 600)
    (hFresh : login.isExpired net.oldest (net.now s.messages) = false) (c : SystemCall) :
    (∃ e, (c.perform net s).1 = .error e) ∧ (c.perform net s).2.login = some login ∧
      (c.perform net s).2.messages = s.messages + 1 ∧
      (c.perform net s).2.log = s.log ++ [.request (net.now s.messages) (c.request.bearerAuth login.token)] := by
  have hHeld : s.needsLogin net = false := by rw [Session.needsLogin, hLogin]; exact hFresh
  obtain ⟨result, hExchange, hResult⟩ := exchanged_perform net c s
  rw [hResult]
  cases hExchange with
  | refused hRefresh =>
    obtain ⟨held, -, hOk, -⟩ := hRefresh.of_fresh hHeld
    cases hOk
  | lost hRefresh hSent =>
    obtain ⟨held, hSame, hOk, rfl⟩ := hRefresh.of_fresh hHeld
    cases hOk
    obtain rfl := Option.some.inj (hSame.symm.trans hLogin)
    exact ⟨⟨_, rfl⟩, hSent.login.trans hLogin, hSent.messages, hSent.log⟩
  | answered hRefresh hSent =>
    obtain ⟨held, hSame, hOk, rfl⟩ := hRefresh.of_fresh hHeld
    cases hOk
    obtain rfl := Option.some.inj (hSame.symm.trans hLogin)
    obtain ⟨hServed, -⟩ := hSent.answered _ rfl
    obtain ⟨e, hError⟩ := c.reply_error net.dateTime (hServed ▸ hRejected _ _ rfl)
    refine ⟨⟨e, ?_⟩, hSent.login.trans hLogin, hSent.messages, hSent.log⟩
    rw [hError]
    rfl

theorem SystemCall.perform_needsLogin (hNeeded : s.needsLogin net = true) (c : SystemCall) :
    ∃ answer rest, (c.perform net s).2.log = s.log ++ .login (net.now s.messages) answer :: rest := by
  have hRequest : ∀ {login : Login} {mid t : Session Server} {reply : Except RequestError HttpResponse},
      s.Refreshes net (.ok login) mid →
      Session.Message net (c.request.bearerAuth login.token)
        (mid.record (.request (net.now s.messages) (c.request.bearerAuth login.token))) reply t →
      ∃ answer rest, t.log = s.log ++ .login (net.now s.messages) answer :: rest := by
    intro login mid t reply hRefresh hSent
    refine ⟨some login, [.request (net.now s.messages) (c.request.bearerAuth login.token)], ?_⟩
    simp [hSent.log, Session.record, hRefresh.of_needed hNeeded, Except.toOption]
  obtain ⟨result, hExchange, -⟩ := exchanged_perform net c s
  cases hExchange with
  | refused hRefresh => exact ⟨none, [], hRefresh.of_needed hNeeded⟩
  | lost hRefresh hSent => exact hRequest hRefresh hSent
  | answered hRefresh hSent => exact hRequest hRefresh hSent

/-- When the controller stops accepting a token, every call fails until the last minutes of its login, and the client
does not ask for another; then the next call does. -/
theorem rejected_until_expiry {login : Login} (hLogin : s.login = some login)
    (hRejected : ∀ request server, request.bearer = some login.token →
      400 ≤ (net.serve request server).1.status ∧ (net.serve request server).1.status < 600)
    (calls : List SystemCall)
    (hClock : ∀ n, s.messages ≤ n → n < s.messages + calls.length →
      login.isExpired net.oldest (net.now n) = false) :
    (∀ r ∈ (performAll net calls s).1, ∃ e, r.2 = .error e) ∧
      (performAll net calls s).2.log = s.log ++
        (calls.zipIdx s.messages).map (fun (c, n) => .request (net.now n) (c.request.bearerAuth login.token)) ∧
      ∀ c : SystemCall, login.isExpired net.oldest (net.now (s.messages + calls.length)) = true →
        ∃ answer rest, (c.perform net (performAll net calls s).2).2.log = (performAll net calls s).2.log ++
          .login (net.now (s.messages + calls.length)) answer :: rest := by
  induction calls generalizing s with
  | nil =>
    refine ⟨fun r hr => absurd hr List.not_mem_nil, by simp [performAll], fun c hExpired => ?_⟩
    exact c.perform_needsLogin (by rw [Session.needsLogin, performAll, hLogin]; exact hExpired)
  | cons c calls ih =>
    obtain ⟨⟨e, hError⟩, hKept, hMessages, hLog⟩ :=
      c.perform_rejected hLogin hRejected (hClock s.messages (Nat.le_refl _) (by simp))
    have ih := ih hKept fun n hLow hHigh => hClock n (by omega) (by rw [List.length_cons]; omega)
    rw [hMessages, hLog] at ih
    obtain ⟨hResults, hLogs, hNext⟩ := ih
    refine ⟨?_, ?_, fun d hExpired => ?_⟩
    · intro r hr
      rcases List.mem_cons.mp hr with rfl | hr
      · exact ⟨e, hError⟩
      · exact hResults r hr
    · simp [performAll, hLogs]
    · rw [List.length_cons, Nat.add_comm calls.length, ← Nat.add_assoc] at hExpired ⊢
      exact hNext d hExpired

def rejecting : Network Unit where
  serve _ _ := (⟨401, none⟩, ())
  delivery _ := .delivered
  now n := n * FIFTEEN_MINUTES
  dateTime _ := none
  oldest := 0
  credentials := ⟨"admin", "admin", "local", "4c07bc67-57ea-42dd-b702-c2d6c45419fc"⟩

/-- A login that lasts for an hour from the first message. -/
def oneHour : Login := ⟨⟨"admin", false, true⟩, "t", 4 * FIFTEEN_MINUTES⟩

def loggedIn : Session Unit := ⟨some oneHour, (), 0, []⟩

theorem rejected_until_expiry_sample :
    (performAll rejecting [.getUsers, .deleteUser "u", .getUsers] loggedIn).2.log.length = 3 ∧
      ∃ answer rest, (SystemCall.getUsers.perform rejecting
          (performAll rejecting [.getUsers, .deleteUser "u", .getUsers] loggedIn).2).2.log =
        (performAll rejecting [.getUsers, .deleteUser "u", .getUsers] loggedIn).2.log ++
          .login (rejecting.now 3) answer :: rest := by
  have hRejected : ∀ request server, request.bearer = some oneHour.token →
      400 ≤ (rejecting.serve request server).1.status ∧ (rejecting.serve request server).1.status < 600 :=
    fun _ _ _ => (by decide : 400 ≤ 401 ∧ 401 < 600)
  have hClock : ∀ n, 0 ≤ n → n < 0 + 3 →
    oneHour.isExpired rejecting.oldest (rejecting.now n) = false := by decide
  obtain ⟨-, hLog, hNext⟩ := rejected_until_expiry (rfl : loggedIn.login = some oneHour) hRejected
    [.getUsers, .deleteUser "u", .getUsers] hClock
  exact ⟨congrArg List.length hLog, hNext .getUsers (by decide)⟩

end SdpK8sInjector.Common.Http
