import SdpK8sInjector.Common.Wire

/-! # The HTTP client of the SDP system

Every call first makes sure of a login, then sends one request that bears its token.
A message, or the answer to it, can be lost on the way; the `n`-th message meets the
`n`-th delivery. The log is a record of what was sent, which the client does not read.
-/

namespace SdpK8sInjector.Common

open Lib

namespace Http

inductive Method where
  | get
  | post
  | put
  | delete
deriving DecidableEq, Repr

structure HttpRequest where
  method : Method
  path : List String
  query : List (String × String)
  bearer : Option String
  body : Option Json

def HttpRequest.bearerAuth (request : HttpRequest) (token : String) : HttpRequest :=
  { request with bearer := some token }

/-- The text of a body comes with the JSON document that it is, if it is one. Without a body, reading it failed. -/
structure HttpResponse where
  status : Nat
  body : Option (String × Option Json)

/-- `reqwest::Error` -/
inductive RequestError where
  | send
  | body
  | decode
deriving DecidableEq, Repr

structure SDPClientError where
  requestError : Option RequestError
  statusCode : Option Nat
  errorBody : Option String
deriving DecidableEq, Repr

def SDPClientError.ofRequest (e : RequestError) : SDPClientError := ⟨some e, none, none⟩

def NO_CONTENT : Nat := 204

inductive ResponseData (D : Type) where
  | noContent
  | entity (data : D)
deriving DecidableEq, Repr

def errorForStatus {D : Type} (decode : Json → Option D) (response : HttpResponse) :
    Except SDPClientError (ResponseData D) :=
  if 400 ≤ response.status ∧ response.status < 600 then
    match response.body with
    | some (text, _) => .error ⟨none, some response.status, some text⟩
    | none => .error (.ofRequest .body)
  else if response.status = NO_CONTENT then .ok .noContent
  else
    match response.body.bind fun (_, json) => json.bind decode with
    | some data => .ok (.entity data)
    | none => .error (.ofRequest .decode)

/-- `set_path`. What is escaped in the segments is not modelled. -/
def setPath (path : String) : List String := (path.toList.splitOn '/').tail.map .ofList

/-- What the client is given: the controller, the ways to it and back, the clock, and `chrono`. -/
structure Network (Server : Type) where
  serve : HttpRequest → Server → HttpResponse × Server
  delivery : Nat → CallOutcome
  /-- The clock, as it is read before the `n`-th message. -/
  now : Nat → Int
  dateTime : String → Option Int
  /-- The first instant that can be represented. -/
  oldest : Int
  credentials : Credentials

inductive Sent where
  | login (now : Int) (answer : Option Login)
  | request (now : Int) (request : HttpRequest)

structure Session (Server : Type) where
  login : Option Login
  server : Server
  messages : Nat
  log : List Sent

end Http

open Http

def FIFTEEN_MINUTES : Int := 15 * 60 * 1000000000

/-- A login whose last minutes would begin before the first instant never expires. -/
def Login.isExpired (oldest : Int) (login : Login) (now : Int) : Bool :=
  if oldest ≤ login.expires - FIFTEEN_MINUTES then decide (login.expires - FIFTEEN_MINUTES ≤ now) else false

namespace Http

variable {Server D : Type} (net : Network Server)

namespace Network

def send (request : HttpRequest) (s : Session Server) : Except RequestError HttpResponse × Session Server :=
  let (response, server) := net.serve request s.server
  match net.delivery s.messages with
  | .requestLost => (.error .send, { s with messages := s.messages + 1 })
  | .replyLost => (.error .send, { s with server := server, messages := s.messages + 1 })
  | .delivered => (.ok response, { s with server := server, messages := s.messages + 1 })

def loginRequest : HttpRequest := ⟨.post, setPath "/admin/login", [], none, some net.credentials.serialize⟩

/-- What the client makes of the answer to a login. -/
def loginAnswer (response : HttpResponse) : Except SDPClientError Login :=
  match errorForStatus (Login.deserialize net.dateTime) response with
  | .error e => .error e
  | .ok .noContent => .error ⟨none, some NO_CONTENT, some "Expected Login instance, found nothing!"⟩
  | .ok (.entity login) => .ok login

end Network

namespace Session

def start (server : Server) : Session Server := ⟨none, server, 0, []⟩

def record (entry : Sent) (s : Session Server) : Session Server := { s with log := s.log ++ [entry] }

def authenticate (s : Session Server) : Except SDPClientError Login × Session Server :=
  match net.send net.loginRequest s with
  | (.error e, s) => (.error (.ofRequest e), s)
  | (.ok response, s) => (net.loginAnswer response, s)

def needsLogin (s : Session Server) : Bool :=
  match s.login with
  | some login => login.isExpired net.oldest (net.now s.messages)
  | none => true

def maybeRefreshLogin (s : Session Server) : Except SDPClientError Login × Session Server :=
  match s.login, s.needsLogin net with
  | some login, false => (.ok login, s)
  | _, _ =>
    match s.authenticate net with
    | (.error e, t) => (.error e, t.record (.login (net.now s.messages) none))
    | (.ok login, t) =>
      (.ok login, { t.record (.login (net.now s.messages) (some login)) with login := some login })

/-- What the methods begin with. -/
def authorized (request : HttpRequest) (s : Session Server) : Except SDPClientError HttpResponse × Session Server :=
  match s.maybeRefreshLogin net with
  | (.error e, t) => (.error e, t)
  | (.ok login, t) =>
    let request := request.bearerAuth login.token
    match net.send request (t.record (.request (net.now s.messages) request)) with
    | (.error e, t) => (.error (.ofRequest e), t)
    | (.ok response, t) => (.ok response, t)

/-- What the client makes of an answer that has to bring an entity. -/
def entityOf (decode : Json → Option D) (response : HttpResponse) : Except SDPClientError D :=
  match errorForStatus decode response with
  | .error e => .error e
  | .ok .noContent => .error ⟨none, some NO_CONTENT, some "Expected instance, found nothing!"⟩
  | .ok (.entity data) => .ok data

/-- `error_for_status::<Option<()>>`, whose data is not looked at. -/
def deletedOf (response : HttpResponse) : Except SDPClientError Unit :=
  match errorForStatus (fun | .null => some () | _ => none) response with
  | .error e => .error e
  | .ok _ => .ok ()

def exchange (answer : HttpResponse → Except SDPClientError D) (request : HttpRequest) (s : Session Server) :
    Except SDPClientError D × Session Server :=
  match s.authorized net request with
  | (.error e, s) => (.error e, s)
  | (.ok response, s) => (answer response, s)

def get (decode : Json → Option D) (path : List String) (query : List (String × String)) (s : Session Server) :
    Except SDPClientError D × Session Server :=
  s.exchange net (entityOf decode) ⟨.get, path, query, none, none⟩

def post (decode : Json → Option D) (path : List String) (data : Json) (s : Session Server) :
    Except SDPClientError D × Session Server :=
  s.exchange net (entityOf decode) ⟨.post, path, [], none, some data⟩

def put (decode : Json → Option D) (path : List String) (data : Json) (s : Session Server) :
    Except SDPClientError D × Session Server :=
  s.exchange net (entityOf decode) ⟨.put, path, [], none, some data⟩

def delete (path : List String) (s : Session Server) : Except SDPClientError Unit × Session Server :=
  s.exchange net deletedOf ⟨.delete, path, [], none, none⟩

/-! ## What a call does -/

/-- A message changes what is on the server, as serving it does or not at all, and nothing that the client holds. -/
structure Message (request : HttpRequest) (s : Session Server) (answer : Except RequestError HttpResponse)
    (t : Session Server) : Prop where
  login : t.login = s.login
  log : t.log = s.log
  messages : t.messages = s.messages + 1
  server : t.server = s.server ∨ t.server = (net.serve request s.server).2
  answered : ∀ response, answer = .ok response →
    response = (net.serve request s.server).1 ∧ t.server = (net.serve request s.server).2

variable {net} {request : HttpRequest} {s t : Session Server}

theorem message_of_send : Message net request s (net.send request s).1 (net.send request s).2 := by
  unfold Network.send
  cases net.delivery s.messages with
  | requestLost => exact ⟨rfl, rfl, rfl, .inl rfl, fun _ h => nomatch h⟩
  | replyLost => exact ⟨rfl, rfl, rfl, .inr rfl, fun _ h => nomatch h⟩
  | delivered =>
    refine ⟨rfl, rfl, rfl, .inr rfl, fun response h => ?_⟩
    cases h
    exact ⟨rfl, rfl⟩

/-- How a call comes by the login whose token it is to bear. -/
inductive Refreshes (net : Network Server) (s : Session Server) : Except SDPClientError Login →
    Session Server → Prop
  | held {login : Login} (hLogin : s.login = some login) (hFresh : s.needsLogin net = false) :
    Refreshes net s (.ok login) s
  | renewed {login : Login} {response : HttpResponse} {t : Session Server} (hNeeded : s.needsLogin net = true)
    (hSent : Message net net.loginRequest s (.ok response) t) (hAnswer : net.loginAnswer response = .ok login) :
    Refreshes net s (.ok login) { t.record (.login (net.now s.messages) (some login)) with login := some login }
  | refused {e : SDPClientError} {answer : Except RequestError HttpResponse} {t : Session Server}
    (hNeeded : s.needsLogin net = true) (hSent : Message net net.loginRequest s answer t) :
    Refreshes net s (.error e) (t.record (.login (net.now s.messages) none))

theorem refreshes (net : Network Server) (s : Session Server) :
    Refreshes net s (s.maybeRefreshLogin net).1 (s.maybeRefreshLogin net).2 := by
  have hSent : Message net net.loginRequest s (net.send net.loginRequest s).1 (net.send net.loginRequest s).2 :=
    message_of_send
  unfold maybeRefreshLogin
  split
  · rename_i login hLogin hFresh
    exact .held hLogin hFresh
  · rename_i hHeld
    have hNeeded : s.needsLogin net = true := by
      cases hLogin : s.login with
      | none => simp [needsLogin, hLogin]
      | some login =>
        cases hFresh : s.needsLogin net with
        | false => exact absurd hFresh (hHeld login hLogin)
        | true => rfl
    unfold authenticate
    cases hSend : net.send net.loginRequest s with
    | mk answer t =>
      rw [hSend] at hSent
      cases answer with
      | error e => exact .refused hNeeded hSent
      | ok response =>
        cases hAnswer : net.loginAnswer response with
        | error e => simpa [hAnswer] using .refused hNeeded hSent
        | ok login => simpa [hAnswer] using .renewed hNeeded hSent hAnswer

theorem Refreshes.of_fresh {result : Except SDPClientError Login} (h : Refreshes net s result t)
    (hFresh : s.needsLogin net = false) : ∃ login, s.login = some login ∧ result = .ok login ∧ t = s := by
  cases h with
  | held hLogin _ => exact ⟨_, hLogin, rfl, rfl⟩
  | renewed hNeeded => exact absurd hFresh (by simp [hNeeded])
  | refused hNeeded => exact absurd hFresh (by simp [hNeeded])

theorem Refreshes.of_needed {result : Except SDPClientError Login} (h : Refreshes net s result t)
    (hNeeded : s.needsLogin net = true) : t.log = s.log ++ [.login (net.now s.messages) result.toOption] := by
  cases h with
  | held _ hFresh => exact absurd hNeeded (by simp [hFresh])
  | renewed _ hSent => simp [record, hSent.log, Except.toOption]
  | refused _ hSent => simp [record, hSent.log, Except.toOption]

/-- A call ends without a login, or it sends its request with the token of the one it has. -/
inductive Exchanged (net : Network Server) (answer : HttpResponse → Except SDPClientError D) (request : HttpRequest)
    (s : Session Server) : Except SDPClientError D → Session Server → Prop
  | refused {e : SDPClientError} {t : Session Server} (hRefresh : Refreshes net s (.error e) t) :
    Exchanged net answer request s (.error e) t
  | lost {login : Login} {mid t : Session Server} {e : RequestError} (hRefresh : Refreshes net s (.ok login) mid)
    (hSent : Message net (request.bearerAuth login.token)
      (mid.record (.request (net.now s.messages) (request.bearerAuth login.token))) (.error e) t) :
    Exchanged net answer request s (.error (.ofRequest e)) t
  | answered {login : Login} {mid t : Session Server} {response : HttpResponse}
    (hRefresh : Refreshes net s (.ok login) mid)
    (hSent : Message net (request.bearerAuth login.token)
      (mid.record (.request (net.now s.messages) (request.bearerAuth login.token))) (.ok response) t) :
    Exchanged net answer request s (answer response) t

theorem exchanged (net : Network Server) (answer : HttpResponse → Except SDPClientError D) (request : HttpRequest)
    (s : Session Server) :
    Exchanged net answer request s (s.exchange net answer request).1 (s.exchange net answer request).2 := by
  have hRefresh := refreshes net s
  unfold exchange authorized
  cases hLogin : s.maybeRefreshLogin net with
  | mk result mid =>
    rw [hLogin] at hRefresh
    cases result with
    | error e => exact .refused hRefresh
    | ok login =>
      have hSent : Message net (request.bearerAuth login.token)
          (mid.record (.request (net.now s.messages) (request.bearerAuth login.token)))
          (net.send (request.bearerAuth login.token)
            (mid.record (.request (net.now s.messages) (request.bearerAuth login.token)))).1
          (net.send (request.bearerAuth login.token)
            (mid.record (.request (net.now s.messages) (request.bearerAuth login.token)))).2 := message_of_send
      dsimp only
      cases hSend : net.send (request.bearerAuth login.token)
          (mid.record (.request (net.now s.messages) (request.bearerAuth login.token))) with
      | mk reply t =>
        rw [hSend] at hSent
        cases reply with
        | error e => exact .lost hRefresh hSent
        | ok response => exact .answered hRefresh hSent

theorem entityOf_error {decode : Json → Option D} {response : HttpResponse}
    (h : 400 ≤ response.status ∧ response.status < 600) : ∃ e, entityOf decode response = .error e := by
  unfold entityOf errorForStatus
  rw [if_pos h]
  cases response.body with
  | none => exact ⟨_, rfl⟩
  | some body => exact ⟨_, rfl⟩

theorem deletedOf_error {response : HttpResponse} (h : 400 ≤ response.status ∧ response.status < 600) :
    ∃ e, deletedOf response = .error e := by
  unfold deletedOf errorForStatus
  rw [if_pos h]
  cases response.body with
  | none => exact ⟨_, rfl⟩
  | some body => exact ⟨_, rfl⟩

end Session

/-! ## Which token a request bears -/

/-- The login that the last successful one among the entries brought. -/
def obtained (log : List Sent) : Option Login :=
  log.foldl (fun held entry => match entry with | .login _ (some login) => some login | _ => held) none

@[simp] theorem obtained_login (log : List Sent) (now : Int) (login : Login) :
    obtained (log ++ [.login now (some login)]) = some login := by
  simp [obtained]

@[simp] theorem obtained_refused (log : List Sent) (now : Int) :
    obtained (log ++ [.login now none]) = obtained log := by
  simp [obtained]

@[simp] theorem obtained_request (log : List Sent) (now : Int) (request : HttpRequest) :
    obtained (log ++ [.request now request]) = obtained log := by
  simp [obtained]

/-- A request bears the token of the last login, which was not expired then or had just been made for it; and a
login is asked for only by a client that has none, or an expired one. -/
def Due (oldest : Int) (pre : List Sent) : Sent → Prop
  | .request now request => ∃ login, obtained pre = some login ∧ request.bearer = some login.token ∧
      (login.isExpired oldest now = false ∨ ∃ before, pre = before ++ [.login now (some login)])
  | .login now _ => ∀ login, obtained pre = some login → login.isExpired oldest now = true

def Disciplined (oldest : Int) (log : List Sent) : Prop :=
  ∀ pre entry post, log = pre ++ entry :: post → Due oldest pre entry

theorem Disciplined.concat {oldest : Int} {log : List Sent} {entry : Sent} (h : Disciplined oldest log)
    (hDue : Due oldest log entry) : Disciplined oldest (log ++ [entry]) := by
  intro pre e post hEq
  rcases List.eq_nil_or_concat post with rfl | ⟨post, last, rfl⟩
  · obtain ⟨rfl, hLast⟩ := List.append_inj' hEq rfl
    obtain rfl := List.singleton_inj.mp hLast
    exact hDue
  · rw [List.concat_eq_append, ← List.cons_append, ← List.append_assoc] at hEq
    exact h pre e post (List.append_inj_left' hEq rfl)

/-- What the client holds is what its log accounts for. -/
structure Accounted (net : Network Server) (s : Session Server) : Prop where
  login : s.login = obtained s.log
  messages : s.messages = s.log.length
  disciplined : Disciplined net.oldest s.log

namespace Accounted

variable {net} {s t : Session Server} {request : HttpRequest}

theorem start (server : Server) : Accounted net (Session.start server) where
  login := rfl
  messages := rfl
  disciplined pre entry post h := by simp [Session.start] at h

theorem sent {entry : Sent} (h : Accounted net s) (hDue : Due net.oldest s.log entry)
    (hLog : t.log = s.log ++ [entry]) (hMessages : t.messages = s.messages + 1)
    (hLogin : t.login = obtained (s.log ++ [entry])) : Accounted net t where
  login := hLog ▸ hLogin
  messages := by rw [hLog, hMessages, h.messages, List.length_append, List.length_singleton]
  disciplined := hLog ▸ h.disciplined.concat hDue

theorem due_login (h : Accounted net s) (hNeeded : s.needsLogin net = true) (answer : Option Login) :
    Due net.oldest s.log (.login (net.now s.messages) answer) := by
  intro held hHeld
  rw [Session.needsLogin, h.login, hHeld] at hNeeded
  exact hNeeded

variable (request) in
theorem refreshed {result : Except SDPClientError Login} (h : Accounted net s) (hRefresh : s.Refreshes net result t) :
    Accounted net t ∧ ∀ login, result = .ok login → Due net.oldest t.log
      (.request (net.now s.messages) (request.bearerAuth login.token)) := by
  cases hRefresh with
  | held hLogin hFresh =>
    refine ⟨h, fun login hResult => ⟨login, ?_, rfl, .inl ?_⟩⟩
    · cases hResult
      exact h.login.symm.trans hLogin
    · cases hResult
      simpa [Session.needsLogin, hLogin] using hFresh
  | @renewed made response u hNeeded hSent hAnswer =>
    refine ⟨h.sent (h.due_login hNeeded (some made)) ?_ hSent.messages ?_, fun login hResult => ?_⟩
    · simp [Session.record, hSent.log]
    · simp
    · cases hResult
      exact ⟨made, obtained_login _ _ _, rfl, .inr ⟨_, rfl⟩⟩
  | @refused e answer u hNeeded hSent =>
    refine ⟨h.sent (h.due_login hNeeded none) ?_ hSent.messages ?_, fun login hResult => by cases hResult⟩
    · simp [Session.record, hSent.log]
    · rw [obtained_refused, ← h.login]
      exact hSent.login

/-- A call keeps the account, whatever becomes of its messages. -/
theorem exchanged {answer : HttpResponse → Except SDPClientError D} {result : Except SDPClientError D}
    (h : Accounted net s) (hExchange : s.Exchanged net answer request result t) : Accounted net t := by
  have hRequest : ∀ {login : Login} {mid t : Session Server} {reply : Except RequestError HttpResponse},
      s.Refreshes net (.ok login) mid →
      Session.Message net (request.bearerAuth login.token)
        (mid.record (.request (net.now s.messages) (request.bearerAuth login.token))) reply t → Accounted net t := by
    intro login mid t reply hRefresh hSent
    obtain ⟨hMid, hDue⟩ := h.refreshed request hRefresh
    refine hMid.sent (hDue login rfl) hSent.log hSent.messages ?_
    rw [obtained_request, ← hMid.login]
    exact hSent.login
  cases hExchange with
  | refused hRefresh => exact (h.refreshed request hRefresh).1
  | lost hRefresh hSent => exact hRequest hRefresh hSent
  | answered hRefresh hSent => exact hRequest hRefresh hSent

end Accounted

end Http

end SdpK8sInjector.Common
