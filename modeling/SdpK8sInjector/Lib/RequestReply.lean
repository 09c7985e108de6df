import SdpK8sInjector.Lib.Lists
import Mathlib.Data.List.Nodup
import SdpK8sInjector.Lib.Channel
import SdpK8sInjector.Lib.Transition

/-! # Requests to a server, each with a reply channel of its own

A caller puts its request into a bounded queue and waits for the reply on a channel
that has room for one. The server takes one request after the other, and deals with
other messages in between. A caller can give up at any time, which closes its reply
channel; what is in the queue stays there.
-/

namespace SdpK8sInjector.Lib

/-- What a server answers to a request, with what it draws for it, and what another message makes of its state. -/
structure Server (State Request Draw Reply Message : Type) where
  answer : Request → Draw → State → Reply × State
  handle : Message → State → State

inductive CallState (Reply : Type) where
  | sending
  | waiting
  | returned (reply : Reply)
  | gaveUp
deriving DecidableEq

structure Call (Request Reply : Type) where
  request : Request
  state : CallState Reply
  replies : List Reply
deriving DecidableEq

/-- What the server has dealt with: the request of a caller or another message. -/
inductive Dealt (Request Draw Message : Type) where
  | request (caller : Nat) (request : Request) (draw : Draw)
  | message (msg : Message)
deriving DecidableEq

def Dealt.caller {Request Draw Message : Type} : Dealt Request Draw Message → Option Nat
  | .request caller _ _ => some caller
  | .message _ => none

structure Exchange (State Request Draw Reply Message : Type) where
  server : State
  /-- The callers whose requests were sent. -/
  queue : Channel Nat
  /-- What the server is sending. -/
  replying : Option (Nat × Reply)
  calls : List (Call Request Reply)
  log : List (Dealt Request Draw Message)

namespace Call

variable {Request Reply : Type}

def start (request : Request) : Call Request Reply := ⟨request, .sending, []⟩

def sent (c : Call Request Reply) : Option (Call Request Reply) :=
  match c.state with
  | .sending => some { c with state := .waiting }
  | .waiting | .returned _ | .gaveUp => none

/-- The reply that is next in the channel is what the call returns. -/
def receive (c : Call Request Reply) : Option (Call Request Reply) :=
  match c.state, c.replies with
  | .waiting, reply :: _ => some { c with state := .returned reply, replies := [] }
  | _, _ => none

def giveUp (c : Call Request Reply) : Option (Call Request Reply) :=
  match c.state with
  | .sending | .waiting => some { c with state := .gaveUp, replies := [] }
  | .returned _ | .gaveUp => none

/-- A reply is lost on a channel that is closed, and waits for room in one that is not. -/
def reply (r : Reply) (c : Call Request Reply) : Option (Call Request Reply) :=
  match c.state with
  | .sending | .waiting => if c.replies.length < 1 then some { c with replies := c.replies ++ [r] } else none
  | .returned _ | .gaveUp => some c

def IsOpen (c : Call Request Reply) : Prop := c.state = .sending ∨ c.state = .waiting

theorem request_of_reply {c c' : Call Request Reply} {reply : Reply} (h : c.reply reply = some c') :
    c'.request = c.request ∧ c'.state = c.state := by
  unfold Call.reply at h
  split at h
  · split at h
    · cases h
      exact ⟨rfl, rfl⟩
    · cases h
  · split at h
    · cases h
      exact ⟨rfl, rfl⟩
    · cases h
  · cases h
    exact ⟨rfl, rfl⟩
  · cases h
    exact ⟨rfl, rfl⟩

theorem reply_of_closed {c c' : Call Request Reply} {reply : Reply} (h : c.reply reply = some c')
    (hClosed : ¬c.IsOpen) :
    c' = c := by
  unfold Call.reply at h
  split at h
  · exact absurd (.inl ‹_›) hClosed
  · exact absurd (.inr ‹_›) hClosed
  · cases h
    rfl
  · cases h
    rfl

theorem request_of_receive {c c' : Call Request Reply} (h : c.receive = some c') :
    c'.request = c.request ∧ c.IsOpen ∧ ¬c'.IsOpen := by
  unfold Call.receive at h
  split at h
  · cases h
    exact ⟨rfl, .inr ‹_›, by simp [IsOpen]⟩
  · cases h

theorem request_of_giveUp {c c' : Call Request Reply} (h : c.giveUp = some c') :
    c'.request = c.request ∧ c.IsOpen ∧ c'.state = .gaveUp := by
  unfold Call.giveUp at h
  split at h
  · cases h
    exact ⟨rfl, .inl ‹_›, rfl⟩
  · cases h
    exact ⟨rfl, .inr ‹_›, rfl⟩
  · cases h
  · cases h

end Call

namespace Exchange

variable {State Request Draw Reply Message : Type}

inductive Event (Request Draw Message : Type) where
  | call (request : Request)
  | send (caller : Nat)
  | take (draw : Draw)
  | reply
  | receive (caller : Nat)
  | giveUp (caller : Nat)
  | handle (msg : Message)

def start (server : State) : Exchange State Request Draw Reply Message := ⟨server, .empty, none, [], []⟩

/-- One call goes on, if it can. -/
def advance (s : Exchange State Request Draw Reply Message) (caller : Nat)
    (f : Call Request Reply → Option (Call Request Reply)) : Option (Exchange State Request Draw Reply Message) :=
  ((s.calls[caller]?).bind f).map fun c => { s with calls := s.calls.set caller c }

section Next

variable (srv : Server State Request Draw Reply Message) (capacity : Nat)

def next (s : Exchange State Request Draw Reply Message) :
    Event Request Draw Message → Option (Exchange State Request Draw Reply Message)
  | .call request => some { s with calls := s.calls ++ [.start request] }
  | .send caller =>
    if s.queue.pending.length < capacity then
      (s.advance caller Call.sent).map fun s => { s with queue := s.queue.send caller }
    else none
  | .take draw =>
    match s.replying, s.queue.recv with
    | none, some (caller, queue) =>
      (s.calls[caller]?).map fun c =>
        { s with
          server := (srv.answer c.request draw s.server).2
          queue := queue
          replying := some (caller, (srv.answer c.request draw s.server).1)
          log := s.log ++ [.request caller c.request draw] }
    | _, _ => none
  | .reply =>
    match s.replying with
    | some (caller, reply) => (s.advance caller (Call.reply reply)).map fun s => { s with replying := none }
    | none => none
  | .receive caller => s.advance caller Call.receive
  | .giveUp caller => s.advance caller Call.giveUp
  | .handle msg =>
    match s.replying with
    | some _ => none
    | none => some { s with server := srv.handle msg s.server, log := s.log ++ [.message msg] }

end Next

end Exchange

namespace Server

variable {State Request Draw Reply Message : Type} (srv : Server State Request Draw Reply Message)

def deal (s : State) : Dealt Request Draw Message → State
  | .request _ request draw => (srv.answer request draw s).2
  | .message msg => srv.handle msg s

/-- The state when all of it was dealt with, one after the other. -/
def after (s : State) (log : List (Dealt Request Draw Message)) : State := log.foldl srv.deal s

def answers (s : State) : List (Dealt Request Draw Message) → List (Nat × Reply)
  | [] => []
  | .request caller request draw :: rest =>
    (caller, (srv.answer request draw s).1) :: answers (srv.answer request draw s).2 rest
  | .message msg :: rest => answers (srv.handle msg s) rest

variable {srv} {s : State}

theorem after_concat (log : List (Dealt Request Draw Message)) (d : Dealt Request Draw Message) :
    srv.after s (log ++ [d]) = srv.deal (srv.after s log) d := by
  simp [after]

theorem answers_append (log rest : List (Dealt Request Draw Message)) :
    srv.answers s (log ++ rest) = srv.answers s log ++ srv.answers (srv.after s log) rest := by
  induction log generalizing s with
  | nil => rfl
  | cons d log ih =>
    cases d with
    | request caller request draw => exact congrArg _ ih
    | message msg => exact ih

theorem map_fst_answers (log : List (Dealt Request Draw Message)) :
    (srv.answers s log).map Prod.fst = log.filterMap Dealt.caller := by
  induction log generalizing s with
  | nil => rfl
  | cons d log ih =>
    cases d with
    | request caller request draw => exact congrArg (List.cons caller) ih
    | message msg => exact ih

/-- Each answer is that of the server in the state in which it met the request. -/
theorem mem_answers {log : List (Dealt Request Draw Message)} {caller : Nat} {reply : Reply} :
    (caller, reply) ∈ srv.answers s log ↔
      ∃ before request draw rest, log = before ++ .request caller request draw :: rest ∧
        reply = (srv.answer request draw (srv.after s before)).1 := by
  constructor
  · intro h
    induction log generalizing s with
    | nil => cases h
    | cons d log ih =>
      cases d with
      | request caller' request draw =>
        rcases List.mem_cons.mp h with hHead | hRest
        · cases hHead
          exact ⟨[], request, draw, log, rfl, rfl⟩
        · obtain ⟨before, request', draw', rest, rfl, rfl⟩ := ih hRest
          exact ⟨.request caller' request draw :: before, request', draw', rest, rfl, rfl⟩
      | message msg =>
        obtain ⟨before, request', draw', rest, rfl, rfl⟩ := ih h
        exact ⟨.message msg :: before, request', draw', rest, rfl, rfl⟩
  · rintro ⟨before, request, draw, rest, rfl, rfl⟩
    rw [answers_append]
    exact List.mem_append_right _ List.mem_cons_self

end Server

namespace Exchange

variable {State Request Draw Reply Message : Type} {srv : Server State Request Draw Reply Message} {capacity : Nat}
  {init : State} {s t : Exchange State Request Draw Reply Message}

theorem advance_eq_some {caller : Nat} {f : Call Request Reply → Option (Call Request Reply)} :
    s.advance caller f = some t ↔
      ∃ c c', s.calls[caller]? = some c ∧ f c = some c' ∧ t = { s with calls := s.calls.set caller c' } := by
  unfold advance
  rw [Option.map_eq_some_iff]
  constructor
  · rintro ⟨c', hBind, rfl⟩
    obtain ⟨c, hFound, hCall⟩ := Option.bind_eq_some_iff.mp hBind
    exact ⟨c, c', hFound, hCall, rfl⟩
  · rintro ⟨c, c', hFound, hCall, rfl⟩
    exact ⟨c', Option.bind_eq_some_iff.mpr ⟨c, hFound, hCall⟩, rfl⟩

/-- All that a step can do. -/
inductive Moves (srv : Server State Request Draw Reply Message) (capacity : Nat)
    (s : Exchange State Request Draw Reply Message) :
    Event Request Draw Message → Exchange State Request Draw Reply Message → Prop where
  | call (request : Request) : Moves srv capacity s (.call request) { s with calls := s.calls ++ [.start request] }
  | send {caller : Nat} {c : Call Request Reply} (found : s.calls[caller]? = some c) (sending : c.state = .sending)
      (room : s.queue.pending.length < capacity) : Moves srv capacity s (.send caller)
        { s with calls := s.calls.set caller { c with state := .waiting }, queue := s.queue.send caller }
  | take {caller : Nat} {queue : Channel Nat} {c : Call Request Reply} (draw : Draw) (idle : s.replying = none)
      (recv : s.queue.recv = some (caller, queue)) (found : s.calls[caller]? = some c) :
      Moves srv capacity s (.take draw)
        { s with
          server := (srv.answer c.request draw s.server).2
          queue := queue
          replying := some (caller, (srv.answer c.request draw s.server).1)
          log := s.log ++ [.request caller c.request draw] }
  | reply {caller : Nat} {reply : Reply} {c c' : Call Request Reply} (replying : s.replying = some (caller, reply))
      (found : s.calls[caller]? = some c) (sent : c.reply reply = some c') : Moves srv capacity s .reply
        { s with calls := s.calls.set caller c', replying := none }
  | receive {caller : Nat} {c c' : Call Request Reply} (found : s.calls[caller]? = some c)
    (received : c.receive = some c') :
      Moves srv capacity s (.receive caller) { s with calls := s.calls.set caller c' }
  | giveUp {caller : Nat} {c c' : Call Request Reply} (found : s.calls[caller]? = some c) (left : c.giveUp = some c') :
      Moves srv capacity s (.giveUp caller) { s with calls := s.calls.set caller c' }
  | handle (msg : Message) (idle : s.replying = none) : Moves srv capacity s (.handle msg)
      { s with server := srv.handle msg s.server, log := s.log ++ [.message msg] }

theorem moves_of_next {event : Event Request Draw Message} (hNext : s.next srv capacity event = some t) :
    Moves srv capacity s event t := by
  cases event with
  | call request =>
    cases hNext
    exact .call request
  | send caller =>
    rw [Exchange.next] at hNext
    split at hNext
    · rename_i hRoom
      obtain ⟨u, hAdvance, rfl⟩ := Option.map_eq_some_iff.mp hNext
      obtain ⟨c, c', hFound, hSent, rfl⟩ := advance_eq_some.mp hAdvance
      unfold Call.sent at hSent
      split at hSent
      · cases hSent
        exact .send hFound ‹_› hRoom
      all_goals cases hSent
    · cases hNext
  | take draw =>
    rw [Exchange.next] at hNext
    split at hNext
    · rename_i caller queue hIdle hRecv
      obtain ⟨c, hFound, rfl⟩ := Option.map_eq_some_iff.mp hNext
      exact .take draw hIdle hRecv hFound
    · cases hNext
  | reply =>
    rw [Exchange.next] at hNext
    split at hNext
    · rename_i caller reply hReplying
      obtain ⟨u, hAdvance, rfl⟩ := Option.map_eq_some_iff.mp hNext
      obtain ⟨c, c', hFound, hSent, rfl⟩ := advance_eq_some.mp hAdvance
      exact .reply hReplying hFound hSent
    · cases hNext
  | receive caller =>
    obtain ⟨c, c', hFound, hReceive, rfl⟩ := advance_eq_some.mp hNext
    exact .receive hFound hReceive
  | giveUp caller =>
    obtain ⟨c, c', hFound, hGiveUp, rfl⟩ := advance_eq_some.mp hNext
    exact .giveUp hFound hGiveUp
  | handle msg =>
    rw [Exchange.next] at hNext
    split at hNext
    · cases hNext
    · cases hNext
      exact .handle msg ‹_›

theorem dealt_next {event : Event Request Draw Message} (hNext : s.next srv capacity event = some t) :
    (t.log = s.log ∧ t.server = s.server) ∨ ∃ d, t.log = s.log ++ [d] ∧ t.server = srv.deal s.server d ∧
      ∀ caller, d.caller = some caller → ∃ reply, t.replying = some (caller, reply) := by
  cases moves_of_next hNext with
  | call | send | reply | receive | giveUp => exact .inl ⟨rfl, rfl⟩
  | take draw =>
    refine .inr ⟨_, rfl, rfl, fun caller hCaller => ?_⟩
    cases hCaller
    exact ⟨_, rfl⟩
  | handle msg => exact .inr ⟨_, rfl, rfl, fun _ hCaller => by cases hCaller⟩

/-- Where the request of a call is, and its reply. -/
def Placed (answers : List (Nat × Reply)) (s : Exchange State Request Draw Reply Message) (caller : Nat)
    (c : Call Request Reply) : Prop :=
  match c.state with
  | .sending => caller ∉ s.queue.history ∧ c.replies = []
  | .waiting =>
    (caller ∈ s.queue.pending ∧ c.replies = []) ∨
      (∃ reply, s.replying = some (caller, reply) ∧ c.replies = []) ∨
      ∃ reply, (caller, reply) ∈ answers ∧ c.replies = [reply] ∧
        ∀ reply', s.replying ≠ some (caller, reply')
  | .returned reply => (caller, reply) ∈ answers ∧ c.replies = [] ∧
    ∀ reply', s.replying ≠ some (caller, reply')
  | .gaveUp => c.replies = []

/-- The server has dealt with what it logged, in the order in which the requests were sent. -/
structure Consistent (srv : Server State Request Draw Reply Message) (init : State)
    (s : Exchange State Request Draw Reply Message) : Prop where
  server : s.server = srv.after init s.log
  received : s.queue.received = (srv.answers init s.log).map Prod.fst
  nodup : s.queue.history.Nodup
  known : ∀ caller ∈ s.queue.history, caller < s.calls.length
  asked : ∀ caller request draw, .request caller request draw ∈ s.log →
    ∃ c, s.calls[caller]? = some c ∧ c.request = request
  replying : ∀ answer, s.replying = some answer → answer ∈ srv.answers init s.log
  placed : ∀ caller c, s.calls[caller]? = some c → s.Placed (srv.answers init s.log) caller c

theorem consistent_start (init : State) :
    (start init : Exchange State Request Draw Reply Message).Consistent srv init where
  server := rfl
  received := rfl
  nodup := List.nodup_nil
  known _ h := by cases h
  asked _ _ _ h := by cases h
  replying _ h := by cases h
  placed _ _ h := by cases h

namespace Consistent

theorem mem_received (h : s.Consistent srv init) {caller : Nat} {reply : Reply}
    (hAnswer : (caller, reply) ∈ srv.answers init s.log) : caller ∈ s.queue.received := by
  rw [h.received]
  exact List.mem_map_of_mem hAnswer

theorem not_pending (h : s.Consistent srv init) {caller : Nat} {reply : Reply}
    (hAnswer : (caller, reply) ∈ srv.answers init s.log) : caller ∉ s.queue.pending :=
  fun hPending => (List.nodup_append.mp h.nodup).2.2 caller (h.mem_received hAnswer) caller hPending rfl

theorem answer_unique (h : s.Consistent srv init) {caller : Nat} {reply reply' : Reply}
    (hAnswer : (caller, reply) ∈ srv.answers init s.log) (hAnswer' : (caller, reply') ∈ srv.answers init s.log) :
    reply = reply' := by
  have hNodup : ((srv.answers init s.log).map Prod.fst).Nodup := by
    rw [← h.received]
    exact (List.nodup_append.mp h.nodup).1
  exact congrArg Prod.snd (List.inj_on_of_nodup_map hNodup hAnswer hAnswer' rfl)

theorem call (h : s.Consistent srv init) (request : Request) :
    ({ s with calls := s.calls ++ [.start request] } : Exchange _ _ _ _ _).Consistent srv init where
  server := h.server
  received := h.received
  nodup := h.nodup
  known caller hSent := Nat.lt_of_lt_of_le (h.known caller hSent) (by simp)
  asked caller request draw hLog := by
    obtain ⟨c, hFound, hRequest⟩ := h.asked caller request draw hLog
    exact ⟨c, by rw [List.getElem?_append_left (List.getElem?_eq_some_iff.mp hFound).1, hFound], hRequest⟩
  replying := h.replying
  placed caller c hFound := by
    rcases getElem?_concat_cases hFound with hOld | ⟨rfl, rfl⟩
    · exact h.placed caller c hOld
    · exact ⟨fun hSent => absurd (h.known _ hSent) (Nat.lt_irrefl _), rfl⟩

theorem asked_set (h : s.Consistent srv init) {caller : Nat} {c c' : Call Request Reply}
    (hFound : s.calls[caller]? = some c) (hRequest : c'.request = c.request) {other : Nat} {request : Request}
    {draw : Draw} (hLog : .request other request draw ∈ s.log) :
    ∃ d, (s.calls.set caller c')[other]? = some d ∧ d.request = request := by
  obtain ⟨d, hOther, hAsked⟩ := h.asked other request draw hLog
  by_cases hSame : caller = other
  · subst hSame
    cases hFound.symm.trans hOther
    exact ⟨c', List.getElem?_set_self (List.getElem?_eq_some_iff.mp hFound).1, hRequest.trans hAsked⟩
  · exact ⟨d, (List.getElem?_set_ne hSame).trans hOther, hAsked⟩

/-- A call that goes on keeps its request and stays where the others are. -/
theorem advance (h : s.Consistent srv init) {caller : Nat} {c c' : Call Request Reply}
    (hFound : s.calls[caller]? = some c)
    (hRequest : c'.request = c.request) (hPlaced : s.Placed (srv.answers init s.log) caller c') :
    ({ s with calls := s.calls.set caller c' } : Exchange _ _ _ _ _).Consistent srv init where
  server := h.server
  received := h.received
  nodup := h.nodup
  known caller hSent := by
    rw [List.length_set]
    exact h.known caller hSent
  asked _ _ _ hLog := h.asked_set hFound hRequest hLog
  replying := h.replying
  placed other d hOther := by
    rcases getElem?_set_cases hOther with ⟨rfl, rfl⟩ | ⟨-, hOld⟩
    · exact hPlaced
    · exact h.placed other d hOld

theorem send (h : s.Consistent srv init) {caller : Nat} {c : Call Request Reply} (hFound : s.calls[caller]? = some c)
    (hState : c.state = .sending) :
    ({ s with
        calls := s.calls.set caller { c with state := .waiting }
        queue := s.queue.send caller } : Exchange _ _ _ _ _).Consistent srv init := by
  have hSending : caller ∉ s.queue.history ∧ c.replies = [] := by
    have hPlaced := h.placed caller c hFound
    rw [Placed, hState] at hPlaced
    exact hPlaced
  have hRequest : ({ c with state := .waiting } : Call Request Reply).request = c.request := rfl
  refine
    { server := h.server
      received := h.received
      nodup := ?_
      known := ?_
      asked := fun _ _ _ hLog => h.asked_set hFound hRequest hLog
      replying := h.replying
      placed := ?_ }
  · rw [Channel.history_send]
    exact List.nodup_append.mpr ⟨h.nodup, List.nodup_singleton _, by
      intro a ha b hb hEq
      rw [List.mem_singleton.mp hb] at hEq
      exact hSending.1 (hEq ▸ ha)⟩
  · intro other hSent
    rw [List.length_set]
    rw [Channel.history_send] at hSent
    rcases List.mem_append.mp hSent with hOld | hNew
    · exact h.known other hOld
    · rw [List.mem_singleton.mp hNew]
      exact (List.getElem?_eq_some_iff.mp hFound).1
  · intro other d hOther
    rcases getElem?_set_cases hOther with ⟨rfl, rfl⟩ | ⟨hNe, hOld⟩
    · exact .inl ⟨by simp, hSending.2⟩
    · have hPlaced := h.placed other d hOld
      unfold Placed at hPlaced ⊢
      cases hState' : d.state with
      | sending =>
        rw [hState'] at hPlaced
        refine ⟨?_, hPlaced.2⟩
        rw [Channel.history_send]
        simpa [hNe] using hPlaced.1
      | waiting =>
        rw [hState'] at hPlaced
        refine hPlaced.imp_left fun hPending => ⟨?_, hPending.2⟩
        exact List.mem_append_left _ hPending.1
      | returned reply =>
        rw [hState'] at hPlaced
        exact hPlaced
      | gaveUp =>
        rw [hState'] at hPlaced
        exact hPlaced

theorem take (h : s.Consistent srv init) (hIdle : s.replying = none) {caller : Nat} {queue : Channel Nat}
    (hRecv : s.queue.recv = some (caller, queue)) {c : Call Request Reply} (hFound : s.calls[caller]? = some c)
    (draw : Draw) :
    ({ s with
        server := (srv.answer c.request draw s.server).2
        queue := queue
        replying := some (caller, (srv.answer c.request draw s.server).1)
        log := s.log ++ [.request caller c.request draw] } : Exchange _ _ _ _ _).Consistent srv init := by
  obtain ⟨rest, hPending, rfl⟩ := Channel.recv_eq_some.mp hRecv
  have hHistory : s.queue.history = s.queue.received ++ caller :: rest := by rw [Channel.history, hPending]
  have hNodup := h.nodup
  have hAnswers : srv.answers init (s.log ++ [.request caller c.request draw]) =
      srv.answers init s.log ++ [(caller, (srv.answer c.request draw s.server).1)] := by
    rw [Server.answers_append, h.server]
    rfl
  refine
    { server := ?_
      received := ?_
      nodup := ?_
      known := ?_
      asked := ?_
      replying := ?_
      placed := ?_ }
  · rw [Server.after_concat, ← h.server]
    rfl
  · rw [hAnswers, List.map_append, ← h.received]
    rfl
  · rw [Channel.history_recv hRecv]
    exact hNodup
  · rw [Channel.history_recv hRecv]
    exact h.known
  · intro other request draw' hLog
    rcases List.mem_append.mp hLog with hOld | hNew
    · exact h.asked other request draw' hOld
    · cases List.mem_singleton.mp hNew
      exact ⟨c, hFound, rfl⟩
  · rintro answer ⟨⟩
    rw [hAnswers]
    exact List.mem_append_right _ (List.mem_singleton_self _)
  · intro other d hOther
    have hPlaced := h.placed other d hOther
    -- a caller that has its answer is not the one that is taken now
    have hNext : ∀ reply, (other, reply) ∈ srv.answers init s.log → other ≠ caller := by
      rintro reply hAnswer rfl
      exact h.not_pending hAnswer (hPending ▸ List.mem_cons_self)
    unfold Placed at hPlaced ⊢
    cases hState : d.state with
    | sending =>
      rw [hState] at hPlaced
      rw [Channel.history_recv hRecv]
      exact hPlaced
    | waiting =>
      rw [hState] at hPlaced
      rcases hPlaced with ⟨hWaits, hNone⟩ | ⟨reply, hReplying, -⟩ | ⟨reply, hAnswer, hReplies, -⟩
      · rw [hPending] at hWaits
        rcases List.mem_cons.mp hWaits with rfl | hRest
        · exact .inr (.inl ⟨_, rfl, hNone⟩)
        · exact .inl ⟨hRest, hNone⟩
      · rw [hIdle] at hReplying
        cases hReplying
      · refine .inr (.inr ⟨reply, hAnswers ▸ List.mem_append_left _ hAnswer,
          hReplies, fun reply' hReplying => ?_⟩)
        cases hReplying
        exact hNext reply hAnswer rfl
    | returned reply =>
      rw [hState] at hPlaced
      refine ⟨hAnswers ▸ List.mem_append_left _ hPlaced.1, hPlaced.2.1, fun reply' hReplying => ?_⟩
      cases hReplying
      exact hNext reply hPlaced.1 rfl
    | gaveUp =>
      rw [hState] at hPlaced
      exact hPlaced

/-- The reply is sent at once: either its channel is closed or it is empty. -/
theorem reply_cases (h : s.Consistent srv init) {caller : Nat} {reply : Reply}
    (hReplying : s.replying = some (caller, reply)) :
    ∃ c, s.calls[caller]? = some c ∧ c.replies = [] ∧
      ((c.state = .waiting ∧ Call.reply reply c = some { c with replies := [reply] }) ∨
        (c.state = .gaveUp ∧ Call.reply reply c = some c)) := by
  have hAnswer := h.replying _ hReplying
  have hSent : caller ∈ s.queue.history := Channel.mem_history_of_received (h.mem_received hAnswer)
  obtain ⟨c, hFound⟩ : ∃ c, s.calls[caller]? = some c := ⟨_, List.getElem?_eq_getElem (h.known caller hSent)⟩
  have hPlaced := h.placed caller c hFound
  refine ⟨c, hFound, ?_⟩
  unfold Placed at hPlaced
  unfold Call.reply
  cases hState : c.state with
  | sending =>
    rw [hState] at hPlaced
    exact absurd hSent hPlaced.1
  | waiting =>
    rw [hState] at hPlaced
    rcases hPlaced with ⟨hPending, -⟩ | ⟨reply', -, hNone⟩ | ⟨reply', -, -, hOther⟩
    · exact absurd hPending (h.not_pending hAnswer)
    · exact ⟨hNone, .inl ⟨rfl, by simp [hNone]⟩⟩
    · exact absurd hReplying (hOther reply)
  | returned reply' =>
    rw [hState] at hPlaced
    exact absurd hReplying (hPlaced.2.2 reply)
  | gaveUp =>
    rw [hState] at hPlaced
    exact ⟨hPlaced, .inr ⟨rfl, rfl⟩⟩

/-- Nothing is said of a call by what the server is sending to another one. -/
theorem replied (h : s.Consistent srv init) {caller : Nat} {reply : Reply}
    (hReplying : s.replying = some (caller, reply))
    {c c' : Call Request Reply} (hFound : s.calls[caller]? = some c) (hRequest : c'.request = c.request)
    (hPlaced : Placed (srv.answers init s.log) { s with replying := none } caller c') :
    ({ s with calls := s.calls.set caller c', replying := none } : Exchange _ _ _ _ _).Consistent srv init where
  server := h.server
  received := h.received
  nodup := h.nodup
  known caller hSent := by
    rw [List.length_set]
    exact h.known caller hSent
  asked _ _ _ hLog := h.asked_set hFound hRequest hLog
  replying _ hNone := by cases hNone
  placed other d hOther := by
    rcases getElem?_set_cases hOther with ⟨rfl, rfl⟩ | ⟨hNe, hOld⟩
    · exact hPlaced
    · have hOther := h.placed other d hOld
      unfold Placed at hOther ⊢
      cases hState : d.state with
      | sending =>
        rw [hState] at hOther
        exact hOther
      | waiting =>
        rw [hState] at hOther
        rcases hOther with hPending | ⟨reply', hSame, -⟩ | ⟨reply', hAnswer, hReplies, -⟩
        · exact .inl hPending
        · cases hReplying.symm.trans hSame
          exact absurd rfl hNe
        · exact .inr (.inr ⟨reply', hAnswer, hReplies, fun _ hNone => by cases hNone⟩)
      | returned reply' =>
        rw [hState] at hOther
        exact ⟨hOther.1, hOther.2.1, fun _ hNone => by cases hNone⟩
      | gaveUp =>
        rw [hState] at hOther
        exact hOther

theorem reply (h : s.Consistent srv init) {caller : Nat} {reply : Reply} (hReplying : s.replying = some (caller, reply))
    {c c' : Call Request Reply} (hFound : s.calls[caller]? = some c) (hReply : c.reply reply = some c') :
    ({ s with calls := s.calls.set caller c', replying := none } : Exchange _ _ _ _ _).Consistent srv init := by
  obtain ⟨d, hFound', hNone, hCases⟩ := h.reply_cases hReplying
  cases hFound.symm.trans hFound'
  rcases hCases with ⟨hState, hSent⟩ | ⟨hState, hSent⟩
  · cases hReply.symm.trans hSent
    refine h.replied hReplying hFound rfl ?_
    rw [Placed, hState]
    exact .inr (.inr ⟨reply, h.replying _ hReplying, rfl, fun _ hNone => by cases hNone⟩)
  · cases hReply.symm.trans hSent
    refine h.replied hReplying hFound rfl ?_
    rw [Placed, hState]
    exact hNone

theorem receive_cases (h : s.Consistent srv init) {caller : Nat} {c c' : Call Request Reply}
    (hFound : s.calls[caller]? = some c) (hReceive : c.receive = some c') :
    ∃ reply, (caller, reply) ∈ srv.answers init s.log ∧ (∀ reply', s.replying ≠ some (caller, reply')) ∧
      c' = { c with state := .returned reply, replies := [] } := by
  have hPlaced := h.placed caller c hFound
  unfold Call.receive at hReceive
  split at hReceive
  · rename_i reply rest hState hReplies
    cases hReceive
    rw [Placed, hState] at hPlaced
    rcases hPlaced with ⟨-, hNone⟩ | ⟨reply', -, hNone⟩ | ⟨reply', hAnswer, hOne, hOther⟩
    · cases hNone.symm.trans hReplies
    · cases hNone.symm.trans hReplies
    · cases hOne.symm.trans hReplies
      exact ⟨reply, hAnswer, hOther, rfl⟩
  · cases hReceive

theorem handle (h : s.Consistent srv init) (hIdle : s.replying = none) (msg : Message) :
    ({ s with server := srv.handle msg s.server, log := s.log ++ [.message msg] } : Exchange _ _ _ _ _).Consistent
      srv init := by
  have hAnswers : srv.answers init (s.log ++ [.message msg]) = srv.answers init s.log := by
    rw [Server.answers_append]
    exact List.append_nil _
  refine
    { server := ?_
      received := ?_
      nodup := h.nodup
      known := h.known
      asked := ?_
      replying := ?_
      placed := ?_ }
  · rw [Server.after_concat, ← h.server]
    rfl
  · rw [hAnswers]
    exact h.received
  · intro other request draw hLog
    rcases List.mem_append.mp hLog with hOld | hNew
    · exact h.asked other request draw hOld
    · cases List.mem_singleton.mp hNew
  · intro answer hReplying
    rw [hIdle] at hReplying
    cases hReplying
  · rw [hAnswers]
    exact h.placed

theorem next (h : s.Consistent srv init) {event : Event Request Draw Message}
    (hNext : s.next srv capacity event = some t) :
    t.Consistent srv init := by
  cases moves_of_next hNext with
  | call request => exact h.call request
  | send hFound hSending => exact h.send hFound hSending
  | take draw hIdle hRecv hFound => exact h.take hIdle hRecv hFound draw
  | reply hReplying hFound hSent => exact h.reply hReplying hFound hSent
  | receive hFound hReceive =>
    obtain ⟨reply, hAnswer, hOther, rfl⟩ := h.receive_cases hFound hReceive
    exact h.advance hFound rfl ⟨hAnswer, rfl, hOther⟩
  | giveUp hFound hGiveUp =>
    unfold Call.giveUp at hGiveUp
    split at hGiveUp
    · cases hGiveUp
      exact h.advance hFound rfl rfl
    · cases hGiveUp
      exact h.advance hFound rfl rfl
    · cases hGiveUp
    · cases hGiveUp
  | handle msg hIdle => exact h.handle hIdle msg

theorem of_steps {allowed : Exchange State Request Draw Reply Message → Event Request Draw Message → Prop}
    (hRun : Steps (fun s event => s.next srv capacity event) allowed s t) (h : s.Consistent srv init) :
    t.Consistent srv init :=
  hRun.invariant _ (fun _ _ _ hs _ hNext => hs.next hNext) h

theorem callers_eq (h : s.Consistent srv init) : s.queue.received = s.log.filterMap Dealt.caller := by
  rw [h.received, Server.map_fst_answers]

/-- A call that returned was dealt with once, and has the answer of the server in the state that it was in then. -/
theorem returned (h : s.Consistent srv init) {caller : Nat} {c : Call Request Reply}
    (hFound : s.calls[caller]? = some c)
    {reply : Reply} (hState : c.state = .returned reply) :
    ∃ before draw rest, s.log = before ++ .request caller c.request draw :: rest ∧
      reply = (srv.answer c.request draw (srv.after init before)).1 ∧
      caller ∉ before.filterMap Dealt.caller ∧ caller ∉ rest.filterMap Dealt.caller := by
  have hPlaced := h.placed caller c hFound
  rw [Placed, hState] at hPlaced
  obtain ⟨before, request, draw, rest, hLog, hReply⟩ := Server.mem_answers.mp hPlaced.1
  obtain ⟨d, hFound', hAsked⟩ := h.asked caller request draw (hLog ▸ List.mem_append_right _ List.mem_cons_self)
  cases hFound.symm.trans hFound'
  subst hAsked
  have hNodup : (s.log.filterMap Dealt.caller).Nodup := by
    rw [← h.callers_eq]
    exact (List.nodup_append.mp h.nodup).1
  rw [hLog, List.filterMap_append, List.nodup_append] at hNodup
  obtain ⟨-, hRest, hApart⟩ := hNodup
  exact ⟨before, draw, rest, hLog, hReply, fun hBefore => hApart caller hBefore caller List.mem_cons_self rfl,
    (List.nodup_cons.mp hRest).1⟩

theorem isSome_reply (h : s.Consistent srv init) (capacity : Nat) (hReplying : s.replying.isSome = true) :
    (s.next srv capacity .reply).isSome = true := by
  obtain ⟨⟨caller, reply⟩, hReplying⟩ := Option.isSome_iff_exists.mp hReplying
  obtain ⟨c, hFound, -, ⟨-, hSent⟩ | ⟨-, hSent⟩⟩ := h.reply_cases hReplying <;>
    simp [Exchange.next, hReplying, Exchange.advance, hFound, hSent]

theorem isSome_take (h : s.Consistent srv init) (capacity : Nat) (hIdle : s.replying = none)
    (hPending : s.queue.pending ≠ []) (draw : Draw) :
    (s.next srv capacity (.take draw)).isSome = true := by
  obtain ⟨caller, rest, hPending⟩ := List.exists_cons_of_ne_nil hPending
  have hRecv : s.queue.recv = some (caller, ⟨s.queue.received ++ [caller], rest⟩) :=
    Channel.recv_eq_some.mpr ⟨rest, hPending, rfl⟩
  have hSent : caller ∈ s.queue.history := Channel.mem_history_of_pending (hPending ▸ List.mem_cons_self)
  simp [Exchange.next, hIdle, hRecv, List.getElem?_eq_getElem (h.known caller hSent)]

end Consistent

/-- No other step lets the server deal with anything. -/
theorem same_next {event : Event Request Draw Message} (hNext : s.next srv capacity event = some t)
    (hTake : ∀ draw, event ≠ .take draw) (hHandle : ∀ msg, event ≠ .handle msg) :
    t.log = s.log ∧ t.server = s.server := by
  cases moves_of_next hNext with
  | call | send | reply | receive | giveUp => exact ⟨rfl, rfl⟩
  | take draw => exact absurd rfl (hTake draw)
  | handle msg => exact absurd rfl (hHandle msg)

theorem length_pending_next {event : Event Request Draw Message} (hNext : s.next srv capacity event = some t)
    (h : s.queue.pending.length ≤ capacity) : t.queue.pending.length ≤ capacity := by
  cases moves_of_next hNext with
  | call | reply | receive | giveUp | handle => exact h
  | send hFound hSending hRoom =>
    rw [Channel.pending_send, List.length_append]
    exact hRoom
  | take draw hIdle hRecv =>
    obtain ⟨rest, hPending, rfl⟩ := Channel.recv_eq_some.mp hRecv
    rw [hPending] at h
    exact Nat.le_trans (Nat.le_succ _) h

theorem calls_next {event : Event Request Draw Message} (hNext : s.next srv capacity event = some t) {i : Nat}
    {c' : Call Request Reply} (hFound : t.calls[i]? = some c') :
    (∃ c, s.calls[i]? = some c ∧ c'.request = c.request ∧ (c'.IsOpen → c.IsOpen)) ∨
      ∃ request, event = .call request ∧ i = s.calls.length ∧ c' = .start request := by
  have hSet : ∀ {caller : Nat} {d d' : Call Request Reply}, s.calls[caller]? = some d →
      (s.calls.set caller d')[i]? = some c' → d'.request = d.request → (d'.IsOpen → d.IsOpen) →
        ∃ c, s.calls[i]? = some c ∧ c'.request = c.request ∧ (c'.IsOpen → c.IsOpen) := by
    intro caller d d' hBefore hAfter hRequest hOpen
    rcases getElem?_set_cases hAfter with ⟨rfl, rfl⟩ | ⟨-, hOld⟩
    · exact ⟨d, hBefore, hRequest, hOpen⟩
    · exact ⟨c', hOld, rfl, id⟩
  cases moves_of_next hNext with
  | call request =>
    rcases getElem?_concat_cases hFound with hOld | ⟨rfl, rfl⟩
    · exact .inl ⟨c', hOld, rfl, id⟩
    · exact .inr ⟨request, rfl, rfl, rfl⟩
  | take | handle => exact .inl ⟨c', hFound, rfl, id⟩
  | send hBefore hSending => exact .inl (hSet hBefore hFound rfl fun _ => .inl hSending)
  | reply hReplying hBefore hSent =>
    obtain ⟨hRequest, hState⟩ := Call.request_of_reply hSent
    exact .inl (hSet hBefore hFound hRequest (by simp [Call.IsOpen, hState]))
  | receive hBefore hReceive =>
    obtain ⟨hRequest, hOpen, -⟩ := Call.request_of_receive hReceive
    exact .inl (hSet hBefore hFound hRequest fun _ => hOpen)
  | giveUp hBefore hGiveUp =>
    obtain ⟨hRequest, hOpen, -⟩ := Call.request_of_giveUp hGiveUp
    exact .inl (hSet hBefore hFound hRequest fun _ => hOpen)

/-- A call stays open until it returns or gives up. -/
theorem open_next {event : Event Request Draw Message} (hNext : s.next srv capacity event = some t) {i : Nat}
    {c : Call Request Reply} (hFound : s.calls[i]? = some c) (hOpen : c.IsOpen) (hReceive : event ≠ .receive i)
    (hGiveUp : event ≠ .giveUp i) : ∃ c', t.calls[i]? = some c' ∧ c'.request = c.request ∧ c'.IsOpen := by
  have hSet : ∀ {caller : Nat} {d d' : Call Request Reply}, s.calls[caller]? = some d →
      (i = caller → d'.request = d.request ∧ (d.IsOpen → d'.IsOpen)) →
        ∃ c', (s.calls.set caller d')[i]? = some c' ∧ c'.request = c.request ∧ c'.IsOpen := by
    intro caller d d' hBefore hSame
    by_cases hKey : i = caller
    · subst hKey
      cases hFound.symm.trans hBefore
      obtain ⟨hRequest, hStays⟩ := hSame rfl
      exact ⟨d', List.getElem?_set_self (List.getElem?_eq_some_iff.mp hFound).1, hRequest, hStays hOpen⟩
    · exact ⟨c, (List.getElem?_set_ne (Ne.symm hKey)).trans hFound, rfl, hOpen⟩
  cases moves_of_next hNext with
  | call request =>
    exact ⟨c, (List.getElem?_append_left (List.getElem?_eq_some_iff.mp hFound).1).trans hFound, rfl, hOpen⟩
  | take | handle => exact ⟨c, hFound, rfl, hOpen⟩
  | send hBefore hSending => exact hSet hBefore fun _ => ⟨rfl, fun _ => .inr rfl⟩
  | reply hReplying hBefore hSent =>
    obtain ⟨hRequest, hState⟩ := Call.request_of_reply hSent
    exact hSet hBefore fun _ => ⟨hRequest, by simp [Call.IsOpen, hState]⟩
  | receive hBefore => exact hSet hBefore fun hKey => absurd (by rw [hKey]) hReceive
  | giveUp hBefore => exact hSet hBefore fun hKey => absurd (by rw [hKey]) hGiveUp

theorem ended_next {event : Event Request Draw Message} (hNext : s.next srv capacity event = some t) {i : Nat}
    (hEnding : event = .receive i ∨ event = .giveUp i) {c : Call Request Reply} (hFound : t.calls[i]? = some c) :
    ¬c.IsOpen := by
  cases moves_of_next hNext with
  | call | send | take | reply | handle => rcases hEnding with hEnding | hEnding <;> cases hEnding
  | receive hBefore hReceive =>
    rcases hEnding with hEnding | hEnding
    · cases hEnding
      rw [List.getElem?_set_self (List.getElem?_eq_some_iff.mp hBefore).1] at hFound
      cases hFound
      exact (Call.request_of_receive hReceive).2.2
    · cases hEnding
  | giveUp hBefore hGiveUp =>
    rcases hEnding with hEnding | hEnding
    · cases hEnding
    · cases hEnding
      rw [List.getElem?_set_self (List.getElem?_eq_some_iff.mp hBefore).1] at hFound
      cases hFound
      rw [Call.IsOpen, (Call.request_of_giveUp hGiveUp).2.2]
      rintro (hSending | hWaiting)
      · cases hSending
      · cases hWaiting

theorem closed_next {event : Event Request Draw Message} (hNext : s.next srv capacity event = some t) {i : Nat}
    {c : Call Request Reply} (hFound : s.calls[i]? = some c) (hClosed : ¬c.IsOpen) : t.calls[i]? = some c := by
  have hSet : ∀ {caller : Nat} {d d' : Call Request Reply}, s.calls[caller]? = some d → (¬d.IsOpen → d' = d) →
      (s.calls.set caller d')[i]? = some c := by
    intro caller d d' hBefore hSame
    by_cases hKey : i = caller
    · subst hKey
      cases hFound.symm.trans hBefore
      rw [hSame hClosed, List.getElem?_set_self (List.getElem?_eq_some_iff.mp hFound).1]
    · exact (List.getElem?_set_ne (Ne.symm hKey)).trans hFound
  cases moves_of_next hNext with
  | call request => exact (List.getElem?_append_left (List.getElem?_eq_some_iff.mp hFound).1).trans hFound
  | take | handle => exact hFound
  | send hBefore hSending => exact hSet hBefore fun hNot => absurd (.inl hSending) hNot
  | reply hReplying hBefore hSent => exact hSet hBefore fun hNot => Call.reply_of_closed hSent hNot
  | receive hBefore hReceive => exact hSet hBefore fun hNot => absurd (Call.request_of_receive hReceive).2.1 hNot
  | giveUp hBefore hGiveUp => exact hSet hBefore fun hNot => absurd (Call.request_of_giveUp hGiveUp).2.1 hNot

theorem isSome_giveUp {i : Nat} {c : Call Request Reply} (hFound : s.calls[i]? = some c) (hOpen : c.IsOpen) :
    (s.next srv capacity (.giveUp i)).isSome = true := by
  rcases hOpen with hState | hState <;> simp [Exchange.next, advance, hFound, Call.giveUp, hState]

theorem length_calls_next {event : Event Request Draw Message} (hNext : s.next srv capacity event = some t) :
    s.calls.length ≤ t.calls.length := by
  cases moves_of_next hNext with
  | call => simp
  | take | handle => exact Nat.le_refl _
  | send | reply | receive | giveUp => simp

section Runs

variable {allowed : Exchange State Request Draw Reply Message → Event Request Draw Message → Prop}

theorem log_prefix (hRun : Steps (fun s event => s.next srv capacity event) allowed s t) : s.log <+: t.log :=
  hRun.invariant (fun t => s.log <+: t.log) (fun u _ _ hs _ hNext => by
    rcases dealt_next hNext with ⟨hSame, -⟩ | ⟨d, hMore, -, -⟩
    · rw [hSame]
      exact hs
    · rw [hMore]
      exact hs.trans (List.prefix_append _ _)) (List.prefix_refl _)

theorem length_pending_le (hRun : Steps (fun s event => s.next srv capacity event) allowed (start init) s) :
    s.queue.pending.length ≤ capacity :=
  hRun.invariant (fun s => s.queue.pending.length ≤ capacity) (fun _ _ _ hs _ hNext => length_pending_next hNext hs)
    (Nat.zero_le _)

end Runs

theorem Consistent.serve (h : s.Consistent srv init) (capacity : Nat) (hIdle : s.replying = none)
    {caller : Nat} {rest : List Nat}
    (hPending : s.queue.pending = caller :: rest) (draw : Draw) :
    ∃ t, run (fun s event => s.next srv capacity event) s [.take draw, .reply] = some t ∧ t.replying = none ∧
      t.queue.pending = rest ∧
      ∀ (i : Nat) (c : Call Request Reply), s.calls[i]? = some c →
        ∃ c', t.calls[i]? = some c' ∧ c'.state = c.state := by
  have hRecv : s.queue.recv = some (caller, ⟨s.queue.received ++ [caller], rest⟩) :=
    Channel.recv_eq_some.mpr ⟨rest, hPending, rfl⟩
  obtain ⟨u, hTake⟩ : ∃ u, s.next srv capacity (.take draw) = some u :=
    Option.isSome_iff_exists.mp (h.isSome_take capacity hIdle (by simp [hPending]) draw)
  have hTaken := hTake
  rw [Exchange.next, hIdle, hRecv] at hTaken
  obtain ⟨c, -, rfl⟩ := Option.map_eq_some_iff.mp hTaken
  have hConsistent := h.next hTake
  obtain ⟨t, hReply⟩ := Option.isSome_iff_exists.mp (hConsistent.isSome_reply capacity rfl)
  have hSent := hReply
  obtain ⟨v, hAdvance, hIdleEnd⟩ := Option.map_eq_some_iff.mp hSent
  obtain ⟨c, c', hFound, hCall, hSet⟩ := advance_eq_some.mp hAdvance
  refine ⟨t, ?_, ?_, ?_, fun i d hd => ?_⟩
  · rw [run, hTake, Option.bind_some, run, hReply, Option.bind_some]
    rfl
  · rw [← hIdleEnd]
  · rw [← hIdleEnd, hSet]
  · subst hIdleEnd hSet
    by_cases hSame : caller = i
    · subst hSame
      cases hFound.symm.trans hd
      refine ⟨c', List.getElem?_set_self (List.getElem?_eq_some_iff.mp hFound).1, ?_⟩
      obtain ⟨c₂, hFound₂, -, ⟨-, hSent⟩ | ⟨-, hSent⟩⟩ := hConsistent.reply_cases rfl <;>
      · cases hFound.symm.trans hFound₂
        cases hCall.symm.trans hSent
        rfl
    · exact ⟨d, (List.getElem?_set_ne hSame).trans hd, rfl⟩

/-- With one draw for each request in the queue, the server answers all of them without waiting for anybody. -/
theorem Consistent.drains (h : s.Consistent srv init) (capacity : Nat) (hIdle : s.replying = none) {draws : List Draw}
    (hDraws : draws.length = s.queue.pending.length) :
    ∃ t, run (fun s event => s.next srv capacity event) s (draws.flatMap fun draw => [.take draw, .reply]) =
      some t ∧ t.Consistent srv init ∧ t.replying = none ∧ t.queue.pending = [] ∧
      ∀ (i : Nat) (c : Call Request Reply), s.calls[i]? = some c →
        ∃ c', t.calls[i]? = some c' ∧ c'.state = c.state := by
  induction draws generalizing s with
  | nil => exact ⟨s, rfl, h, hIdle, List.length_eq_zero_iff.mp hDraws.symm, fun _ c hFound => ⟨c, hFound, rfl⟩⟩
  | cons draw draws ih =>
    obtain ⟨caller, rest, hPending⟩ := List.exists_cons_of_length_eq_add_one hDraws.symm
    obtain ⟨u, hServe, hIdle', hRest, hCalls⟩ := h.serve capacity hIdle hPending draw
    have hSteps : Steps (fun s event => s.next srv capacity event) (fun _ _ => True) s u :=
      Steps.of_run _ (Admits.of_forall (fun _ _ _ => trivial) s) hServe
    have hConsistent : u.Consistent srv init := Consistent.of_steps hSteps h
    obtain ⟨t, hRun, hEnd, hIdleEnd, hEmpty, hCallsEnd⟩ := ih hConsistent hIdle' (by
      rw [hRest]
      simpa [hPending] using hDraws)
    refine ⟨t, ?_, hEnd, hIdleEnd, hEmpty, fun i c hFound => ?_⟩
    · rw [List.flatMap_cons, run_append, hServe]
      exact hRun
    · obtain ⟨c', hFound', hState'⟩ := hCalls i c hFound
      obtain ⟨c'', hFound'', hState''⟩ := hCallsEnd i c' hFound'
      exact ⟨c'', hFound'', hState''.trans hState'⟩

end Exchange

end SdpK8sInjector.Lib
