import SdpK8sInjector.IdentityService.Replenishment
import SdpK8sInjector.IdentityService.Turns

/-! # Activations on their way

A new identity makes the creator activate its user, and the creator answers with
a notice for the service. Both messages carry a copy of the user. The notice is
matched by service only, so it is for whatever identity the service has by then.
-/

namespace SdpK8sInjector.IdentityService.Processes

open Lib Common IdentityManager

variable {outcomes : Nat → CallOutcome} {env : Surroundings}

/-- The service and the user of a notice. -/
def noticeOf : IdentityManagerProtocol → Option (String × ServiceUser)
  | .activatedServiceUser user serviceNs serviceName => some (formatServiceId serviceNs serviceName, user)
  | _ => none

/-- The services with an activation or its notice on the way, with the user that the message carries. -/
def inFlight (s : Processes) : List (String × ServiceUser) :=
  s.manager.identityCreatorQueue.pending.filterMap activates ++
    (s.manager.identityManagerQueue.pending ++ s.creator.outbox).filterMap noticeOf

theorem mem_inFlight {s : Processes} {key : String} {user : ServiceUser} :
    (key, user) ∈ s.inFlight ↔
      (∃ x ∈ s.manager.identityCreatorQueue.pending, activates x = some (key, user)) ∨
        ∃ x, (x ∈ s.manager.identityManagerQueue.pending ∨ x ∈ s.creator.outbox) ∧
          noticeOf x = some (key, user) := by
  simp [inFlight, or_and_right, exists_or]

/-- The creator renames the user whose activation it passes on. -/
theorem receive_notices (order : IterationOrder) (msg : IdentityCreatorProtocol) {c : IdentityCreator}
    (hOutbox : c.outbox = []) {x : IdentityManagerProtocol} (hx : x ∈ (c.receive env order msg).outbox) {key : String}
    {user : ServiceUser} (hNotice : noticeOf x = some (key, user)) :
    ∃ user', activates msg = some (key, user') ∧ user = { user' with name := user.name } := by
  have hInitialized : ∀ x ∈ (c.initializeFrom env).2.outbox, noticeOf x = none := by
    obtain ⟨listed, found, gone, created, hInit, -⟩ := IdentityCreator.initializeFrom_spec env c
    rw [hInit.outbox, hOutbox]
    intro x hx
    simp only [List.nil_append, List.mem_append, List.mem_map] at hx
    rcases hx with ⟨_, _, rfl⟩ | ⟨_, _, rfl⟩ <;> rfl
  rcases receive_cases env order msg c with ⟨_, status, ready, _, hReady, hEq⟩ | hEq | ⟨_, hEq⟩ <;>
    rw [hEq] at hx
  · have hNone : noticeOf x = none := by
      rcases List.mem_append.mp hx with hx | hx
      · exact hInitialized x hx
      · rcases hReady with rfl | rfl
        · cases hx
        · rw [List.mem_singleton.mp hx]
          rfl
    cases hNone.symm.trans hNotice
  · rw [hOutbox] at hx
    cases hx
  · cases IdentityCreator.handle_answer env order msg c with
    | silent hSame hDrawn =>
      rw [hSame, hOutbox] at hx
      cases hx
    | created user' hSame hId hDrawn hMsg =>
      rw [hSame, hOutbox] at hx
      rw [List.mem_singleton.mp hx] at hNotice
      cases hNotice
    | activated user' clusterId serviceNs serviceName labels userName hMsg hSame hDrawn =>
      rw [hSame, hOutbox] at hx
      rw [List.mem_singleton.mp hx] at hNotice
      cases hNotice
      exact ⟨user', by rw [hMsg]; rfl, rfl⟩

/-- Outside the manager nothing is activated afresh. -/
theorem move_inFlight {s t : Processes} {event : Event} (hMove : Move outcomes env s event t)
    (hEvent : ∀ order, event ≠ .handle order) :
    t.manager.identities = s.manager.identities ∧
      t.manager.identityCreatorQueue.history = s.manager.identityCreatorQueue.history ∧
      ∀ key user, (key, user) ∈ t.inFlight → ∃ user', (key, user') ∈ s.inFlight ∧
        user = { user' with name := user.name } := by
  cases hMove with
  | handle order => exact absurd rfl (hEvent order)
  | arrive msg hMsg =>
    have hOther : noticeOf msg = none := by cases msg <;> simp_all [isFromWatchers, noticeOf]
    refine ⟨rfl, rfl, fun key user hMem => ⟨user, ?_, rfl⟩⟩
    simpa [inFlight, sendToSelf, hOther] using hMem
  | deliver msg rest hOutbox =>
    refine ⟨rfl, rfl, fun key user hMem => ⟨user, ?_, rfl⟩⟩
    simpa [inFlight, sendToSelf, hOutbox] using hMem
  | receive order msg queue hOutbox hStatus hRecv =>
    obtain ⟨rest, hPending, hQueue⟩ := Channel.recv_eq_some.mp hRecv
    refine ⟨rfl, Channel.history_recv hRecv, fun key user hMem => ?_⟩
    rcases mem_inFlight.mp hMem with ⟨x, hx, hActivates⟩ | ⟨x, hx | hx, hNotice⟩
    · refine ⟨user, mem_inFlight.mpr (.inl ⟨x, ?_, hActivates⟩), rfl⟩
      rw [show (Processes.manager _).identityCreatorQueue = queue from rfl, hQueue] at hx
      exact hPending ▸ List.mem_cons_of_mem _ hx
    · exact ⟨user, mem_inFlight.mpr (.inr ⟨x, .inl hx, hNotice⟩), rfl⟩
    · obtain ⟨user', hActivates, hSame⟩ := receive_notices order msg hOutbox hx hNotice
      exact ⟨user', mem_inFlight.mpr (.inl ⟨msg, hPending ▸ List.mem_cons_self, hActivates⟩), hSame⟩

/-- The manager only takes a notice, or activates what it creates. -/
theorem handle_inFlight {s : Processes} {msg : IdentityManagerProtocol} {queue : Channel IdentityManagerProtocol}
    {order : IterationOrder} {requested : ServiceCandidate → Prop}
    {after : String → ServiceIdentity → ServiceIdentity}
    {named : List ServiceIdentity} {sent : List IdentityCreatorProtocol}
    (hRecv : s.manager.identityManagerQueue.recv = some (msg, queue))
    (hTurn : Turn requested after named { s.manager with identityManagerQueue := queue }
      (handle outcomes order msg { s.manager with identityManagerQueue := queue }) sent) {key :
      String} {user : ServiceUser}
    (hMem : (key, user) ∈ inFlight
      ⟨handle outcomes order msg { s.manager with identityManagerQueue := queue }, s.creator⟩) :
    (key, user) ∈ s.inFlight ∨ ∃ x ∈ sent, activates x = some (key, user) := by
  obtain ⟨rest, hPending, hQueue⟩ := Channel.recv_eq_some.mp hRecv
  rcases mem_inFlight.mp hMem with ⟨x, hx, hActivates⟩ | ⟨x, hx | hx, hNotice⟩
  · dsimp only at hx
    rw [hTurn.queue, Channel.pending_sendAll] at hx
    rcases List.mem_append.mp hx with hx | hx
    · exact .inl (mem_inFlight.mpr (.inl ⟨x, hx, hActivates⟩))
    · exact .inr ⟨x, hx, hActivates⟩
  · dsimp only at hx
    rw [handle_queue, Channel.pending_sendAll, hQueue] at hx
    rcases List.mem_append.mp hx with hx | hx
    · exact .inl (mem_inFlight.mpr (.inr ⟨x, .inl (hPending ▸ List.mem_cons_of_mem _ hx), hNotice⟩))
    · have hOther := (selfSent_kind hx).2.1
      cases x <;> simp_all [isFromCreator, noticeOf]
  · exact .inl (mem_inFlight.mpr (.inr ⟨x, .inr hx, hNotice⟩))

/-- How many messages of a kind the manager has sent to the creator. -/
def told (p : IdentityCreatorProtocol → Bool) (s : Processes) : Nat := s.manager.identityCreatorQueue.history.countP p

/-- How often the deletion of the identity with the given id was passed on to the creator. -/
abbrev removals (key : String) : Processes → Nat := told (removesIdentity key)

theorem told_handled {s : Processes} {msg : IdentityManagerProtocol} {queue : Channel IdentityManagerProtocol}
    {order : IterationOrder} {requested : ServiceCandidate → Prop}
    {after : String → ServiceIdentity → ServiceIdentity}
    {named : List ServiceIdentity} {sent : List IdentityCreatorProtocol} (p : IdentityCreatorProtocol → Bool)
    (hTurn : Turn requested after named { s.manager with identityManagerQueue := queue }
      (handle outcomes order msg { s.manager with identityManagerQueue := queue }) sent) :
    told p ⟨handle outcomes order msg { s.manager with identityManagerQueue := queue }, s.creator⟩ =
      s.told p + sent.countP p := by
  rw [told, hTurn.queue, Channel.history_sendAll, List.countP_append]
  rfl

theorem none_told {s : Processes} {msg : IdentityManagerProtocol} {queue : Channel IdentityManagerProtocol}
    {order : IterationOrder} {requested : ServiceCandidate → Prop}
    {after : String → ServiceIdentity → ServiceIdentity}
    {named : List ServiceIdentity} {sent : List IdentityCreatorProtocol} {p : IdentityCreatorProtocol → Bool}
    (hTurn : Turn requested after named { s.manager with identityManagerQueue := queue }
      (handle outcomes order msg { s.manager with identityManagerQueue := queue }) sent)
    (hKept : told p ⟨handle outcomes order msg { s.manager with identityManagerQueue := queue },
      s.creator⟩ = s.told p) :
    ∀ x ∈ sent, p x = false := by
  have hCount := told_handled p hTurn
  have hNone : sent.countP p = 0 := by omega
  intro x hx
  simpa using List.countP_eq_zero.mp hNone x hx

theorem told_le {s t : Processes} {event : Event} (p : IdentityCreatorProtocol → Bool)
    (hNext : next outcomes env s event = some t) : s.told p ≤ t.told p := by
  cases next_move outcomes env hNext with
  | handle order msg queue hRecv =>
    obtain ⟨sent, hTurn, -⟩ := handle_turn outcomes order msg { s.manager with identityManagerQueue := queue }
    have hCount := told_handled p hTurn
    dsimp only at hCount ⊢
    omega
  | arrive | deliver => exact le_rfl
  | receive order msg queue hOutbox hStatus hRecv =>
    exact le_of_eq (congrArg (List.countP p) (Channel.history_recv hRecv)).symm

section Notices

/-- What is on the way for a service is for the user that its identity holds. -/
def Faithful (s : Processes) : Prop :=
  ∀ key user, (key, user) ∈ s.inFlight → ∀ i, s.manager.identities.lookup key = some i →
    i.credentials.id = user.id

/-- No identity is created for a service with an activation on the way. -/
def CreationsSettled (s : Processes) : Event → Prop
  | .handle _ => ∀ msg ∈ s.manager.identityManagerQueue.pending.head?, ∀ key ∈ s.manager.createdIds msg,
      ∀ p ∈ s.inFlight, p.1 ≠ key
  | _ => True

/-- Only a notice changes the user, and it does not change the id if it is for the same user. -/
theorem id_heldAfter {key : String} {msg : IdentityManagerProtocol} {i : ServiceIdentity}
    (hNotice : ∀ user, noticeOf msg = some (key, user) → i.credentials.id = user.id) :
    (heldAfter key msg i).credentials.id = i.credentials.id := by
  cases msg with
  | activatedServiceUser user serviceNs serviceName =>
    simp only [heldAfter]
    split
    · rename_i hKey
      rw [ServiceIdentity.credentials_withUser]
      exact (hNotice user (by rw [noticeOf, hKey])).symm
    · rfl
  | releaseDeviceId lookup uuid =>
    simp only [heldAfter]
    split
    · exact credentials_id_recordDeviceId uuid i
    · rfl
  | _ => rfl

theorem mem_inFlight_of_notice {s : Processes} {msg : IdentityManagerProtocol} {queue : Channel IdentityManagerProtocol}
    (hRecv : s.manager.identityManagerQueue.recv = some (msg, queue)) {key : String} {user : ServiceUser}
    (hNotice : noticeOf msg = some (key, user)) : (key, user) ∈ s.inFlight := by
  obtain ⟨rest, hPending, _⟩ := Channel.recv_eq_some.mp hRecv
  exact mem_inFlight.mpr (.inr ⟨msg, .inl (hPending ▸ List.mem_cons_self), hNotice⟩)

theorem Faithful.step {s t : Processes} {event : Event} (h : Faithful s) (hAllowed : CreationsSettled s event)
    (hNext : next outcomes env s event = some t) : Faithful t := by
  have hMove := next_move outcomes env hNext
  intro key user hMem i' hLookup
  by_cases hHandle : ∃ order, event = .handle order
  · obtain ⟨order, rfl⟩ := hHandle
    cases hMove with
    | handle order msg queue hRecv =>
      let m : IdentityManager := { s.manager with identityManagerQueue := queue }
      obtain ⟨sent, hTurn, hQuiet⟩ := handle_turn outcomes order msg m
      rcases handle_inFlight hRecv hTurn hMem with hBefore | ⟨x, hx, hActivates⟩
      · rcases kept_or_created hTurn hQuiet hLookup with ⟨i, hi, rfl, -⟩ | hCreated
        · rw [id_heldAfter fun user' hNotice => h key user' (mem_inFlight_of_notice hRecv hNotice) i hi]
          exact h key user hBefore i hi
        · obtain ⟨rest, hPending, -⟩ := Channel.recv_eq_some.mp hRecv
          exact absurd rfl (hAllowed msg (by rw [hPending]; rfl) key hCreated _ hBefore)
      · obtain ⟨j, hj, rfl⟩ := hTurn.activated x hx key user hActivates
        cases hLookup.symm.trans hj
        rfl
  · obtain ⟨hIdentities, -, hFlight⟩ := move_inFlight hMove fun order hEq => hHandle ⟨order, hEq⟩
    obtain ⟨user', hBefore, hSame⟩ := hFlight key user hMem
    rw [hSame]
    exact h key user' hBefore i' (hIdentities ▸ hLookup)

/-- As long as it is not deleted, an identity keeps the id of its user. -/
theorem Faithful.held {s t : Processes} {event : Event} (h : Faithful s) (hNext : next outcomes env s event = some t)
    {key : String} (hKept : t.removals key = s.removals key) {i : ServiceIdentity}
    (hLookup : s.manager.identities.lookup key = some i) :
    ∃ i', t.manager.identities.lookup key = some i' ∧ i'.credentials.id = i.credentials.id := by
  have hMove := next_move outcomes env hNext
  by_cases hHandle : ∃ order, event = .handle order
  · obtain ⟨order, rfl⟩ := hHandle
    cases hMove with
    | handle order msg queue hRecv =>
      let m : IdentityManager := { s.manager with identityManagerQueue := queue }
      obtain ⟨sent, hTurn, -⟩ := handle_turn outcomes order msg m
      obtain ⟨hAfter, -⟩ := hTurn.kept key i hLookup (none_told hTurn hKept)
      exact ⟨_, hAfter, id_heldAfter fun user hNotice => h key user
        (mem_inFlight_of_notice hRecv hNotice) i hLookup⟩
  · obtain ⟨hIdentities, -⟩ := move_inFlight hMove fun order hEq => hHandle ⟨order, hEq⟩
    exact ⟨i, hIdentities ▸ hLookup, rfl⟩

theorem faithful_started {clusterId : String} {stored : List ServiceIdentity} {system : System} {secret : SecretApi}
    {poolSize : Nat} : Faithful (started clusterId stored system secret poolSize) := by
  obtain ⟨provider, hRestored⟩ := restored_frame clusterId stored
  intro key user hMem
  simp [inFlight, started, hRestored, IdentityCreator.new, new, sendToCreator, Channel.empty, Channel.send, activates]
    at hMem

/-- While identities are only created for services without an activation on the way, a notice is for the user that
the identity holds, and an identity keeps the id of its user until it is deleted. -/
theorem user_id_kept {clusterId : String} {stored : List ServiceIdentity} {system : System} {secret : SecretApi}
    {poolSize : Nat} {s t : Processes}
    (hStart : Steps (next outcomes env) CreationsSettled (started clusterId stored system secret poolSize) s)
    (hRun : Steps (next outcomes env) CreationsSettled s t) :
    (∀ user serviceNs serviceName i,
      s.manager.identityManagerQueue.pending.head? = some (.activatedServiceUser user serviceNs serviceName) →
      s.manager.identities.lookup (formatServiceId serviceNs serviceName) = some i → user.id = i.credentials.id) ∧
    ∀ key i, s.manager.identities.lookup key = some i → t.removals key = s.removals key →
      ∃ i', t.manager.identities.lookup key = some i' ∧ i'.credentials.id = i.credentials.id := by
  have hFaithful : Faithful s :=
    hStart.invariant Faithful (fun _ _ _ h hAllowed hNext => h.step hAllowed hNext) faithful_started
  refine ⟨fun user serviceNs serviceName i hHead hLookup => ?_, fun key i hLookup => ?_⟩
  · have hMem : (formatServiceId serviceNs serviceName, user) ∈ s.inFlight :=
      mem_inFlight.mpr (.inr ⟨_, .inl (List.mem_of_mem_head? hHead), rfl⟩)
    exact (hFaithful _ user hMem i hLookup).symm
  · have hInvariant : Faithful t ∧ s.removals key ≤ t.removals key ∧ (t.removals key = s.removals key →
        ∃ i', t.manager.identities.lookup key = some i' ∧ i'.credentials.id = i.credentials.id) := by
      refine hRun.invariant (fun t => Faithful t ∧ s.removals key ≤ t.removals key ∧
        (t.removals key = s.removals key →
        ∃ i', t.manager.identities.lookup key = some i' ∧ i'.credentials.id = i.credentials.id)) ?_
        ⟨hFaithful, le_rfl, fun _ => ⟨i, hLookup, rfl⟩⟩
      rintro u event v ⟨hFaithful, hLe, hHeld⟩ hAllowed hNext
      have hMore : u.removals key ≤ v.removals key := told_le (removesIdentity key) hNext
      refine ⟨hFaithful.step hAllowed hNext, hLe.trans hMore, fun hSame => ?_⟩
      obtain ⟨j, hj, hId⟩ := hHeld (by omega)
      obtain ⟨j', hj', hId'⟩ := hFaithful.held hNext (by omega) hj
      exact ⟨j', hj', hId'.trans hId⟩
    exact hInvariant.2.2

instance (s : Processes) : (event : Event) → Decidable (CreationsSettled s event)
  | .handle _ => inferInstanceAs (Decidable (∀ msg ∈ s.manager.identityManagerQueue.pending.head?,
      ∀ key ∈ s.manager.createdIds msg, ∀ p ∈ s.inFlight, p.1 ≠ key))
  | .arrive _ | .receive _ | .deliver => .isTrue trivial

abbrev sampleNext : Processes → Event → Option Processes :=
  next (fun _ => .delivered) (IdentityCreator.sampleSurroundings fun _ => .delivered)

/-- The creator makes the user that was asked for and activates the user of `a`. -/
def sampleActivation : List Event :=
  [.receive .asStored, .receive .asStored, .deliver, .receive .asStored, .deliver, .handle .asStored, .handle .asStored]

theorem user_id_kept_sample :
    ∃ i i', sampleReplenished.manager.identities.lookup "ns_a" = some i ∧
      (runD sampleNext sampleReplenished sampleActivation).manager.identities.lookup "ns_a" = some i' ∧
      i'.credentials.id = i.credentials.id := by
  obtain ⟨i, hi⟩ := Option.isSome_iff_exists.mp
    (show (sampleReplenished.manager.identities.lookup "ns_a").isSome = true by decide +kernel)
  obtain ⟨i', hi', hId⟩ := (user_id_kept (Steps.of_runD sampleRequested (by decide +kernel) (by decide +kernel))
    (Steps.of_runD sampleActivation (by decide +kernel) (by decide +kernel))).2 "ns_a" i hi (by decide +kernel)
  exact ⟨i, i', hi, hi', hId⟩

/-- Candidate `a` goes and comes back before its user is activated. -/
def sampleReturn : List Event :=
  [.arrive (.deletedServiceCandidate (sampleCandidate "a")), .handle .asStored, .handle .asStored,
    .arrive (.requestServiceIdentity (sampleCandidate "a")), .handle .asStored]

def sampleReturned : Processes := runD sampleNext sampleReplenished sampleReturn

/-- The new identity of `a` gets the user of the one that is gone. -/
theorem late_notice_changes_user :
    Steps sampleNext WatchersWait
    (started "cluster" [] ⟨⟨[], [], []⟩, 0, []⟩ ⟨some ⟨some ∅⟩, 0, []⟩ CREDENTIALS_POOL_SIZE)
      sampleReturned ∧
    Steps sampleNext WatchersWait sampleReturned (runD sampleNext sampleReturned sampleActivation) ∧
    (runD sampleNext sampleReturned sampleActivation).removals "ns_a" = sampleReturned.removals "ns_a" ∧
    (sampleReturned.manager.identities.lookup "ns_a").map (fun i => i.credentials.id) =
      some (IdentityCreator.sampleUuid 2).toString ∧
    ((runD sampleNext sampleReturned sampleActivation).manager.identities.lookup "ns_a").map
      (fun i => i.credentials.id) = some (IdentityCreator.sampleUuid 0).toString := by
  refine ⟨?_, Steps.of_runD sampleActivation (by decide +kernel) (by decide +kernel),
    by decide +kernel, by decide +kernel,
    by decide +kernel⟩
  exact (Steps.of_runD sampleRequested (by decide +kernel) (by decide +kernel)).trans
    (Steps.of_runD sampleReturn (by decide +kernel) (by decide +kernel))

end Notices

end SdpK8sInjector.IdentityService.Processes
