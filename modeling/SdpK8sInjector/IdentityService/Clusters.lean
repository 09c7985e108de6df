import SdpK8sInjector.IdentityService.Exclusive

/-! # Clusters that share a system

Every cluster has its own identity service and its own secret, and all of them list
the users of one controller. Nothing in a user tells which cluster it is of.
-/

namespace SdpK8sInjector.IdentityService

open Lib Common

namespace IdentityCreator

variable (env : Surroundings)

/-- The users that the creator goes through when it starts. -/
def goesThrough (c : IdentityCreator) : List SDPUser :=
  match c.system.getUsers env.systemOutcomes, env.clientProfileUrl c.profileRequests with
  | (.ok users, _), .ok _ => users
  | _, _ => []

theorem initializeFrom_goesThrough (c : IdentityCreator) :
    ∃ found gone created, Initialized env c (c.initializeFrom env).2 (c.goesThrough env) found gone created := by
  rcases initializeFrom_cases env c with ⟨system, e, hInit, hStore, hFailed⟩ |
    ⟨system, e, hInit, hStore, hUrl⟩ |
    ⟨url, hUrl, hUsers, hInit⟩
  · have hNobody : c.goesThrough env = [] := by
      unfold goesThrough
      split
      · rename_i users _ _ hUsers _
        rw [hUsers] at hFailed
        cases hFailed
      · rfl
    rw [hInit, hNobody]
    exact ⟨[], [], [], Initialized.early env rfl (congrArg Controller.deletedUsers hStore) rfl rfl⟩
  · have hNobody : c.goesThrough env = [] := by
      rw [goesThrough, hUrl]
      split <;> simp_all
    rw [hInit, hNobody]
    exact ⟨[], [], [], Initialized.early env rfl (congrArg Controller.deletedUsers hStore) rfl rfl⟩
  · have hListed : c.goesThrough env = c.listedUsers := by
      rw [goesThrough, hUrl, ← Prod.eta (c.system.getUsers env.systemOutcomes), hUsers]
    rw [hInit, hListed]
    exact initialized_of_fetched env c url

theorem deleteSdpUser_deletedUsers (u : SDPUser) (c : IdentityCreator) :
    ∃ gone, gone.Sublist [u.id] ∧
      (c.deleteSdpUser env u).2.system.store.deletedUsers = c.system.store.deletedUsers ++ gone := by
  have hDeleted : ∃ gone, gone.Sublist [u.id] ∧
      ((c.system.unregisterDeviceIdsForUsername env.systemOutcomes env.matchesUsername u.prefixName none none none
        false).2.deleteUser env.systemOutcomes u.id).2.store.deletedUsers = c.system.store.deletedUsers ++ gone := by
    have hDevices := System.unregisterDeviceIdsForUsername_sameUsers env.systemOutcomes env.matchesUsername c.system
      u.prefixName none none none false
    obtain ⟨gone, hGone, hLog, -⟩ := System.deleteUser_spec env.systemOutcomes
      (c.system.unregisterDeviceIdsForUsername env.systemOutcomes env.matchesUsername
        u.prefixName none none none false).2 u.id
    exact ⟨gone, hGone, hLog.trans (congrArg (· ++ gone) hDevices.deletedUsers)⟩
  unfold deleteSdpUser
  cases ServiceUser.fromSdpUser u "" none (some []) with
  | none => exact hDeleted
  | some serviceUser =>
    dsimp only
    cases serviceUser.deleteSecretsFields env.secretOutcomes c.secret IDENTITY_MANAGER_SECRET_NAME with
    | mk result secret =>
      cases result with
      | error e => exact ⟨[], List.nil_sublist _, (List.append_nil _).symm⟩
      | ok => exact hDeleted

theorem modifyUser_deletedUsers (outcomes : Nat → CallOutcome) (system : System) (u : SDPUser) :
    (system.modifyUser outcomes u).2.store.deletedUsers = system.store.deletedUsers := by
  refine Remote.call_invariant (fun store : Controller => store.deletedUsers = _) rfl fun a store h => ?_
  unfold Controller.modifyUser at h
  split at h <;> cases h
  rfl

theorem activateServiceUser_deletedUsers (user : ServiceUser) (clusterId serviceNs serviceName : String)
    (labels : Labels)
    (c : IdentityCreator) :
    (c.activateServiceUser env user clusterId serviceNs serviceName labels).system.store.deletedUsers =
      c.system.store.deletedUsers := by
  unfold activateServiceUser
  split
  · rfl
  · exact (modifyUser_deletedUsers env.systemOutcomes _ _).trans
      (System.getUser_sameUsers env.systemOutcomes c.system user.id).deletedUsers

theorem handle_deletedUsers (order : IterationOrder) (msg : IdentityCreatorProtocol) (c : IdentityCreator) :
    ∃ gone, (∀ id ∈ gone, id ∈ msg.spends) ∧
      (c.handle env order msg).system.store.deletedUsers = c.system.store.deletedUsers ++ gone := by
  have hNone : ∀ c' : IdentityCreator, c'.system.store.deletedUsers = c.system.store.deletedUsers →
      ∃ gone, (∀ id ∈ gone, id ∈ msg.spends) ∧
        c'.system.store.deletedUsers = c.system.store.deletedUsers ++ gone :=
    fun c' hSame => ⟨[], by simp, by rw [hSame, List.append_nil]⟩
  cases msg with
  | startService => exact hNone _ rfl
  | createIdentity =>
    unfold handle
    rcases createUser_spec env c with ⟨user, c', hCreate, hCreated⟩ | ⟨e, c', hCreate, hCreated⟩
    · rw [hCreate]
      exact hNone _ hCreated.deletedUsers
    · rw [hCreate]
      exact hNone _ hCreated.deletedUsers
  | activateServiceUser user clusterId serviceNs serviceName labels =>
    exact hNone _ (activateServiceUser_deletedUsers env user clusterId serviceNs serviceName labels c)
  | deleteServiceUser user serviceNs serviceName =>
    obtain ⟨gone, hGone, hDeleted⟩ := deleteSdpUser_deletedUsers env
      (.new (env.newV4 c.drawn).toString user.id (some user.name) none) { c with drawn := c.drawn + 1 }
    exact ⟨gone, fun id hId => hGone.subset hId, hDeleted⟩
  | deleteSDPUser sdpUserId =>
    obtain ⟨gone, hGone, hDeleted⟩ := deleteSdpUser_deletedUsers env
      (.new (env.newV4 c.drawn).toString sdpUserId none none) { c with drawn := c.drawn + 1 }
    exact ⟨gone, fun id hId => hGone.subset hId, hDeleted⟩
  | reconcileSDPUsers names =>
    obtain ⟨system, drawn, hHandle, hSame, -⟩ := reconcileSDPUsers_frame env order names c
    rw [handle, hHandle]
    exact hNone _ hSame.deletedUsers
  | releaseDeviceId user deviceId =>
    exact hNone _ (System.unregisterDeviceId_sameUsers env.systemOutcomes c.system _ false).deletedUsers

end IdentityCreator

/-- The ids that the message is about. -/
def IdentityManagerProtocol.ids (msg : IdentityManagerProtocol) : List String :=
  msg.freed ++ msg.binds.map Prod.fst ++ msg.spends

theorem IdentityManagerProtocol.ids_foundServiceUser (user : ServiceUser) (activated : Bool) :
    (IdentityManagerProtocol.foundServiceUser user activated).ids = [user.id] := by
  cases activated <;> rfl

namespace Processes

open IdentityManager
open IdentityCreator (Initialized recoveredUsers lostUsers goesThrough)

variable {outcomes : Nat → CallOutcome} {env : Surroundings} {own : Set String} {s t : Processes} {event : Event}

/-- The ids of the users that the service has heard of. -/
def known (s : Processes) : Set String :=
  (s.manager.ledger (s.manager.identityManagerQueue.pending ++ s.creator.outbox) []).names

theorem names_append {m : IdentityManager} {inFlight msgs : List IdentityManagerProtocol} {id : String}
    (h : id ∈ (m.ledger (inFlight ++ msgs) []).names) :
    id ∈ (m.ledger inFlight []).names ∨ ∃ msg ∈ msgs, id ∈ msg.ids := by
  rcases h with hFree | (⟨msg, hMsg, hSpends⟩ | hSpent) | ⟨o, hHeld | ⟨msg, hMsg, hBinds⟩ | hSent⟩
  · simp only [IdentityManager.ledger, List.flatMap_append, List.mem_append, List.mem_flatMap] at hFree
    rcases hFree with (hPool | hFlight | ⟨msg, hMsg, hFreed⟩) | hNone
    · exact .inl (.inl (List.mem_append_left _ (List.mem_append_left _ hPool)))
    · exact .inl (.inl (List.mem_append_left _ (List.mem_append_right _ (List.mem_flatMap.mpr hFlight))))
    · exact .inr ⟨msg, hMsg, List.mem_append_left _ (List.mem_append_left _ hFreed)⟩
    · cases hNone
  · rcases List.mem_append.mp hMsg with hMsg | hMsg
    · exact .inl (.inr (.inl (.inl ⟨msg, hMsg, hSpends⟩)))
    · exact .inr ⟨msg, hMsg, List.mem_append_right _ hSpends⟩
  · exact .inl (.inr (.inl (.inr hSpent)))
  · exact .inl (.inr (.inr ⟨o, .inl hHeld⟩))
  · rcases List.mem_append.mp hMsg with hMsg | hMsg
    · exact .inl (.inr (.inr ⟨o, .inr (.inl ⟨msg, hMsg, hBinds⟩)⟩))
    · exact .inr ⟨msg, hMsg, List.mem_append_left _ (List.mem_append_right _ (List.mem_map_of_mem hBinds))⟩
  · exact .inl (.inr (.inr ⟨o, .inr (.inr hSent)⟩))

/-- The service has heard only of its own users, and has deleted no others. -/
structure Within (own : Set String) (s : Processes) : Prop where
  known : ∀ id ∈ s.known, id ∈ own
  deleted : ∀ id ∈ s.creator.system.store.deletedUsers, id ∈ own

/-- When the creator starts, it goes through users of the service only. -/
def StartsWithin (own : Set String) (env : Surroundings) (s : Processes) : Event → Prop
  | .receive _ => s.creator.status = .waiting →
      s.manager.identityCreatorQueue.recv.map Prod.fst = some .startService →
      ∀ u ∈ s.creator.goesThrough env, u.id ∈ own
  | _ => True

theorem known_evolves {m m' : IdentityManager} {inFlight inFlight' : List IdentityManagerProtocol}
    (h : Ledger.Evolves ∅ (m.ledger inFlight []) (m'.ledger inFlight' [])) {id : String}
    (hId : id ∈ (m'.ledger inFlight' []).names) : id ∈ (m.ledger inFlight []).names :=
  (Ledger.names_evolves h hId).resolve_right (Set.notMem_empty id)

/-- The creator has started: it reports whom it went through, and whom it created. -/
theorem Within.initialized {c : IdentityCreator} (hOwn : ∀ u ∈ c.goesThrough env, u.id ∈ own)
    (hDraws : ∀ n, c.drawn ≤ n → n < (c.initializeFrom env).2.drawn → (env.newV4 n).toString ∈ own)
    (hOutbox : c.outbox = []) (hDeleted : ∀ id ∈ c.system.store.deletedUsers, id ∈ own) :
    (∀ msg ∈ (c.initializeFrom env).2.outbox, ∀ id ∈ msg.ids, id ∈ own) ∧
      ∀ id ∈ (c.initializeFrom env).2.system.store.deletedUsers, id ∈ own := by
  obtain ⟨found, gone, created, hInit⟩ := IdentityCreator.initializeFrom_goesThrough env c
  constructor
  · intro msg hMsg id hId
    rw [hInit.outbox, hOutbox, List.nil_append] at hMsg
    rcases List.mem_append.mp hMsg with hMsg | hMsg
    · obtain ⟨p, hp, rfl⟩ := List.mem_map.mp hMsg
      have hPair := List.mem_map_of_mem (f := fun p : ServiceUser × Bool => (p.1.id, p.2)) hp
      rw [hInit.found_ids] at hPair
      obtain ⟨u, hu, hSame⟩ := List.mem_map.mp hPair
      rw [IdentityManagerProtocol.ids_foundServiceUser, List.mem_singleton] at hId
      obtain ⟨hSame, -⟩ := Prod.mk.inj hSame
      rw [hId, ← hSame]
      obtain ⟨n, hn, -⟩ := (IdentityCreator.mem_recoveredUsers env).mp hu
      exact hOwn u (List.mem_of_getElem? hn)
    · obtain ⟨user, hUser, rfl⟩ := List.mem_map.mp hMsg
      rw [IdentityManagerProtocol.ids_foundServiceUser, List.mem_singleton] at hId
      obtain ⟨draws, hIds, -, hBounds⟩ := hInit.created_ids
      have hDrawn : user.id ∈ created.map ServiceUser.id := List.mem_map_of_mem hUser
      rw [hIds] at hDrawn
      obtain ⟨n, hn, hSame⟩ := List.mem_map.mp hDrawn
      rw [hId, ← hSame]
      exact hDraws n (hBounds n hn).1 (hBounds n hn).2
  · intro id hId
    rw [hInit.deletedUsers] at hId
    rcases List.mem_append.mp hId with hId | hId
    · exact hDeleted id hId
    · obtain ⟨u, hu, rfl⟩ := List.mem_map.mp (hInit.gone_sublist.subset hId)
      obtain ⟨n, hn, -⟩ := (IdentityCreator.mem_lostUsers env).mp hu
      exact hOwn u (List.mem_of_getElem? hn)

variable (env) in
theorem receive_start (order : IterationOrder) {c : IdentityCreator} (hWaiting : c.status = .waiting) :
    ∃ status ready, (∀ msg ∈ ready, IdentityManagerProtocol.ids msg = []) ∧
      c.receive env order .startService = { (c.initializeFrom env).2 with
        status := status, outbox := (c.initializeFrom env).2.outbox ++ ready } := by
  unfold IdentityCreator.receive
  rw [hWaiting]
  cases c.initializeFrom env with
  | mk result c' =>
    cases result with
    | ok url =>
      exact ⟨.running, [.identityCreatorReady], by simp [IdentityManagerProtocol.ids, IdentityManagerProtocol.freed,
        IdentityManagerProtocol.binds, IdentityManagerProtocol.spends], rfl⟩
    | error e => exact ⟨.panicked, [], by simp, by simp⟩

/-- What the creator sends and deletes after it has started concerns users that the service has heard of. -/
theorem Within.answered (h : Within own s) (order : IterationOrder) {msg : IdentityCreatorProtocol}
    (hMsg : msg ∈ s.manager.identityCreatorQueue.history) (hOutbox : s.creator.outbox = [])
    (hDraws : ∀ n, s.creator.drawn ≤ n → n < (s.creator.handle env order msg).drawn →
      (env.newV4 n).toString ∈ own) :
    (∀ x ∈ (s.creator.handle env order msg).outbox, ∀ id ∈ x.ids, id ∈ own) ∧
      ∀ id ∈ (s.creator.handle env order msg).system.store.deletedUsers, id ∈ own := by
  constructor
  · intro x hx id hId
    cases IdentityCreator.handle_answer env order msg s.creator with
    | silent hSame hDrawn =>
      rw [hSame, hOutbox] at hx
      cases hx
    | created user hSame hIds hDrawn =>
      rw [hSame, hOutbox, List.nil_append, List.mem_singleton] at hx
      rw [hx, IdentityManagerProtocol.ids_foundServiceUser] at hId
      obtain ⟨draws, hDrawnIds, -, hBounds⟩ := hIds
      rw [hDrawnIds] at hId
      obtain ⟨n, hn, rfl⟩ := List.mem_map.mp hId
      exact hDraws n (hBounds n hn).1 (hBounds n hn).2
    | activated user clusterId serviceNs serviceName labels userName hBound hSame hDrawn =>
      rw [hSame, hOutbox, List.nil_append, List.mem_singleton] at hx
      subst hx hBound
      refine h.known id (.inr (.inr ⟨formatServiceId serviceNs serviceName, .inr (.inr ⟨_, hMsg, ?_⟩)⟩))
      simp only [IdentityManagerProtocol.ids, IdentityManagerProtocol.freed, IdentityManagerProtocol.binds,
        IdentityManagerProtocol.spends, List.map_cons, List.map_nil, List.nil_append,
        List.append_nil, List.mem_singleton] at hId
      rw [hId]
      exact List.mem_singleton_self _
  · intro id hId
    obtain ⟨gone, hGone, hDeleted⟩ := IdentityCreator.handle_deletedUsers env order msg s.creator
    rw [hDeleted] at hId
    rcases List.mem_append.mp hId with hId | hId
    · exact h.deleted id hId
    · exact h.known id (.inr (.inl (.inr (.inl ⟨msg, hMsg, hGone id hId⟩))))

theorem Within.receive (h : Within own s) (order : IterationOrder) {msg : IdentityCreatorProtocol}
    {queue : Channel IdentityCreatorProtocol} (hRecv : s.manager.identityCreatorQueue.recv = some (msg, queue))
    (hOutbox : s.creator.outbox = []) (hStarts : StartsWithin own env s (.receive order))
    (hDraws : ∀ n, s.creator.drawn ≤ n → n < (s.creator.receive env order msg).drawn →
      (env.newV4 n).toString ∈ own) :
    Within own ⟨{ s.manager with identityCreatorQueue := queue }, s.creator.receive env order msg⟩ := by
  obtain ⟨rest, hPending, -⟩ := Channel.recv_eq_some.mp hRecv
  have hMsg : msg ∈ s.manager.identityCreatorQueue.history :=
    Channel.mem_history_of_pending (hPending ▸ List.mem_cons_self)
  have hAnswer : (∀ x ∈ (s.creator.receive env order msg).outbox, ∀ id ∈ x.ids, id ∈ own) ∧
      ∀ id ∈ (s.creator.receive env order msg).system.store.deletedUsers, id ∈ own := by
    have hSame : (∀ x ∈ s.creator.outbox, ∀ id ∈ x.ids, id ∈ own) ∧
        ∀ id ∈ s.creator.system.store.deletedUsers, id ∈ own := ⟨by simp [hOutbox], h.deleted⟩
    cases hStatus : s.creator.status with
    | waiting =>
      by_cases hStart : msg = .startService
      · subst hStart
        obtain ⟨status, ready, hReady, hEq⟩ := receive_start env order hStatus
        rw [hEq] at hDraws ⊢
        obtain ⟨hSent, hDeleted⟩ :=
          Within.initialized (hStarts hStatus (by rw [hRecv]; rfl)) hDraws hOutbox h.deleted
        refine ⟨fun x hx id hId => ?_, hDeleted⟩
        rcases List.mem_append.mp hx with hx | hx
        · exact hSent x hx id hId
        · rw [hReady x hx] at hId
          cases hId
      · have hDropped : s.creator.receive env order msg = s.creator := by
          unfold IdentityCreator.receive
          rw [hStatus]
          cases msg <;> first | rfl | exact absurd rfl hStart
        rw [hDropped]
        exact hSame
    | running =>
      have hHandled : s.creator.receive env order msg = s.creator.handle env order msg := by
        unfold IdentityCreator.receive
        rw [hStatus]
      rw [hHandled] at hDraws ⊢
      exact h.answered order hMsg hOutbox hDraws
    | panicked =>
      have hDropped : s.creator.receive env order msg = s.creator := by
        unfold IdentityCreator.receive
        rw [hStatus]
      rw [hDropped]
      exact hSame
  refine ⟨fun id hId => ?_, hAnswer.2⟩
  rw [Processes.known, ledger_recv hRecv] at hId
  rcases names_append hId with hOld | ⟨x, hx, hNew⟩
  · refine h.known id ?_
    rw [Processes.known, hOutbox, List.append_nil]
    exact hOld
  · exact hAnswer.1 x hx id hNew

theorem Within.move (h : Within own s) (hMove : Move outcomes env s event t)
    (hDraws : ∀ n, s.creator.drawn ≤ n → n < t.creator.drawn → (env.newV4 n).toString ∈ own)
    (hStarts : StartsWithin own env s event) : Within own t := by
  cases hMove with
  | arrive msg hMsg =>
    refine ⟨fun id hId => h.known id ?_, h.deleted⟩
    have hQuiet : msg.freed = [] ∧ msg.binds = [] ∧ msg.spends = [] := by
      cases msg <;> first | exact ⟨rfl, rfl, rfl⟩ | cases hMsg
    refine known_evolves (evolves_append hQuiet.1 (by simp [hQuiet.2.1]) hQuiet.2.2)
      (known_evolves (evolves_perm (s.manager.sendToSelf msg) [] ?_) hId)
    simp only [sendToSelf, Channel.pending_send, List.append_assoc]
    exact (List.perm_append_singleton msg s.creator.outbox).symm.append_left _
  | handle order msg queue hRecv =>
    refine ⟨fun id hId => h.known id ?_, h.deleted⟩
    obtain ⟨rest, hPending, rfl⟩ := Channel.recv_eq_some.mp hRecv
    let m : IdentityManager :=
      { s.manager with identityManagerQueue := ⟨s.manager.identityManagerQueue.received ++ [msg], rest⟩ }
    have hBefore : id ∈ (m.ledger (msg :: (rest ++ s.creator.outbox)) []).names := by
      refine known_evolves (handle_evolves outcomes order msg m) (known_evolves (evolves_perm _ [] ?_) hId)
      rw [handle_queue, Channel.pending_sendAll, ← List.append_assoc]
      exact List.perm_append_comm.append_right _
    rw [Processes.known, hPending]
    exact hBefore
  | receive order msg queue hOutbox hStatus hRecv => exact h.receive order hRecv hOutbox hStarts hDraws
  | deliver msg rest hOutbox =>
    refine ⟨fun id hId => h.known id ?_, h.deleted⟩
    refine known_evolves (evolves_perm s.manager [] (List.Perm.of_eq ?_)) hId
    simp [sendToSelf, hOutbox]

theorem within_started {clusterId : String} {stored : List ServiceIdentity} {system : System} {secret : SecretApi}
    {poolSize : Nat} (hStored : ∀ i ∈ stored, i.credentials.id ∈ own) (hFresh : system.store.deletedUsers = []) :
    Within own (started clusterId stored system secret poolSize) := by
  constructor
  · obtain ⟨provider, hRestored⟩ := restored_frame clusterId stored
    have hPool := pool_restored clusterId stored
    have hLedger : (started clusterId stored system secret poolSize).manager.ledger [] [] =
        ⟨[], {p | ∃ i ∈ (restored clusterId stored).serviceCredentialsProvider.identities,
          (i.credentials.id, Service.serviceId i) = p}, ∅⟩ := by
      rw [IdentityManager.ledger, started, hPool, hRestored]
      simp [new, sendToCreator, Channel.empty, Channel.history, IdentityCreatorProtocol.binds,
        IdentityCreatorProtocol.spends]
    have hNothing : (started clusterId stored system secret poolSize).manager.identityManagerQueue.pending = [] := by
      rw [started, hRestored]
      rfl
    intro id hId
    rw [known, hNothing] at hId
    change id ∈ ((started clusterId stored system secret poolSize).manager.ledger [] []).names at hId
    rw [hLedger] at hId
    rcases hId with hFree | hSpent | ⟨o, i, hi, hHeld⟩
    · cases hFree
    · cases hSpent
    · cases hHeld
      exact hStored i (mem_stored hi)
  · intro id hId
    change id ∈ system.store.deletedUsers at hId
    rw [hFresh] at hId
    cases hId

/-- The service finds what the others have left of the users and devices. Which users it has deleted itself stays. -/
def seeing (controller : Controller) (s : Processes) : Processes :=
  { s with creator := { s.creator with system := { s.creator.system with
      store := { s.creator.system.store with users := controller.users, devices := controller.devices } } } }

end Processes

section Clusters

open Processes

variable {ι : Type} [DecidableEq ι]

/-- One of the clusters takes a step of its identity service. -/
def Clusters.next (outcomes : ι → Nat → CallOutcome) (env : ι → Surroundings)
    (s : ι → Processes) (event : ι × Event) :
    Option (ι → Processes) :=
  (Processes.next (outcomes event.1) (env event.1) (s event.1) event.2).map fun t j =>
    if j = event.1 then t else (s j).seeing t.creator.system.store

/-- The ids of users that no other cluster has created. -/
def ownIds (owner : String → Option ι) (i : ι) : Set String := {id | owner id = none ∨ owner id = some i}

/-- No cluster has deleted a user that another one created, or has it in its pool. -/
structure Isolated (owner : String → Option ι) (s : ι → Processes) : Prop where
  deleted : ∀ i, ∀ id ∈ (s i).creator.system.store.deletedUsers, id ∈ ownIds owner i
  pool : ∀ i, ∀ u ∈ (s i).manager.pool, u.id ∈ ownIds owner i

/-- A cluster that starts goes through its own users only. -/
def StartsApart (owner : String → Option ι) (env : ι → Surroundings) (s : ι → Processes)
    (event : ι × Event) : Prop :=
  StartsWithin (ownIds owner event.1) (env event.1) (s event.1) event.2

variable {outcomes : ι → Nat → CallOutcome} {env : ι → Surroundings} {owner : String → Option ι}
  {s t : ι → Processes}
  {event : ι × Event}

theorem Clusters.next_cases (h : Clusters.next outcomes env s event = some t) :
    Move (outcomes event.1) (env event.1) (s event.1) event.2 (t event.1) ∧
      ∀ j, j ≠ event.1 → t j = (s j).seeing (t event.1).creator.system.store := by
  obtain ⟨u, hNext, rfl⟩ := Option.map_eq_some_iff.mp h
  simp only [if_true]
  exact ⟨next_move _ _ hNext, fun j hj => if_neg hj⟩

theorem Clusters.drawn_le (h : Clusters.next outcomes env s event = some t) (i : ι) :
    (s i).creator.drawn ≤ (t i).creator.drawn := by
  obtain ⟨hMove, hOthers⟩ := Clusters.next_cases h
  by_cases hi : i = event.1
  · subst hi
    exact move_drawn hMove
  · rw [hOthers i hi]
    exact le_rfl

/-- Where every cluster that starts goes through its own users only, the clusters stay isolated. -/
theorem clusters_isolated {clusterId : ι → String} {stored : ι → List ServiceIdentity} {controller : Controller}
    {secret : ι → SecretApi} {poolSize : Nat} (hFresh : controller.deletedUsers = [])
    (hStored : ∀ i, ∀ identity ∈ stored i, identity.credentials.id ∈ ownIds owner i)
    (hDraws : ∀ i, ∀ n < (t i).creator.drawn, owner ((env i).newV4 n).toString = some i)
    (hRun : Steps (Clusters.next outcomes env) (StartsApart owner env)
      (fun i => started (clusterId i) (stored i) ⟨controller, 0, []⟩ (secret i) poolSize) t) :
      Isolated owner t := by
  have hWithin : (∀ i, (t i).creator.drawn ≤ (t i).creator.drawn) → ∀ i, Within (ownIds owner i) (t i) := by
    refine hRun.invariant (fun s => (∀ i, (s i).creator.drawn ≤ (t i).creator.drawn) →
      ∀ i, Within (ownIds owner i) (s i))
      ?_ fun _ i => within_started (hStored i) hFresh
    intro s event u hBefore hStarts hNext hLast i
    have hWithin := hBefore fun j => (Clusters.drawn_le hNext j).trans (hLast j)
    obtain ⟨hMove, hOthers⟩ := Clusters.next_cases hNext
    by_cases hi : i = event.1
    · subst hi
      exact (hWithin event.1).move hMove (fun n _ hn => .inr (hDraws event.1 n (hn.trans_le (hLast event.1)))) hStarts
    · rw [hOthers i hi]
      exact ⟨(hWithin i).known, (hWithin i).deleted⟩
  exact ⟨fun i id hId => (hWithin (fun _ => le_rfl) i).deleted id hId, fun i u hu =>
    (hWithin (fun _ => le_rfl) i).known u.id
      (.inl (List.mem_append_left _ (List.mem_append_left _ (List.mem_map_of_mem hu))))⟩

end Clusters

section Samples

open Processes

instance {ι : Type} [DecidableEq ι] (owner : String → Option ι) (i : ι) (id : String) :
    Decidable (id ∈ ownIds owner i) :=
  inferInstanceAs (Decidable (owner id = none ∨ owner id = some i))

instance {ι : Type} [DecidableEq ι] (owner : String → Option ι) (env : ι → Surroundings) (s : ι → Processes)
    (event : ι × Event) : Decidable (StartsApart owner env s event) := by
  unfold StartsApart StartsWithin
  split <;> infer_instance

def sampleOwner (id : String) : Option Bool := some (id = "u2")

def sampleClusterIds (second : Bool) : String := if second then "cluster-b" else "cluster-a"

/-- Both clusters are about to start, where the given user is listed; only the first one knows a password of it. -/
def sampleClusters (id : String) (second : Bool) : Processes :=
  started (sampleClusterIds second) [] ⟨⟨[⟨id, id, ∅, [], none, true⟩], [], []⟩, 0, []⟩
    ⟨some ⟨some (AList.singleton "u1-service-password" (.text "pw"))⟩, 0, []⟩ 0

abbrev sampleClustersNext : (Bool → Processes) → Bool × Event → Option (Bool → Processes) :=
  Clusters.next (fun _ _ => .delivered) fun _ => IdentityCreator.sampleSurroundings fun _ => .delivered

def sampleOwnPool : Bool → Processes :=
  runD sampleClustersNext (sampleClusters "u1")
    [(false, .receive .asStored), (false, .deliver), (false, .handle .asStored)]

theorem clusters_isolated_sample : (sampleOwnPool false).manager.pool.map ServiceUser.id = ["u1"] ∧
    Isolated sampleOwner sampleOwnPool := by
  refine ⟨by decide, clusters_isolated rfl (fun i identity hi => absurd hi List.not_mem_nil) (by decide)
    (Steps.of_runD _ (by decide) (by decide))⟩

/-- The first cluster starts where a user of the second one is listed. -/
def sampleTaken : Bool → Processes := runD sampleClustersNext (sampleClusters "u2") [(false, .receive .asStored)]

theorem user_of_other_cluster_deleted :
    Steps sampleClustersNext (fun _ _ => True) (sampleClusters "u2") sampleTaken ∧
      (∀ i, ∀ n < (sampleTaken i).creator.drawn, sampleOwner (IdentityCreator.sampleUuid n).toString = some i) ∧
      ¬Isolated sampleOwner sampleTaken := by
  refine ⟨Steps.of_runD _ (.of_forall (fun _ _ _ => trivial) _) (by decide), by decide, fun h => ?_⟩
  exact absurd (h.deleted false "u2" (by decide)) (by decide)

end Samples

end SdpK8sInjector.IdentityService
