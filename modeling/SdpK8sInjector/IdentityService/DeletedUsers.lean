import SdpK8sInjector.IdentityService.Activation
import SdpK8sInjector.IdentityService.DeviceRemovals
import SdpK8sInjector.IdentityService.PostedUsers

/-! # Users that go with their identities

The user of an identity is deleted by the creator, some time after the manager has given
it up. The message carries the name that the identity had then, and the devices that go
are those that the controller finds for this name.
-/

namespace SdpK8sInjector.IdentityService

open Lib Common

/-- The user that the creator is told to delete with an identity. -/
def deletedUser : IdentityCreatorProtocol → Option ServiceUser
  | .deleteServiceUser user _ _ => some user
  | _ => none

/-- Whoever has the id of the user at the controller has its name, too. -/
def IdentityCreator.Knows (c : IdentityCreator) (user : ServiceUser) : Prop :=
  ∀ v ∈ c.system.store.users, v.id = user.id → v.name = user.name

instance (c : IdentityCreator) (user : ServiceUser) : Decidable (c.Knows user) :=
  inferInstanceAs (Decidable (∀ v ∈ c.system.store.users, v.id = user.id → v.name = user.name))

namespace IdentityManager

variable {outcomes : Nat → CallOutcome} {order : IterationOrder}

/-- The users whose identities the handler of the message deletes, if it can. -/
def givenUp (m : IdentityManager) : IdentityManagerProtocol → List ServiceUser
  | .deleteServiceIdentity identity => [identity.credentials]
  | .identityManagerReady =>
    (m.serviceCredentialsProvider.identities.filter fun i => !decide (m.Retained i)).map ServiceIdentity.credentials
  | _ => []

/-- What is sent to the creator: first users are given up, and then others are activated. -/
structure Sends (m m' : IdentityManager) (users : List ServiceUser) : Prop where
  sent : ∃ gone rest, m'.identityCreatorQueue = m.identityCreatorQueue.sendAll (gone ++ rest) ∧
    (∀ x ∈ gone, activates x = none ∧ ∀ user ∈ deletedUser x, user ∈ users) ∧
    ∀ x ∈ rest, deletedUser x = none

theorem Sends.of_rest {m m' : IdentityManager} {users : List ServiceUser} {rest : List IdentityCreatorProtocol}
    (h : m'.identityCreatorQueue = m.identityCreatorQueue.sendAll rest) (hRest : ∀ x ∈ rest, deletedUser x = none) :
    Sends m m' users :=
  ⟨[], rest, h, List.forall_mem_nil _, hRest⟩

theorem Sends.of_queue {m m' : IdentityManager} {users : List ServiceUser}
    (h : m'.identityCreatorQueue = m.identityCreatorQueue) : Sends m m' users :=
  .of_rest (h.trans (Channel.sendAll_nil _).symm) (List.forall_mem_nil _)

theorem renamedId_of_activates {x : IdentityCreatorProtocol} (h : activates x = none) :
    IdentityCreator.renamedId x = none := by
  cases x with
  | activateServiceUser => cases h
  | _ => rfl

theorem deletedUser_of_quiet {x : IdentityCreatorProtocol} (h : ∀ key, removesIdentity key x = false) :
    deletedUser x = none := by
  cases x with
  | deleteServiceUser user serviceNs serviceName =>
    simpa [removesIdentity] using h (formatServiceId serviceNs serviceName)
  | _ => rfl

theorem identityManagerReady_sends (m : IdentityManager) :
    Sends m (m.identityManagerReady outcomes order) (m.givenUp .identityManagerReady) := by
  obtain ⟨extra, users, orphans, h⟩ := reconcile_spec outcomes order m
  obtain ⟨rest, hRequests, hQuiet⟩ := @requestAll_turn outcomes (fun _ => True)
    (order.walk (HashMap.values (m.reconcile outcomes order).missingServiceCandidates)) (fun _ _ => trivial)
    (m.reconcile outcomes order)
  have hGivenUp : ∀ i ∈ m.serviceCredentialsProvider.identities, ¬m.Retained i →
      i.credentials ∈ m.givenUp .identityManagerReady := by
    intro i hi hNot
    exact List.mem_map_of_mem (List.mem_filter.mpr ⟨hi, by simpa using hNot⟩)
  refine ⟨extra.map deletionOf ++ users.map .deleteSDPUser ++ orphans.map deletionOf ++ [.reconcileSDPUsers
      (HashSet.ofList ((m.reconcile outcomes order).serviceCredentialsProvider.identities.map
        fun s => s.credentials.name))],
    rest, ?_, fun x hx => ?_, fun x hx => deletedUser_of_quiet (hQuiet x hx)⟩
  · have hQueue := hRequests.queue
    rw [h.queue, Channel.sendAll_sendAll] at hQueue
    exact hQueue
  · simp only [List.mem_append, List.mem_map, List.mem_singleton] at hx
    rcases hx with ((⟨i, hi, rfl⟩ | ⟨id, -, rfl⟩) | ⟨i, hi, rfl⟩) | rfl
    · obtain ⟨hMem, hUnknown⟩ := h.extra_spec i hi
      refine ⟨rfl, fun user hUser => ?_⟩
      cases hUser
      exact hGivenUp i hMem fun hRetained => hUnknown hRetained.1
    · exact ⟨rfl, nofun⟩
    · obtain ⟨hMem, -, hDeactivated⟩ := h.orphans_spec i hi
      refine ⟨rfl, fun user hUser => ?_⟩
      cases hUser
      exact hGivenUp i hMem fun hRetained => hRetained.2 hDeactivated
    · exact ⟨rfl, nofun⟩

theorem handle_sends (msg : IdentityManagerProtocol) (m : IdentityManager) :
    Sends m (handle outcomes order msg m) (m.givenUp msg) := by
  cases msg with
  | identityManagerReady => exact identityManagerReady_sends m
  | requestServiceIdentity candidate =>
    obtain ⟨sent, hTurn, hQuiet⟩ := @requestServiceIdentity_turn outcomes (fun _ => True) candidate trivial m
    exact .of_rest hTurn.queue fun x hx => deletedUser_of_quiet (hQuiet x hx)
  | deleteServiceIdentity identity =>
    rcases deleteServiceIdentity_cases outcomes identity m with ⟨_, _, -, h⟩ | ⟨_, -, h⟩ <;> rw [handle, h]
    · exact .of_queue rfl
    · refine ⟨[deletionOf identity], [], ?_, fun x hx => ?_, List.forall_mem_nil _⟩
      · exact Channel.send_eq_sendAll _ _
      · rw [List.mem_singleton.mp hx]
        refine ⟨rfl, fun user hUser => ?_⟩
        cases hUser
        exact List.mem_singleton_self _
  | foundServiceCandidate candidate =>
    rcases foundServiceCandidate_cases candidate m with ⟨-, h⟩ | ⟨_, _, -, -, h⟩ | ⟨_, -, -, h⟩ <;>
      rw [handle, h] <;>
      exact .of_queue rfl
  | foundServiceUser user activated => cases activated <;> exact .of_queue rfl
  | deletedServiceCandidate candidate =>
    rcases deletedServiceCandidate_cases candidate m with ⟨_, _, _, _, h⟩ | ⟨_, h⟩ <;> rw [handle, h] <;>
      exact .of_queue rfl
  | identityCreatorReady =>
    obtain ⟨_, _, h⟩ := identityCreatorReadyHandler_cases m
    rw [handle, h]
    exact .of_queue rfl
  | deploymentWatcherReady =>
    obtain ⟨_, _, h⟩ := deploymentWatcherReady_cases m
    rw [handle, h]
    exact .of_queue rfl
  | activatedServiceUser user serviceNs serviceName =>
    rcases activatedServiceUser_cases outcomes user serviceNs serviceName m with ⟨_, h⟩ | ⟨_, _, h⟩ <;>
      rw [handle, h] <;>
      exact .of_queue rfl
  | releaseDeviceId lookup uuid =>
    rcases releaseDeviceId_cases outcomes lookup uuid m with ⟨-, h⟩ | ⟨_, sent, -, hSent, h⟩ <;> rw [handle, h]
    · exact .of_queue rfl
    · refine .of_rest rfl fun x hx => ?_
      rcases hSent with rfl | rfl
      · cases hx
      · rw [List.mem_singleton.mp hx]
        rfl
  | identityManagerInitialized | identityManagerStarted | identityManagerDebug => exact .of_queue rfl

end IdentityManager

namespace Processes

open IdentityManager IdentityCreator

variable {outcomes : Nat → CallOutcome} {env : Surroundings}

section Message

/-- The identities in the deletions that the manager has queued for itself. -/
def queuedDeletions (s : Processes) : List ServiceIdentity := s.manager.identityManagerQueue.pending.flatMap namedBy

/-- No service with a queued deletion gets an identity or another user. -/
def DeletionsUndisturbed (s : Processes) : Event → Prop
  | .handle _ => ∀ msg ∈ s.manager.identityManagerQueue.pending.head?, ∀ identity ∈ s.queuedDeletions,
      Service.serviceId identity ∉ s.manager.createdIds msg ∧
        ∀ p ∈ noticeOf msg, p.1 = Service.serviceId identity →
          p.2.id = identity.credentials.id ∧ p.2.name = identity.credentials.name
  | _ => True

/-- Every queued deletion is for the user that the registered identity holds. -/
structure Current (s : Processes) : Prop where
  outbox : ∀ x ∈ s.creator.outbox, isFromCreator x = true
  deletions : ∀ identity ∈ s.queuedDeletions, ∀ i,
    s.manager.identities.lookup (Service.serviceId identity) = some i →
      identity.credentials.id = i.credentials.id ∧ identity.credentials.name = i.credentials.name

/-- A notice for the same user under the same name leaves both as they are. -/
theorem name_heldAfter {key : String} {msg : IdentityManagerProtocol} {i : ServiceIdentity} {id name : String}
    (hHeld : id = i.credentials.id ∧ name = i.credentials.name)
    (hNotice : ∀ p ∈ noticeOf msg, p.1 = key → p.2.id = id ∧ p.2.name = name) :
    id = (heldAfter key msg i).credentials.id ∧ name = (heldAfter key msg i).credentials.name := by
  cases msg with
  | activatedServiceUser user serviceNs serviceName =>
    simp only [heldAfter]
    split
    · obtain ⟨hId, hName⟩ := hNotice (formatServiceId serviceNs serviceName, user) rfl ‹_›
      rw [ServiceIdentity.credentials_withUser]
      exact ⟨hId.symm, hName.symm⟩
    · exact hHeld
  | releaseDeviceId lookup uuid =>
    simp only [heldAfter]
    split
    · obtain ⟨deviceIds, hRecorded⟩ := recordDeviceId_eq_withUser uuid i
      rw [hRecorded, ServiceIdentity.credentials_withUser]
      exact hHeld
    · exact hHeld
  | _ => exact hHeld

theorem namedBy_selfSent {m : IdentityManager} {msg x : IdentityManagerProtocol} {identity : ServiceIdentity}
    (hx : x ∈ m.selfSent msg) (hNamed : identity ∈ namedBy x) :
    (∃ c, msg = .deletedServiceCandidate c) ∧ m.identities.lookup (Service.serviceId identity) = some identity := by
  cases tellsItself_of_mem hx with
  | creatorReady hWatchers => cases hNamed
  | watcherReady hWatchers hCreator => cases hNamed
  | deleted candidate i hCandidate hIdentity =>
    cases List.mem_singleton.mp hNamed
    exact ⟨⟨candidate, rfl⟩, hIdentity⟩

theorem Current.handled {s : Processes} (h : Current s) {msg : IdentityManagerProtocol}
    {queue : Channel IdentityManagerProtocol} {order : IterationOrder}
    (hRecv : s.manager.identityManagerQueue.recv = some (msg, queue))
    (hAllowed : DeletionsUndisturbed s (.handle order)) :
    Current ⟨handle outcomes order msg { s.manager with identityManagerQueue := queue }, s.creator⟩ := by
  obtain ⟨rest, hPending, hQueue⟩ := Channel.recv_eq_some.mp hRecv
  let m : IdentityManager := { s.manager with identityManagerQueue := queue }
  obtain ⟨sent, hTurn, hQuiet⟩ := handle_turn outcomes order msg m
  have hUndisturbed := hAllowed msg (by rw [hPending]; rfl)
  refine ⟨h.outbox, fun identity hNamed i' hLookup => ?_⟩
  rw [queuedDeletions, List.mem_flatMap] at hNamed
  obtain ⟨x, hx, hNamed⟩ := hNamed
  dsimp only at hx
  rw [handle_queue, Channel.pending_sendAll, hQueue] at hx
  rcases List.mem_append.mp hx with hx | hx
  · have hBefore : identity ∈ s.queuedDeletions :=
      List.mem_flatMap.mpr ⟨x, hPending ▸ List.mem_cons_of_mem _ hx, hNamed⟩
    obtain ⟨hNotCreated, hNotice⟩ := hUndisturbed identity hBefore
    rcases kept_or_created hTurn hQuiet hLookup with ⟨i, hi, rfl, -⟩ | hCreated
    · exact name_heldAfter (h.deletions identity hBefore i hi) hNotice
    · exact absurd hCreated hNotCreated
  · obtain ⟨⟨c, rfl⟩, hRegistered⟩ := namedBy_selfSent hx hNamed
    rcases kept_or_created hTurn hQuiet hLookup with ⟨i, hi, rfl, -⟩ | hCreated
    · cases hRegistered.symm.trans hi
      exact ⟨rfl, rfl⟩
    · cases hCreated

theorem Current.step {s t : Processes} {event : Event} (h : Current s) (hAllowed : DeletionsUndisturbed s event)
    (hNext : next outcomes env s event = some t) : Current t := by
  cases next_move outcomes env hNext with
  | handle order msg queue hRecv => exact h.handled hRecv hAllowed
  | arrive msg hMsg =>
    have hOther : namedBy msg = [] := by cases msg <;> simp_all [isFromWatchers, namedBy]
    refine ⟨h.outbox, fun identity hNamed => h.deletions identity ?_⟩
    simpa [queuedDeletions, sendToSelf, hOther] using hNamed
  | deliver msg rest hOutbox =>
    have hFrom := h.outbox msg (hOutbox ▸ List.mem_cons_self)
    have hOther : namedBy msg = [] := by cases msg <;> simp_all [isFromCreator, namedBy]
    refine ⟨fun x hx => h.outbox x (hOutbox ▸ List.mem_cons_of_mem _ hx),
      fun identity hNamed => h.deletions identity ?_⟩
    simpa [queuedDeletions, sendToSelf, hOther] using hNamed
  | receive order msg queue hOutbox hStatus hRecv =>
    exact ⟨receive_outbox env order msg s.creator h.outbox, h.deletions⟩

theorem current_started {clusterId : String} {stored : List ServiceIdentity} {system : System} {secret : SecretApi}
    {poolSize : Nat} : Current (started clusterId stored system secret poolSize) := by
  obtain ⟨provider, hRestored⟩ := restored_frame clusterId stored
  constructor <;>
    simp [queuedDeletions, started, hRestored, IdentityCreator.new, IdentityManager.new, sendToCreator, Channel.empty]

end Message

section Creator

/-- Whom the creator is told to delete is known under the name in the message, and nothing before it in the queue
renames the user. -/
structure Upheld (s : Processes) : Prop where
  known : ∀ x ∈ s.manager.identityCreatorQueue.pending, ∀ user ∈ deletedUser x, s.creator.Knows user
  unrenamed : s.manager.identityCreatorQueue.pending.Pairwise fun x y => ∀ user ∈ deletedUser y,
    renamedId x ≠ some user.id

/-- A user is given up under the name that the controller has, with no renaming of it on the way, and no user is made
under its id. What the controller finds for the name are the devices that are registered under it. -/
def NamesSettled (env : Surroundings) (s : Processes) : Event → Prop
  | .handle _ => ∀ msg ∈ s.manager.identityManagerQueue.pending.head?, ∀ user ∈ s.manager.givenUp msg,
      s.creator.Knows user ∧ ∀ x ∈ s.manager.identityCreatorQueue.pending, renamedId x ≠ some user.id
  | .receive order => ∀ msg ∈ s.manager.identityCreatorQueue.pending.head?,
      (∀ user ∈ deletedUser msg, ∀ device ∈ s.creator.system.store.devices,
        env.matchesUsername (namePrefix user.name) device.username = true ↔ device.username = user.name) ∧
      ∀ x ∈ s.manager.identityCreatorQueue.pending.tail, ∀ user ∈ deletedUser x,
        ∀ n < (s.creator.receive env order msg).drawn, s.creator.drawn ≤ n → (env.newV4 n).toString ≠ user.id
  | _ => True

theorem Upheld.received {s : Processes} (h : Upheld s) {order : IterationOrder} {msg : IdentityCreatorProtocol}
    {queue : Channel IdentityCreatorProtocol} (hRecv : s.manager.identityCreatorQueue.recv = some (msg, queue))
    (hAllowed : NamesSettled env s (.receive order)) :
    Upheld ⟨{ s.manager with identityCreatorQueue := queue }, s.creator.receive env order msg⟩ := by
  obtain ⟨rest, hPending, hQueue⟩ := Channel.recv_eq_some.mp hRecv
  obtain ⟨-, hFresh⟩ := hAllowed msg (by rw [hPending]; rfl)
  have hOrder := h.unrenamed
  rw [hPending] at hOrder hFresh
  obtain ⟨hFirst, hRest⟩ := List.pairwise_cons.mp hOrder
  have hLeft : (Processes.manager ⟨{ s.manager with identityCreatorQueue := queue },
      s.creator.receive env order msg⟩).identityCreatorQueue.pending = rest := by rw [hQueue]
  refine ⟨fun x hx user hUser v hv hId => ?_, hLeft ▸ hRest⟩
  rw [hLeft] at hx
  rcases receive_postsFor order msg s.creator v hv with hOld | hRenamed | ⟨n, hLow, hHigh, hDrawn⟩
  · exact h.known x (hPending ▸ List.mem_cons_of_mem _ hx) user hUser v hOld hId
  · exact absurd (hId ▸ hRenamed) (hFirst x hx user hUser)
  · exact absurd (hDrawn.symm.trans hId) (hFresh x hx user hUser n hHigh hLow)

theorem Upheld.handled {s : Processes} (h : Upheld s) {order : IterationOrder} {msg : IdentityManagerProtocol}
    {queue : Channel IdentityManagerProtocol} (hRecv : s.manager.identityManagerQueue.recv = some (msg, queue))
    (hAllowed : NamesSettled env s (.handle order)) :
    Upheld ⟨handle outcomes order msg { s.manager with identityManagerQueue := queue }, s.creator⟩ := by
  obtain ⟨rest, hPending, -⟩ := Channel.recv_eq_some.mp hRecv
  have hGivenUp := hAllowed msg (by rw [hPending]; rfl)
  let m : IdentityManager := { s.manager with identityManagerQueue := queue }
  have hSends : Sends m (handle outcomes order msg m) (m.givenUp msg) := handle_sends msg m
  obtain ⟨gone, others, hQueue, hGone, hOthers⟩ := hSends.sent
  have hAfter : (handle outcomes order msg m).identityCreatorQueue.pending =
      s.manager.identityCreatorQueue.pending ++ (gone ++ others) := by rw [hQueue, Channel.pending_sendAll]
  have hNamed : ∀ x ∈ gone ++ others, ∀ user ∈ deletedUser x, user ∈ s.manager.givenUp msg := by
    intro x hx user hUser
    rcases List.mem_append.mp hx with hx | hx
    · exact (hGone x hx).2 user hUser
    · rw [hOthers x hx] at hUser
      cases hUser
  have hStill : ∀ x ∈ gone, ∀ user : ServiceUser, renamedId x ≠ some user.id := by
    intro x hx user
    rw [renamedId_of_activates (hGone x hx).1]
    exact nofun
  constructor
  · intro x hx user hUser
    rw [show (Processes.manager _).identityCreatorQueue.pending = _ from hAfter] at hx
    rcases List.mem_append.mp hx with hx | hx
    · exact h.known x hx user hUser
    · exact (hGivenUp user (hNamed x hx user hUser)).1
  · rw [show (Processes.manager _).identityCreatorQueue.pending = _ from hAfter]
    refine List.pairwise_append.mpr ⟨h.unrenamed, ?_, fun x hx y hy user hUser => ?_⟩
    · refine List.pairwise_append.mpr ⟨?_, ?_, fun x hx y hy user hUser => ?_⟩
      · exact List.pairwise_of_forall_mem_list fun x hx y hy user hUser => hStill x hx user
      · exact List.pairwise_of_forall_mem_list fun x hx y hy user hUser => by simp [hOthers y hy] at hUser
      · simp [hOthers y hy] at hUser
    · exact (hGivenUp user (hNamed y hy user hUser)).2 x hx

theorem Upheld.step {s t : Processes} {event : Event} (h : Upheld s) (hAllowed : NamesSettled env s event)
    (hNext : next outcomes env s event = some t) : Upheld t := by
  cases next_move outcomes env hNext with
  | handle order msg queue hRecv => exact h.handled hRecv hAllowed
  | receive order msg queue hOutbox hStatus hRecv => exact h.received hRecv hAllowed
  | arrive msg hMsg => exact ⟨h.known, h.unrenamed⟩
  | deliver msg rest hOutbox => exact ⟨h.known, h.unrenamed⟩

theorem upheld_started {clusterId : String} {stored : List ServiceIdentity} {system : System} {secret : SecretApi}
    {poolSize : Nat} : Upheld (started clusterId stored system secret poolSize) := by
  obtain ⟨provider, hRestored⟩ := restored_frame clusterId stored
  constructor <;>
    simp [started, hRestored, IdentityCreator.new, IdentityManager.new, sendToCreator, Channel.empty, deletedUser]

/-- With a user go the devices that are registered under the name that the controller has for it. -/
theorem Upheld.unregisters {s t : Processes} (h : Upheld s) {order : IterationOrder} {user : ServiceUser}
    {serviceNs serviceName : String} (hAllowed : NamesSettled env s (.receive order))
    (hHead : s.manager.identityCreatorQueue.pending.head? = some (.deleteServiceUser user serviceNs serviceName))
    (hNext : next outcomes env s (.receive order) = some t) :
    s.creator.Knows user ∧
      System.Unregisters (fun device => device.username = user.name) s.creator.system t.creator.system ∧
      (s.creator.status = .running → t.creator.system.failed = s.creator.system.failed →
        t.creator.secret.failed = s.creator.secret.failed →
        ∀ device ∈ t.creator.system.store.devices, device.username ≠ user.name) := by
  have hFound := (hAllowed _ hHead).1 user rfl
  cases next_move outcomes env hNext with
  | receive order msg queue hOutbox hStatus hRecv =>
    obtain ⟨rest, hPending, -⟩ := Channel.recv_eq_some.mp hRecv
    obtain rfl : msg = .deleteServiceUser user serviceNs serviceName := by simpa [hPending] using hHead
    have hUnregisters : System.Unregisters (s.creator.Selects env (.deleteServiceUser user serviceNs serviceName))
        s.creator.system (s.creator.receive env order (.deleteServiceUser user serviceNs serviceName)).system :=
      receive_unregisters order (.deleteServiceUser user serviceNs serviceName) s.creator
    refine ⟨h.known _ (hPending ▸ List.mem_cons_self) user rfl,
      ⟨hUnregisters.known, fun device hDevice => ?_⟩, ?_⟩
    · refine (hUnregisters.spared device hDevice).imp_right fun ⟨taken, hTaken, hSelected, hSame⟩ => ?_
      exact ⟨taken, hTaken, (hFound taken hTaken).mp (Selects.of_deleteServiceUser hSelected), hSame⟩
    · intro hRunning hSystem hSecret device hDevice hName
      have hHandled : s.creator.receive env order (.deleteServiceUser user serviceNs serviceName) =
          ((s.creator.draw env).2.deleteSdpUser env
            (.new (env.newV4 s.creator.drawn).toString user.id (some user.name) none)).2 := by
        unfold receive
        rw [hRunning]
        rfl
      dsimp only at hSystem hSecret hDevice
      rw [hHandled] at hSystem hSecret hDevice
      have hLeft := deleteSdpUser_clean _ (s.creator.draw env).2 hSystem hSecret device hDevice
      have hBefore : device ∈ s.creator.system.store.devices :=
        (deleteSdpUser_unregisters _ (s.creator.draw env).2).known device hDevice
      have hMatches : env.matchesUsername (namePrefix user.name) device.username = true :=
        (hFound device hBefore).mpr hName
      cases hMatches.symm.trans hLeft

end Creator

section Runs

inductive OnBoardingEvent where
  | service (event : Event)
  /-- Clients have registered devices at the controller, or devices were removed there. -/
  | onBoarded (devices : List OnBoardedUser)

def nextOnBoarding (outcomes : Nat → CallOutcome) (env : Surroundings) (s : Processes) :
    OnBoardingEvent → Option Processes
  | .service event => next outcomes env s event
  | .onBoarded devices => some (s.withDevices devices)

/-- From its removal on nobody renames the user of an identity. -/
def KeepsNames (env : Surroundings) (s : Processes) : OnBoardingEvent → Prop
  | .service event => DeletionsUndisturbed s event ∧ NamesSettled env s event
  | .onBoarded _ => True

theorem keepsNames_run {clusterId : String} {stored : List ServiceIdentity} {system : System} {secret : SecretApi}
    {poolSize : Nat} {s : Processes}
    (h : Steps (nextOnBoarding outcomes env) (KeepsNames env) (started clusterId stored system secret poolSize) s) :
    Current s ∧ Upheld s := by
  refine h.invariant (fun s => Current s ∧ Upheld s) (fun s event t hInv hAllowed hNext => ?_)
    ⟨current_started, upheld_started⟩
  obtain ⟨hCurrent, hUpheld⟩ := hInv
  cases event with
  | service event => exact ⟨hCurrent.step hAllowed.1 hNext, hUpheld.step hAllowed.2 hNext⟩
  | onBoarded devices =>
    cases hNext
    exact ⟨⟨hCurrent.outbox, hCurrent.deletions⟩, hUpheld.known, hUpheld.unrenamed⟩

/-- While no service with a queued deletion gets an identity or another user, and nobody renames the user from there
on, a user is given up under the id and the name that the registered identity holds when it is removed, and the devices
that are unregistered are those of the name that the controller has for the user then. -/
theorem deletion_current {clusterId : String} {stored : List ServiceIdentity} {system : System} {secret : SecretApi}
    {poolSize : Nat} {s t : Processes} {order : IterationOrder} {user : ServiceUser} {serviceNs serviceName : String}
    (hRun : Steps (nextOnBoarding outcomes env) (KeepsNames env) (started clusterId stored system secret poolSize) s) :
    (∀ sent i, next outcomes env s (.handle order) = some t →
      t.manager.identityCreatorQueue = s.manager.identityCreatorQueue.sendAll sent →
      .deleteServiceUser user serviceNs serviceName ∈ sent →
      s.manager.identities.lookup (formatServiceId serviceNs serviceName) = some i →
      user.id = i.credentials.id ∧ user.name = i.credentials.name) ∧
    (NamesSettled env s (.receive order) → next outcomes env s (.receive order) = some t →
      s.manager.identityCreatorQueue.pending.head? = some (.deleteServiceUser user serviceNs serviceName) →
      (∀ v ∈ s.creator.system.store.users, v.id = user.id → v.name = user.name) ∧
      System.Unregisters (fun device => device.username = user.name) s.creator.system t.creator.system ∧
      (s.creator.status = .running → t.creator.system.failed = s.creator.system.failed →
        t.creator.secret.failed = s.creator.secret.failed →
        ∀ device ∈ t.creator.system.store.devices, device.username ≠ user.name)) := by
  obtain ⟨hCurrent, hUpheld⟩ := keepsNames_run hRun
  refine ⟨fun sent i hNext hSent hMem hRegistered => ?_,
    fun hAllowed hNext hHead => hUpheld.unregisters hAllowed hHead hNext⟩
  cases next_move outcomes env hNext with
  | handle order msg queue hRecv =>
    obtain ⟨rest, hPending, -⟩ := Channel.recv_eq_some.mp hRecv
    obtain ⟨sent', hTurn, -⟩ := handle_turn outcomes order msg { s.manager with identityManagerQueue := queue }
    have hSame : sent' = sent :=
      List.append_cancel_left (congrArg Channel.pending (hTurn.queue.symm.trans hSent))
    subst hSame
    rcases hTurn.removed user serviceNs serviceName hMem with ⟨identity, hNamed, hEq⟩ | ⟨j, hj, rfl⟩
    · cases hEq
      exact hCurrent.deletions identity (List.mem_flatMap.mpr ⟨msg, hPending ▸ List.mem_cons_self, hNamed⟩)
        i hRegistered
    · cases hRegistered.symm.trans hj
      exact ⟨rfl, rfl⟩

instance (s : Processes) : (event : Event) → Decidable (DeletionsUndisturbed s event)
  | .handle _ => inferInstanceAs (Decidable (∀ msg ∈ s.manager.identityManagerQueue.pending.head?,
      ∀ identity ∈ s.queuedDeletions, Service.serviceId identity ∉ s.manager.createdIds msg ∧
        ∀ p ∈ noticeOf msg, p.1 = Service.serviceId identity →
          p.2.id = identity.credentials.id ∧ p.2.name = identity.credentials.name))
  | .arrive _ | .receive _ | .deliver => .isTrue trivial

instance (env : Surroundings) (s : Processes) : (event : Event) → Decidable (NamesSettled env s event)
  | .handle _ => inferInstanceAs (Decidable (∀ msg ∈ s.manager.identityManagerQueue.pending.head?,
      ∀ user ∈ s.manager.givenUp msg, s.creator.Knows user ∧
        ∀ x ∈ s.manager.identityCreatorQueue.pending, renamedId x ≠ some user.id))
  | .receive order => inferInstanceAs (Decidable (∀ msg ∈ s.manager.identityCreatorQueue.pending.head?,
      (∀ user ∈ deletedUser msg, ∀ device ∈ s.creator.system.store.devices,
        env.matchesUsername (namePrefix user.name) device.username = true ↔ device.username = user.name) ∧
      ∀ x ∈ s.manager.identityCreatorQueue.pending.tail, ∀ user ∈ deletedUser x,
        ∀ n < (s.creator.receive env order msg).drawn, s.creator.drawn ≤ n → (env.newV4 n).toString ≠ user.id))
  | .arrive _ | .deliver => .isTrue trivial

instance (env : Surroundings) (s : Processes) : (event : OnBoardingEvent) → Decidable (KeepsNames env s event)
  | .service event => inferInstanceAs (Decidable (DeletionsUndisturbed s event ∧ NamesSettled env s event))
  | .onBoarded _ => .isTrue trivial

def sampleFirstUser (name : String) : ServiceUser :=
  ⟨(IdentityCreator.sampleUuid 0).toString, name, (IdentityCreator.sampleUuid 1).toString,
    "appgate://profile", some []⟩

/-- A query finds all that begins with what it asks for. -/
def sampleQueried : Surroundings :=
  { IdentityCreator.sampleSurroundings fun _ => .delivered with
    matchesUsername := fun name username => startsWith username name }

abbrev sampleNextOnBoarding : Processes → OnBoardingEvent → Option Processes :=
  nextOnBoarding (fun _ => .delivered) sampleQueried

def sampleStarted : Processes :=
  started "cluster" [] ⟨⟨[], [], []⟩, 0, []⟩ ⟨some ⟨some ∅⟩, 0, []⟩ CREDENTIALS_POOL_SIZE

def sampleDeletion : List OnBoardingEvent :=
  (sampleRequested ++ sampleActivation ++
    [Event.arrive (.deletedServiceCandidate (sampleCandidate "a")), .handle .asStored]).map .service

def sampleDeleting : Processes := runD sampleNextOnBoarding sampleStarted sampleDeletion

def sampleDevices : List OnBoardedUser :=
  [⟨"CN=d1,CN=cluster_ns_a_abcde,OU=service", "d1", "cluster_ns_a_abcde", 0⟩,
    ⟨"CN=d2,CN=cluster_ns_b_fghij,OU=service", "d2", "cluster_ns_b_fghij", 0⟩]

def sampleDeviceEvents : List OnBoardingEvent := [.service (.handle .asStored), .onBoarded sampleDevices]

def sampleDevicesFound : Processes := runD sampleNextOnBoarding sampleDeleting sampleDeviceEvents

theorem deletion_current_sample :
    (∃ i, sampleDeleting.manager.identities.lookup "ns_a" = some i ∧
      (sampleFirstUser "cluster_ns_a_abcde").id = i.credentials.id ∧
      (sampleFirstUser "cluster_ns_a_abcde").name = i.credentials.name) ∧
    sampleDevicesFound.creator.system.store.devices = sampleDevices ∧
    ∀ device ∈ (runD sampleNextOnBoarding sampleDevicesFound
      [.service (.receive .asStored)]).creator.system.store.devices,
      device.username ≠ "cluster_ns_a_abcde" := by
  have hDeleting : Steps sampleNextOnBoarding (KeepsNames sampleQueried) sampleStarted sampleDeleting :=
    Steps.of_runD sampleDeletion (by decide +kernel) (by decide +kernel)
  have hFound : Steps sampleNextOnBoarding (KeepsNames sampleQueried) sampleStarted sampleDevicesFound :=
    hDeleting.trans (Steps.of_runD sampleDeviceEvents (by decide +kernel) (by decide +kernel))
  refine ⟨?_, by decide +kernel, ?_⟩
  · obtain ⟨i, hi⟩ := Option.isSome_iff_exists.mp
      (show (sampleDeleting.manager.identities.lookup "ns_a").isSome = true by decide +kernel)
    obtain ⟨t, ht⟩ := Option.isSome_iff_exists.mp
      (show (sampleNextOnBoarding sampleDeleting (.service (.handle .asStored))).isSome = true by decide +kernel)
    have hSent : (sampleNextOnBoarding sampleDeleting (.service (.handle .asStored))).map
        (fun t => t.manager.identityCreatorQueue) = some (sampleDeleting.manager.identityCreatorQueue.sendAll
          [.deleteServiceUser (sampleFirstUser "cluster_ns_a_abcde") "ns" "a"]) := by decide +kernel
    rw [ht] at hSent
    exact ⟨i, hi, (deletion_current hDeleting).1 _ i ht (Option.some.inj hSent) (List.mem_singleton_self _) hi⟩
  · have hGone := (deletion_current hFound).2 (by decide +kernel)
      (next_eq_runD (show (sampleNextOnBoarding sampleDevicesFound (.service (.receive .asStored))).isSome = true by
        decide +kernel))
      (show sampleDevicesFound.manager.identityCreatorQueue.pending.head? =
        some (.deleteServiceUser (sampleFirstUser "cluster_ns_a_abcde") "ns" "a") by decide +kernel)
    exact hGone.2.2 (by decide +kernel) (by decide +kernel) (by decide +kernel)

/-- Candidate `a` goes while the notice of its activation is queued. -/
def sampleStaleDeletion : List Event :=
  [.arrive (.deletedServiceCandidate (sampleCandidate "a")), .receive .asStored, .receive .asStored, .deliver,
    .receive .asStored, .deliver, .handle .asStored, .handle .asStored, .handle .asStored]

def sampleStale : Processes := runD sampleNext sampleReplenished sampleStaleDeletion

abbrev sampleStaleNext : Processes → OnBoardingEvent → Option Processes :=
  nextOnBoarding (fun _ => .delivered) (IdentityCreator.sampleSurroundings fun _ => .delivered)

/-- The identity of `a` holds the activated user, which is given up under its former name, so that the devices of the
name that the controller has for it stay. -/
theorem deletion_names_former_user :
    Steps sampleNext WatchersWait sampleStarted sampleStale ∧
    (sampleNext sampleStale (.handle .asStored)).map (fun t => t.manager.identityCreatorQueue) =
      some (sampleStale.manager.identityCreatorQueue.sendAll
        [.deleteServiceUser (sampleFirstUser (IdentityCreator.sampleUuid 0).toString) "ns" "a"]) ∧
    (sampleStale.manager.identities.lookup "ns_a").map ServiceIdentity.credentials =
      some (sampleFirstUser "cluster_ns_a_abcde") ∧
    (∃ v ∈ sampleStale.creator.system.store.users,
      v.id = (IdentityCreator.sampleUuid 0).toString ∧ v.name = "cluster_ns_a_abcde") ∧
    ∃ s, run sampleStaleNext sampleStale (sampleDeviceEvents ++ [.service (.receive .asStored)]) = some s ∧
      s.creator.system.store.deletedUsers = [(IdentityCreator.sampleUuid 0).toString] ∧
      s.creator.system.store.devices = sampleDevices := by
  refine ⟨?_, by decide +kernel, by decide +kernel, by decide +kernel, ?_⟩
  · exact (Steps.of_runD sampleRequested (by decide +kernel) (by decide +kernel)).trans
      (Steps.of_runD sampleStaleDeletion (by decide +kernel) (by decide +kernel))
  · have hLast : (run sampleStaleNext sampleStale (sampleDeviceEvents ++ [.service (.receive .asStored)])).map
        (fun s => (s.creator.system.store.deletedUsers, s.creator.system.store.devices)) =
          some ([(IdentityCreator.sampleUuid 0).toString], sampleDevices) := by decide +kernel
    obtain ⟨s, hRun, hLeft⟩ := Option.map_eq_some_iff.mp hLast
    exact ⟨s, hRun, congrArg Prod.fst hLeft, congrArg Prod.snd hLeft⟩

end Runs

end Processes

end SdpK8sInjector.IdentityService
