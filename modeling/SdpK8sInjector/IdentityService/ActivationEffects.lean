import SdpK8sInjector.Common.ServiceSecrets
import SdpK8sInjector.IdentityService.Activation
import SdpK8sInjector.IdentityService.Clusters
import SdpK8sInjector.IdentityService.PoolUsers

/-! # What an activation that fails leaves behind

A failure to modify the user is logged, and the activation goes on: the notice is
sent, and the secret and the config map of the service are written. The notice is
believed by the manager whatever has become of the user by then.
-/

namespace SdpK8sInjector.IdentityService

open Lib Common

structure Accounts where
  secrets : ObjectApi Secret
  configMaps : ObjectApi ConfigMap
deriving DecidableEq

structure AccountOutcomes where
  secrets : Nat → CallOutcome
  configMaps : Nat → CallOutcome

namespace Accounts

variable (outcomes : AccountOutcomes) (user : ServiceUser) (serviceNs serviceName : String) (accounts : Accounts)

/-- Both are attempted, whether the first one fails or not. -/
def write : Accounts where
  secrets := (user.createOrUpdateSecrets outcomes.secrets serviceNs serviceName accounts.secrets).2
  configMaps := (ServiceUser.createConfig outcomes.configMaps serviceNs serviceName accounts.configMaps).2

def delete : Accounts where
  secrets := (ServiceUser.deleteSecrets outcomes.secrets serviceNs serviceName accounts.secrets).2
  configMaps := (ServiceUser.deleteConfig outcomes.configMaps serviceNs serviceName accounts.configMaps).2

end Accounts

/-- The part of `IdentityCreator::run` that is about the secrets and the config maps of the services. -/
def IdentityCreator.handleAccounts (outcomes : AccountOutcomes) (env : Surroundings) (c : IdentityCreator)
    (msg : IdentityCreatorProtocol) (accounts : Accounts) : Accounts :=
  match c.status, msg with
  | .running, .activateServiceUser user clusterId serviceNs serviceName _ =>
    match getServiceUsername (env.randomSuffix c.drawn) clusterId serviceNs serviceName with
    | some name => accounts.write outcomes { user with name := name } serviceNs serviceName
    | none => accounts
  | .running, .deleteServiceUser _ serviceNs serviceName => accounts.delete outcomes serviceNs serviceName
  | _, _ => accounts

structure Provisioning where
  processes : Processes
  accounts : Accounts
deriving DecidableEq

namespace Provisioning

abbrev manager (s : Provisioning) : IdentityManager := s.processes.manager

abbrev creator (s : Provisioning) : IdentityCreator := s.processes.creator

def next (outcomes : Nat → CallOutcome) (env : Surroundings) (accountOutcomes : AccountOutcomes) (s : Provisioning)
    (event : Processes.Event) : Option Provisioning :=
  (s.processes.next outcomes env event).map fun processes =>
    { processes := processes
      accounts := match event, s.manager.identityCreatorQueue.recv with
        | .receive _, some (msg, _) => s.creator.handleAccounts accountOutcomes env msg s.accounts
        | _, _ => s.accounts }

def started (clusterId : String) (stored : List ServiceIdentity) (system : System) (secret : SecretApi)
    (serviceUsersPoolSize : Nat) (accounts : Accounts) : Provisioning :=
  ⟨.started clusterId stored system secret serviceUsersPoolSize, accounts⟩

end Provisioning

/-- The system has the user under its id and name, and enabled. -/
def Holds (system : System) (user : ServiceUser) : Prop :=
  ∃ v ∈ system.store.users, v.id = user.id ∧ v.name = user.name ∧ v.disabled = false

namespace IdentityCreator

variable (env : Surroundings)

theorem modifyUser_users (outcomes : Nat → CallOutcome) (system : System) (record : SDPUser) :
    (system.modifyUser outcomes record).2.store.users =
      if outcomes system.calls = .requestLost then system.store.users
      else system.store.users.map fun v => if v.id == record.id then record else v := by
  have hUnmatched : (system.store.users.any fun v => v.id == record.id) = false →
      (system.store.users.map fun v => if v.id == record.id then record else v) = system.store.users := by
    intro hAny
    rw [List.any_eq_false] at hAny
    exact (List.map_congr_left fun v hv => if_neg (hAny v hv)).trans (List.map_id' _)
  unfold System.modifyUser Remote.call Controller.modifyUser
  cases hOutcome : outcomes system.calls <;>
    cases hAny : (system.store.users.any fun v => v.id == record.id) <;>
    simp_all [Remote.failWith]

/-- The activation of the user takes effect, or its outcome was there before. -/
def Takes (c : IdentityCreator) (user : ServiceUser) (name : String) : Prop :=
  Holds c.system { user with name := name } ∨
    user.name = user.id ∧ (∃ v ∈ c.system.store.users, v.id = user.id) ∧
      env.systemOutcomes (c.system.calls + 1) ≠ .requestLost

theorem holds_activation_iff (c : IdentityCreator) (user : ServiceUser) (name : String) (labels : Labels) :
    Holds (c.activation env user name labels).2 { user with name := name } ↔ c.Takes env user name := by
  have hGet : (c.system.getUser env.systemOutcomes user.id).2.store.users = c.system.store.users :=
    (System.getUser_sameUsers env.systemOutcomes c.system user.id).users
  have hCalls : (c.system.getUser env.systemOutcomes user.id).2.calls = c.system.calls + 1 := Remote.calls_call
  let record := activationRecord user name labels (c.system.getUser env.systemOutcomes user.id).1
  have hUsers : (c.activation env user name labels).2.store.users =
      if env.systemOutcomes (c.system.calls + 1) = .requestLost then c.system.store.users
      else c.system.store.users.map fun v => if v.id == user.name then record else v := by
    rw [activation, modifyUser_users, hGet, hCalls]
    rfl
  unfold Takes Holds
  rw [hUsers]
  split
  · rename_i hLost
    simp [hLost]
  · rename_i hSent
    constructor
    · rintro ⟨v, hv, hId, hName, hEnabled⟩
      obtain ⟨w, hw, rfl⟩ := List.mem_map.mp hv
      split at hId
      · rename_i hMatch
        have hSame : user.name = user.id := hId
        exact .inr ⟨hSame, ⟨w, hw, by rw [← hSame]; simpa using hMatch⟩, hSent⟩
      · rename_i hOther
        rw [if_neg hOther] at hName hEnabled
        exact .inl ⟨w, hw, hId, hName, hEnabled⟩
    · rintro (⟨v, hv, hId, hName, hEnabled⟩ | ⟨hSame, ⟨v, hv, hId⟩, -⟩)
      · by_cases hMatch : v.id = user.name
        · exact ⟨record, List.mem_map.mpr ⟨v, hv, if_pos (by simpa using hMatch)⟩,
            hMatch.symm.trans hId, rfl, rfl⟩
        · exact ⟨v, List.mem_map.mpr ⟨v, hv, if_neg (by simpa using hMatch)⟩, hId, hName, hEnabled⟩
      · exact ⟨record, List.mem_map.mpr ⟨v, hv, if_pos (by simp [hId, hSame])⟩, hSame, rfl, rfl⟩

/-- The user is enabled under some name, unless it was deleted. -/
def EnabledOrDeleted (system : System) (id : String) : Prop :=
  id ∈ system.store.deletedUsers ∨ ∃ v ∈ system.store.users, v.id = id ∧ v.disabled = false

variable {env}

theorem EnabledOrDeleted.of_sameUsers {system system' : System} {id : String} (h : EnabledOrDeleted system id)
    (hSame : System.SameUsers system system') : EnabledOrDeleted system' id := by
  rw [EnabledOrDeleted, hSame.deletedUsers, hSame.users]
  exact h

theorem EnabledOrDeleted.deleteSdpUser {c : IdentityCreator} {id : String} (h : EnabledOrDeleted c.system id)
    (u : SDPUser) : EnabledOrDeleted (c.deleteSdpUser env u).2.system id := by
  have hDeleted : EnabledOrDeleted ((c.system.unregisterDeviceIdsForUsername env.systemOutcomes env.matchesUsername
      u.prefixName none none none false).2.deleteUser env.systemOutcomes u.id).2 id := by
    have hDevices := System.unregisterDeviceIdsForUsername_sameUsers env.systemOutcomes env.matchesUsername c.system
      u.prefixName none none none false
    obtain ⟨gone, -, hLog, hOthers, -⟩ := System.deleteUser_spec env.systemOutcomes
      (c.system.unregisterDeviceIdsForUsername env.systemOutcomes env.matchesUsername
        u.prefixName none none none false).2 u.id
    rcases h.of_sameUsers hDevices with hLogged | ⟨v, hv, hId, hEnabled⟩
    · exact .inl (hLog ▸ List.mem_append_left gone hLogged)
    · rcases hOthers v hv with hKept | hGone
      · exact .inr ⟨v, hKept, hId, hEnabled⟩
      · exact .inl (hLog ▸ List.mem_append_right _ (hId ▸ hGone))
  unfold IdentityCreator.deleteSdpUser
  cases ServiceUser.fromSdpUser u "" none (some []) with
  | none => exact hDeleted
  | some serviceUser =>
    dsimp only
    cases serviceUser.deleteSecretsFields env.secretOutcomes c.secret IDENTITY_MANAGER_SECRET_NAME with
    | mk result secret =>
      cases result with
      | error e => exact h
      | ok => exact hDeleted

theorem EnabledOrDeleted.createUser {c : IdentityCreator} {id : String} (h : EnabledOrDeleted c.system id) :
    EnabledOrDeleted (c.createUser env).2.system id := by
  have hPosted : ∀ u, EnabledOrDeleted (c.system.createUser env.systemOutcomes u).2 id := by
    intro u
    have hCall : (fun store : Controller => id ∈ store.deletedUsers ∨
        ∃ v ∈ store.users, v.id = id ∧ v.disabled = false)
        (c.system.call env.systemOutcomes .request (Controller.createUser u)).2.store := by
      refine Remote.call_invariant (fun store : Controller => id ∈ store.deletedUsers ∨
        ∃ v ∈ store.users, v.id = id ∧ v.disabled = false) h fun a store hOp => ?_
      unfold Controller.createUser at hOp
      split at hOp
      · cases hOp
      · cases hOp
        exact h.imp_right fun ⟨v, hv, hEnabled⟩ => ⟨v, List.mem_append_left _ hv, hEnabled⟩
    unfold System.createUser
    cases hResult : c.system.call env.systemOutcomes .request (Controller.createUser u) with
    | mk result system =>
      rw [hResult] at hCall
      cases result <;> exact hCall
  unfold IdentityCreator.createUser
  simp only [draw, getClientProfileUrl]
  cases env.clientProfileUrl c.profileRequests with
  | error e => exact h
  | ok url =>
    simp only [Except.mapError]
    have hSystem := hPosted (SDPUser.new (env.newV4 (c.drawn + 1)).toString (env.newV4 c.drawn).toString none none)
    generalize c.system.createUser env.systemOutcomes _ = created at hSystem ⊢
    obtain ⟨result, system⟩ := created
    cases result with
    | error e => exact hSystem
    | ok created =>
      dsimp only
      cases ServiceUser.fromSdpUser created url none (some []) with
      | none => exact hSystem
      | some user =>
        dsimp only
        cases user.updateSecretsFields env.secretOutcomes c.secret IDENTITY_MANAGER_SECRET_NAME false with
        | mk result secret => cases result <;> exact hSystem

theorem EnabledOrDeleted.activateServiceUser {c : IdentityCreator} {id : String} (h : EnabledOrDeleted c.system id)
    (user : ServiceUser) (clusterId serviceNs serviceName : String) (labels : Labels) :
    EnabledOrDeleted (c.activateServiceUser env user clusterId serviceNs serviceName labels).system id := by
  cases hName : getServiceUsername (env.randomSuffix c.drawn) clusterId serviceNs serviceName with
  | none =>
    simp only [IdentityCreator.activateServiceUser, hName]
    exact h
  | some name =>
    have hHandle := handle_activateServiceUser env .asStored user labels hName
    rw [show c.activateServiceUser env user clusterId serviceNs serviceName labels = _ from hHandle]
    have hSame := System.getUser_sameUsers env.systemOutcomes c.system user.id
    rcases h.of_sameUsers hSame with hLogged | ⟨v, hv, hId, hEnabled⟩
    · exact .inl ((modifyUser_deletedUsers env.systemOutcomes _ _).symm ▸ hLogged)
    · right
      simp only [activation, modifyUser_users]
      split
      · exact ⟨v, hv, hId, hEnabled⟩
      · refine ⟨_, List.mem_map.mpr ⟨v, hv, rfl⟩, ?_⟩
        split
        · rename_i hMatch
          exact ⟨(eq_of_beq hMatch).symm.trans hId, rfl⟩
        · exact ⟨hId, hEnabled⟩

/-- Enabled users are deleted or renamed, and never disabled. -/
theorem EnabledOrDeleted.handle {c : IdentityCreator} {id : String} (h : EnabledOrDeleted c.system id)
    (order : IterationOrder) (msg : IdentityCreatorProtocol) :
    EnabledOrDeleted (c.handle env order msg).system id := by
  cases msg with
  | startService => exact h
  | createIdentity =>
    have hCreated : EnabledOrDeleted (c.createUser env).2.system id := h.createUser
    unfold IdentityCreator.handle
    cases hCreate : c.createUser env with
    | mk result c' =>
      rw [hCreate] at hCreated
      cases result <;> exact hCreated
  | activateServiceUser user clusterId serviceNs serviceName labels =>
    exact h.activateServiceUser user clusterId serviceNs serviceName labels
  | deleteServiceUser user serviceNs serviceName =>
    exact EnabledOrDeleted.deleteSdpUser (c := { c with drawn := c.drawn + 1 }) h
      (.new (env.newV4 c.drawn).toString user.id (some user.name) none)
  | deleteSDPUser sdpUserId =>
    exact EnabledOrDeleted.deleteSdpUser (c := { c with drawn := c.drawn + 1 }) h
      (.new (env.newV4 c.drawn).toString sdpUserId none none)
  | reconcileSDPUsers names =>
    obtain ⟨system, drawn, hHandle, hSame, -⟩ := reconcileSDPUsers_frame env order names c
    rw [IdentityCreator.handle, hHandle]
    exact h.of_sameUsers hSame
  | releaseDeviceId user deviceId =>
    exact h.of_sameUsers (System.unregisterDeviceId_sameUsers env.systemOutcomes c.system _ false)

/-- Only a running creator sends a notice, and it does so for the activation that it has received. -/
theorem receive_activated {order : IterationOrder} {msg : IdentityCreatorProtocol} {c : IdentityCreator}
    (hOutbox : c.outbox = []) {user : ServiceUser} {serviceNs serviceName : String}
    (h : .activatedServiceUser user serviceNs serviceName ∈ (c.receive env order msg).outbox) :
    c.status = .running ∧ ∃ user' clusterId labels name,
      msg = .activateServiceUser user' clusterId serviceNs serviceName labels ∧
      getServiceUsername (env.randomSuffix c.drawn) clusterId serviceNs serviceName = some name ∧
      user = { user' with name := name } ∧
      (c.receive env order msg).system = (c.activation env user' name labels).2 := by
  obtain ⟨user', hActivates, -⟩ := Processes.receive_notices order msg hOutbox h rfl
  obtain ⟨clusterId, serviceNs', serviceName', labels, rfl⟩ : ∃ clusterId serviceNs' serviceName' labels,
      msg = .activateServiceUser user' clusterId serviceNs' serviceName' labels := by
    cases msg <;> simp_all [IdentityManager.activates]
  cases hStatus : c.status with
  | waiting => simp [receive, hStatus, hOutbox] at h
  | panicked => simp [receive, hStatus, hOutbox] at h
  | running =>
    have hReceive : c.receive env order (.activateServiceUser user' clusterId serviceNs' serviceName' labels) =
        c.handle env order (.activateServiceUser user' clusterId serviceNs' serviceName' labels) := by
      simp [receive, hStatus]
    cases hName : getServiceUsername (env.randomSuffix c.drawn) clusterId serviceNs' serviceName' with
    | none => simp [hReceive, handle, activateServiceUser, hName, hOutbox] at h
    | some name =>
      have hHandle := handle_activateServiceUser env order user' labels hName
      rw [hReceive, hHandle, hOutbox] at h
      cases List.mem_singleton.mp h
      exact ⟨rfl, user', clusterId, labels, name, rfl, hName, rfl, by rw [hReceive, hHandle]⟩

/-- The creator that handles an activation to its end. -/
structure Activates (env : Surroundings) (c : IdentityCreator) (msg : IdentityCreatorProtocol) (user : ServiceUser)
    (name clusterId serviceNs serviceName : String) (labels : Labels) : Prop where
  running : c.status = .running
  message : msg = .activateServiceUser user clusterId serviceNs serviceName labels
  named : getServiceUsername (env.randomSuffix c.drawn) clusterId serviceNs serviceName = some name

theorem Activates.received {c : IdentityCreator} {msg : IdentityCreatorProtocol} {user : ServiceUser}
    {name clusterId serviceNs serviceName : String} {labels : Labels}
    (h : Activates env c msg user name clusterId serviceNs serviceName labels) (order : IterationOrder) :
    (c.receive env order msg).system = (c.activation env user name labels).2 ∧
      .activatedServiceUser { user with name := name } serviceNs serviceName ∈ (c.receive env order msg).outbox := by
  have hReceive : c.receive env order msg = c.handle env order msg := by
    rw [h.message]
    simp [receive, h.running]
  rw [hReceive, h.message, handle_activateServiceUser env _ _ _ h.named]
  exact ⟨rfl, List.mem_append_right _ (List.mem_singleton_self _)⟩

theorem handleAccounts_writes (outcomes : AccountOutcomes) (c : IdentityCreator) (msg : IdentityCreatorProtocol)
    (accounts : Accounts) :
    (∃ user name clusterId serviceNs serviceName labels,
      Activates env c msg user name clusterId serviceNs serviceName labels ∧
      ServiceUser.WritesOnly (serviceNs, ServiceUser.secretsName serviceNs serviceName)
        (ServiceUser.Names { user with name := name }) accounts.secrets.store
        (c.handleAccounts outcomes env msg accounts).secrets.store ∧
      ServiceUser.WritesOnly (serviceNs, (ServiceConfigFields.new serviceNs serviceName).configmapName) (fun _ => True)
        accounts.configMaps.store (c.handleAccounts outcomes env msg accounts).configMaps.store) ∨
    (∀ key, ServiceUser.WritesOnly key (fun _ => False) accounts.secrets.store
        (c.handleAccounts outcomes env msg accounts).secrets.store) ∧
      ∀ key, ServiceUser.WritesOnly key (fun _ => False) accounts.configMaps.store
        (c.handleAccounts outcomes env msg accounts).configMaps.store := by
  unfold handleAccounts
  split
  · rename_i user clusterId serviceNs serviceName labels hRunning
    split
    · rename_i name hName
      exact .inl ⟨user, name, clusterId, serviceNs, serviceName, labels, ⟨hRunning, rfl, hName⟩,
        ServiceUser.createOrUpdateSecrets_writes _ _ _ _ _, ServiceUser.createConfig_writes _ _ _ _⟩
    · exact .inr ⟨fun _ => .refl _, fun _ => .refl _⟩
  · exact .inr ⟨fun _ => ServiceUser.deleteSecrets_writes _ _ _ _,
      fun _ => ServiceUser.deleteConfig_writes _ _ _ _⟩
  · exact .inr ⟨fun _ => .refl _, fun _ => .refl _⟩

end IdentityCreator

namespace IdentityManager

variable {outcomes : Nat → CallOutcome} {order : IterationOrder} {m : IdentityManager} {key : String}
  {i' : ServiceIdentity}

theorem requestServiceIdentity_identities {candidate : ServiceCandidate}
    (h : (m.requestServiceIdentity outcomes candidate).identities.lookup key = some i') :
    m.identities.lookup key = some i' ∨ i'.credentials ∈ m.pool := by
  rcases requestServiceIdentity_provider outcomes candidate m with
    ⟨hSame, -⟩ | ⟨lookup, user, rest, -, -, hPool, -, hInsert⟩
  · rw [identities, hSame] at h
    exact .inl h
  · rw [hInsert, HashMap.lookup_insert_eq_ite] at h
    split at h
    · cases h
      exact .inr (hPool ▸ List.mem_cons_self)
    · exact .inl h

theorem foldl_requestServiceIdentity_identities (candidates : List ServiceCandidate)
    (h : (candidates.foldl (fun m c => m.requestServiceIdentity outcomes c) m).identities.lookup key = some i') :
    m.identities.lookup key = some i' ∨ i'.credentials ∈ m.pool := by
  induction candidates generalizing m with
  | nil => exact .inl h
  | cons c rest ih =>
    rcases ih h with hBefore | hPool
    · exact requestServiceIdentity_identities hBefore
    · exact .inr (requestServiceIdentity_pool outcomes hPool)

theorem handle_identities {msg : IdentityManagerProtocol}
    (h : (handle outcomes order msg m).identities.lookup key = some i') :
    (∃ i, m.identities.lookup key = some i ∧ i' = heldAfter key msg i) ∨ i'.credentials ∈ m.pool := by
  have hOther : m.createdIds msg = [] → ∃ i, m.identities.lookup key = some i ∧ i' = heldAfter key msg i := by
    intro hNone
    obtain ⟨sent, hTurn, hQuiet⟩ := handle_turn outcomes order msg m
    rcases kept_or_created hTurn hQuiet h with ⟨i, hi, hAfter, -⟩ | hCreated
    · exact ⟨i, hi, hAfter⟩
    · rw [hNone] at hCreated
      cases hCreated
  cases msg with
  | requestServiceIdentity candidate =>
    exact (requestServiceIdentity_identities h).imp_left fun hBefore => ⟨i', hBefore, rfl⟩
  | identityManagerReady =>
    obtain ⟨extra, gone, orphans, hReconciled⟩ := reconcile_spec outcomes order m
    rcases foldl_requestServiceIdentity_identities
        (order.walk (HashMap.values (m.reconcile outcomes order).missingServiceCandidates)) h with hBefore | hPool
    · rw [hReconciled.identities, HashMap.lookup_eraseAll] at hBefore
      split at hBefore
      · cases hBefore
      · exact .inl ⟨i', hBefore, rfl⟩
    · exact .inr (hReconciled.pool ▸ hPool)
  | _ => exact .inl (hOther rfl)

theorem sameUser_heldAfter {msg : IdentityManagerProtocol} (i : ServiceIdentity)
    (h : ∀ user serviceNs serviceName, msg = .activatedServiceUser user serviceNs serviceName →
      formatServiceId serviceNs serviceName ≠ key) :
    (heldAfter key msg i).credentials.id = i.credentials.id ∧
      (heldAfter key msg i).credentials.name = i.credentials.name := by
  cases msg with
  | activatedServiceUser user serviceNs serviceName =>
    rw [heldAfter, if_neg (h user serviceNs serviceName rfl)]
    exact ⟨rfl, rfl⟩
  | releaseDeviceId lookup uuid =>
    simp only [heldAfter]
    split
    · obtain ⟨ids, hRecorded⟩ := recordDeviceId_eq_withUser uuid i
      rw [hRecorded, ServiceIdentity.credentials_withUser]
      exact ⟨rfl, rfl⟩
    · exact ⟨rfl, rfl⟩
  | _ => exact ⟨rfl, rfl⟩

end IdentityManager

namespace Provisioning

open IdentityManager Processes

variable {outcomes : Nat → CallOutcome} {env : Surroundings} {accountOutcomes : AccountOutcomes} {s t : Provisioning}

/-- What a step announces, records and writes is for users that the system holds afterwards, under the name that they
are given. Other identities keep their users, and new ones have theirs from the pool. -/
structure Justified (s t : Provisioning) : Prop where
  sent : ∀ user serviceNs serviceName, .activatedServiceUser user serviceNs serviceName ∈ t.creator.outbox →
    .activatedServiceUser user serviceNs serviceName ∈ s.creator.outbox ∨ Holds t.creator.system user
  identities : ∀ key i', t.manager.identities.lookup key = some i' →
    (∃ i, s.manager.identities.lookup key = some i ∧ i'.credentials.id = i.credentials.id ∧
      i'.credentials.name = i.credentials.name) ∨
    i'.credentials ∈ s.manager.pool ∨ Holds t.creator.system i'.credentials
  secrets : ∀ key secret, t.accounts.secrets.store.lookup key = some secret →
    s.accounts.secrets.store.lookup key = some secret ∨
    ∃ user serviceNs serviceName, key = (serviceNs, ServiceUser.secretsName serviceNs serviceName) ∧
      user.Names secret ∧ .activatedServiceUser user serviceNs serviceName ∈ t.creator.outbox ∧
      Holds t.creator.system user
  configMaps : ∀ key config, t.accounts.configMaps.store.lookup key = some config →
    s.accounts.configMaps.store.lookup key = some config ∨
    ∃ user serviceNs serviceName, key = (serviceNs, (ServiceConfigFields.new serviceNs serviceName).configmapName) ∧
      .activatedServiceUser user serviceNs serviceName ∈ t.creator.outbox ∧ Holds t.creator.system user

/-- The activation that the message asks for takes effect. -/
def TakesEffect (env : Surroundings) (c : IdentityCreator) : IdentityCreatorProtocol → Prop
  | .activateServiceUser user clusterId serviceNs serviceName _ => c.status = .running →
      ∀ name ∈ getServiceUsername (env.randomSuffix c.drawn) clusterId serviceNs serviceName, c.Takes env user name
  | _ => True

/-- A notice, if it is for a service that is known, is for a user that was neither deleted nor renamed since. -/
def NoticeCurrent (s : Provisioning) : IdentityManagerProtocol → Prop
  | .activatedServiceUser user serviceNs serviceName =>
      formatServiceId serviceNs serviceName ∈ s.manager.identities →
        user.id ∉ s.creator.system.store.deletedUsers ∧
          ∀ v ∈ s.creator.system.store.users, v.id = user.id → v.name = user.name
  | _ => True

/-- The activation that is handled takes effect, and the notice that is handled is current. -/
def Effective (env : Surroundings) (s : Provisioning) : Processes.Event → Prop
  | .receive _ => ∀ msg ∈ s.manager.identityCreatorQueue.pending.head?, TakesEffect env s.creator msg
  | .handle _ => ∀ msg ∈ s.manager.identityManagerQueue.pending.head?, NoticeCurrent s msg
  | _ => True

instance (system : System) (user : ServiceUser) : Decidable (Holds system user) := by
  unfold Holds
  infer_instance

instance (c : IdentityCreator) (user : ServiceUser) (name : String) : Decidable (c.Takes env user name) := by
  unfold IdentityCreator.Takes
  infer_instance

instance (c : IdentityCreator) (msg : IdentityCreatorProtocol) : Decidable (TakesEffect env c msg) := by
  unfold TakesEffect
  split <;> infer_instance

instance (s : Provisioning) (msg : IdentityManagerProtocol) : Decidable (NoticeCurrent s msg) := by
  unfold NoticeCurrent
  split <;> infer_instance

instance (s : Provisioning) : (event : Processes.Event) → Decidable (Effective env s event)
  | .receive _ => inferInstanceAs (Decidable
      (∀ msg ∈ s.manager.identityCreatorQueue.pending.head?, TakesEffect env s.creator msg))
  | .handle _ =>
    inferInstanceAs (Decidable (∀ msg ∈ s.manager.identityManagerQueue.pending.head?, NoticeCurrent s msg))
  | .arrive _ | .deliver => .isTrue trivial

end Provisioning

namespace Processes

variable {outcomes : Nat → CallOutcome} {env : Surroundings} {s t : Processes}

/-- The notice is on its way to the manager. -/
def Noticed (s : Processes) (user : ServiceUser) (serviceNs serviceName : String) : Prop :=
  .activatedServiceUser user serviceNs serviceName ∈ s.creator.outbox ∨
    .activatedServiceUser user serviceNs serviceName ∈ s.manager.identityManagerQueue.pending

/-- Only the creator changes the users, and only it sends notices. -/
theorem move_noticed {event : Event} (hMove : Move outcomes env s event t)
    (hEvent : ∀ order, event ≠ .receive order) :
    t.creator.system = s.creator.system ∧ t.creator.status = s.creator.status ∧
      ∀ user serviceNs serviceName, Noticed t user serviceNs serviceName →
        Noticed s user serviceNs serviceName := by
  cases hMove with
  | arrive msg hMsg =>
    refine ⟨rfl, rfl, fun user serviceNs serviceName hMem => hMem.imp_right fun hMem => ?_⟩
    rcases List.mem_append.mp hMem with hMem | hMem
    · exact hMem
    · rw [← List.mem_singleton.mp hMem] at hMsg
      cases hMsg
  | handle order msg queue hRecv =>
    obtain ⟨rest, hPending, hQueue⟩ := Channel.recv_eq_some.mp hRecv
    refine ⟨rfl, rfl, fun user serviceNs serviceName hMem => hMem.imp_right fun hMem => ?_⟩
    dsimp only at hMem
    rw [IdentityManager.handle_queue, Channel.pending_sendAll, hQueue] at hMem
    rcases List.mem_append.mp hMem with hMem | hMem
    · exact hPending ▸ List.mem_cons_of_mem msg hMem
    · have hOwn := (IdentityManager.selfSent_kind hMem).2.1
      cases hOwn
  | receive order => exact absurd rfl (hEvent order)
  | deliver msg rest hOutbox =>
    refine ⟨rfl, rfl, fun user serviceNs serviceName hMem => ?_⟩
    rw [Noticed, hOutbox, List.mem_cons]
    rcases hMem with hMem | hMem
    · exact .inl (.inr hMem)
    · rcases List.mem_append.mp hMem with hMem | hMem
      · exact .inr hMem
      · exact .inl (.inl (List.mem_singleton.mp hMem))

end Processes

namespace Provisioning

open Processes

/-- Every notice on its way is for a user that was enabled, and the creator sends none before it runs. -/
structure Vouched (s : Provisioning) : Prop where
  waiting : s.creator.status = .waiting →
    ∀ user serviceNs serviceName, ¬s.processes.Noticed user serviceNs serviceName
  notices : ∀ user serviceNs serviceName, s.processes.Noticed user serviceNs serviceName →
    IdentityCreator.EnabledOrDeleted s.creator.system user.id

/-- The creator vouches for the notice that it sends, and deletes or renames the users of others at most. -/
theorem Vouched.received (h : Vouched s) {order : IterationOrder} {msg : IdentityCreatorProtocol}
    {queue : Channel IdentityCreatorProtocol} {accounts : Accounts} (hOutbox : s.creator.outbox = [])
    (hRecv : s.manager.identityCreatorQueue.recv = some (msg, queue)) (hAllowed : Effective env s (.receive order)) :
    Vouched ⟨⟨{ s.manager with identityCreatorQueue := queue }, s.creator.receive env order msg⟩,
      accounts⟩ := by
  obtain ⟨rest, hPending, -⟩ := Channel.recv_eq_some.mp hRecv
  constructor
  · intro hWaiting user serviceNs serviceName hNoticed
    have hIgnored : s.creator.receive env order msg = s.creator := receive_waiting hWaiting
    simp only [creator, hIgnored] at hWaiting
    simp only [Noticed, hIgnored] at hNoticed
    exact h.waiting hWaiting user serviceNs serviceName hNoticed
  · rintro user serviceNs serviceName (hSent | hQueued)
    · obtain ⟨hRunning, user', clusterId, labels, name, rfl, hName, rfl, hSystem⟩ :=
        IdentityCreator.receive_activated hOutbox hSent
      have hEffect : TakesEffect env s.creator (.activateServiceUser user' clusterId serviceNs serviceName labels) :=
        hAllowed _ (by rw [hPending]; rfl)
      obtain ⟨v, hv, hId, -, hEnabled⟩ :=
        (IdentityCreator.holds_activation_iff env s.creator user' name labels).mpr (hEffect hRunning name hName)
      exact .inr ⟨v, hSystem ▸ hv, hId, hEnabled⟩
    · have hBefore := h.notices user serviceNs serviceName (.inr hQueued)
      change IdentityCreator.EnabledOrDeleted (s.creator.receive env order msg).system user.id
      rcases receive_cases env order msg s.creator with ⟨hWaiting, -⟩ | hEq | ⟨-, hEq⟩
      · exact absurd (.inr hQueued) (h.waiting hWaiting user serviceNs serviceName)
      · rw [hEq]
        exact hBefore
      · rw [hEq]
        exact hBefore.handle order msg

theorem Vouched.step (h : Vouched s) {event : Event} (hAllowed : Effective env s event)
    (hNext : next outcomes env accountOutcomes s event = some t) : Vouched t := by
  obtain ⟨processes, hProcesses, rfl⟩ := Option.map_eq_some_iff.mp hNext
  have hMove := next_move outcomes env hProcesses
  by_cases hReceive : ∃ order, event = .receive order
  · obtain ⟨order, rfl⟩ := hReceive
    cases hMove with
    | receive order msg queue hOutbox hStatus hRecv => exact h.received hOutbox hRecv hAllowed
  · obtain ⟨hSystem, hStatus, hNoticed⟩ := move_noticed hMove fun order hEq => hReceive ⟨order, hEq⟩
    constructor
    · intro hWaiting user serviceNs serviceName hMem
      exact h.waiting (hStatus ▸ hWaiting) user serviceNs serviceName (hNoticed user serviceNs serviceName hMem)
    · intro user serviceNs serviceName hMem
      exact hSystem ▸ h.notices user serviceNs serviceName (hNoticed user serviceNs serviceName hMem)

/-- A step that writes no object is justified by what it sends and what becomes of the identities. -/
theorem Justified.of_accounts (hAccounts : t.accounts = s.accounts)
    (hSent : ∀ user serviceNs serviceName, .activatedServiceUser user serviceNs serviceName ∈ t.creator.outbox →
      .activatedServiceUser user serviceNs serviceName ∈ s.creator.outbox)
    (hIdentities : ∀ key i', t.manager.identities.lookup key = some i' →
      (∃ i, s.manager.identities.lookup key = some i ∧ i'.credentials.id = i.credentials.id ∧
        i'.credentials.name = i.credentials.name) ∨
      i'.credentials ∈ s.manager.pool ∨ Holds t.creator.system i'.credentials) : Justified s t where
  sent user serviceNs serviceName hMem := .inl (hSent user serviceNs serviceName hMem)
  identities := hIdentities
  secrets _ _ hLookup := .inl (hAccounts ▸ hLookup)
  configMaps _ _ hLookup := .inl (hAccounts ▸ hLookup)

theorem Vouched.handled (h : Vouched s) {order : IterationOrder} {msg : IdentityManagerProtocol}
    {queue : Channel IdentityManagerProtocol} (hRecv : s.manager.identityManagerQueue.recv = some (msg, queue))
    (hAllowed : Effective env s (.handle order)) :
    Justified s ⟨{ s.processes with
      manager := IdentityManager.handle outcomes order msg { s.manager with identityManagerQueue := queue } },
      s.accounts⟩ := by
  obtain ⟨rest, hPending, -⟩ := Channel.recv_eq_some.mp hRecv
  refine Justified.of_accounts rfl (fun _ _ _ hMem => hMem) fun key i' hLookup => ?_
  rcases IdentityManager.handle_identities hLookup with ⟨i, hi, rfl⟩ | hPool
  · by_cases hNotice : ∃ user serviceNs serviceName, msg = .activatedServiceUser user serviceNs serviceName ∧
        formatServiceId serviceNs serviceName = key
    · obtain ⟨user, serviceNs, serviceName, rfl, rfl⟩ := hNotice
      have hCurrent : NoticeCurrent s (.activatedServiceUser user serviceNs serviceName) :=
        hAllowed _ (by rw [hPending]; rfl)
      obtain ⟨hKept, hNamed⟩ := hCurrent (HashMap.mem_iff_exists_lookup.mpr ⟨i, hi⟩)
      have hEnabled := h.notices user serviceNs serviceName (.inr (hPending ▸ List.mem_cons_self))
      obtain ⟨v, hv, hId, hOn⟩ := hEnabled.resolve_left hKept
      right; right
      rw [IdentityManager.heldAfter, if_pos rfl, ServiceIdentity.credentials_withUser]
      exact ⟨v, hv, hId, hNamed v hv hId, hOn⟩
    · refine .inl ⟨i, hi, IdentityManager.sameUser_heldAfter i fun user serviceNs serviceName hMsg hKey => ?_⟩
      exact hNotice ⟨user, serviceNs, serviceName, hMsg, hKey⟩
  · exact .inr (.inl hPool)

/-- The creator that takes the next message, justified by the activation that it handles. -/
theorem justified_received {order : IterationOrder} {msg : IdentityCreatorProtocol}
    {queue : Channel IdentityCreatorProtocol} (hOutbox : s.creator.outbox = [])
    (hHolds : ∀ user name clusterId serviceNs serviceName labels,
      s.creator.Activates env msg user name clusterId serviceNs serviceName labels →
        Holds (s.creator.receive env order msg).system { user with name := name }) :
    Justified s ⟨⟨{ s.manager with identityCreatorQueue := queue }, s.creator.receive env order msg⟩,
      s.creator.handleAccounts accountOutcomes env msg s.accounts⟩ := by
  refine ⟨fun user serviceNs serviceName hMem => ?_, fun key i' hLookup => .inl ⟨i', hLookup, rfl, rfl⟩, ?_, ?_⟩
  · obtain ⟨hRunning, user', clusterId, labels, name, hMsg, hName, rfl, -⟩ :=
      IdentityCreator.receive_activated hOutbox hMem
    exact .inr (hHolds user' name clusterId serviceNs serviceName labels ⟨hRunning, hMsg, hName⟩)
  · intro key secret hLookup
    rcases IdentityCreator.handleAccounts_writes accountOutcomes s.creator msg s.accounts with
      ⟨user, name, clusterId, serviceNs, serviceName, labels, hActivates, hSecrets, -⟩ | ⟨hSecrets, -⟩
    · refine (hSecrets key secret hLookup).imp_right fun ⟨hKey, hNames⟩ => ?_
      exact ⟨_, serviceNs, serviceName, hKey, hNames, (hActivates.received order).2,
        hHolds user name clusterId serviceNs serviceName labels hActivates⟩
    · exact (hSecrets key key secret hLookup).imp_right fun hNever => hNever.2.elim
  · intro key config hLookup
    rcases IdentityCreator.handleAccounts_writes accountOutcomes s.creator msg s.accounts with
      ⟨user, name, clusterId, serviceNs, serviceName, labels, hActivates, -, hConfigs⟩ | ⟨-, hConfigs⟩
    · refine (hConfigs key config hLookup).imp_right fun hWritten => ?_
      exact ⟨_, serviceNs, serviceName, hWritten.1, (hActivates.received order).2,
        hHolds user name clusterId serviceNs serviceName labels hActivates⟩
    · exact (hConfigs key key config hLookup).imp_right fun hNever => hNever.2.elim

/-- An activation that the creator handles is justified exactly if it takes effect. -/
theorem justified_activation_iff {order : IterationOrder} {msg : IdentityCreatorProtocol}
    {queue : Channel IdentityCreatorProtocol} (hOutbox : s.creator.outbox = []) {user : ServiceUser}
    {name clusterId serviceNs serviceName : String} {labels : Labels}
    (hActivates : s.creator.Activates env msg user name clusterId serviceNs serviceName labels) :
    Justified s ⟨⟨{ s.manager with identityCreatorQueue := queue }, s.creator.receive env order msg⟩,
      s.creator.handleAccounts accountOutcomes env msg s.accounts⟩ ↔ s.creator.Takes env user name := by
  obtain ⟨hSystem, hNotice⟩ := hActivates.received order
  rw [← IdentityCreator.holds_activation_iff env s.creator user name labels, ← hSystem]
  constructor
  · intro hJustified
    refine (hJustified.sent _ serviceNs serviceName hNotice).resolve_left fun hBefore => ?_
    rw [hOutbox] at hBefore
    cases hBefore
  · intro hHolds
    refine justified_received hOutbox fun user' name' clusterId' serviceNs' serviceName' labels' hOther => ?_
    cases hActivates.message.symm.trans hOther.message
    cases hActivates.named.symm.trans hOther.named
    exact hHolds

theorem Vouched.justified (h : Vouched s) {event : Event} (hAllowed : Effective env s event)
    (hNext : next outcomes env accountOutcomes s event = some t) : Justified s t := by
  obtain ⟨processes, hProcesses, rfl⟩ := Option.map_eq_some_iff.mp hNext
  cases next_move outcomes env hProcesses with
  | arrive msg hMsg =>
    exact .of_accounts rfl (fun _ _ _ hMem => hMem) fun key i' hLookup => .inl ⟨i', hLookup, rfl, rfl⟩
  | handle order msg queue hRecv => exact h.handled hRecv hAllowed
  | receive order msg queue hOutbox hStatus hRecv =>
    obtain ⟨rest, hPending, -⟩ := Channel.recv_eq_some.mp hRecv
    simp only [manager, hRecv]
    refine justified_received hOutbox fun user name clusterId serviceNs serviceName labels hActivates => ?_
    rw [(hActivates.received order).1, IdentityCreator.holds_activation_iff]
    have hEffect : TakesEffect env s.creator (.activateServiceUser user clusterId serviceNs serviceName labels) :=
      hAllowed _ (by rw [hPending, ← hActivates.message]; rfl)
    exact hEffect hActivates.running name hActivates.named
  | deliver msg rest hOutbox =>
    refine .of_accounts rfl (fun user serviceNs serviceName hMem => ?_)
      fun key i' hLookup => .inl ⟨i', hLookup, rfl, rfl⟩
    exact hOutbox ▸ List.mem_cons_of_mem msg hMem

theorem vouched_started {clusterId : String} {stored : List ServiceIdentity} {system : System} {secret : SecretApi}
    {poolSize : Nat} {accounts : Accounts} : Vouched (started clusterId stored system secret poolSize accounts) := by
  have hNone : ∀ user serviceNs serviceName,
      ¬(started clusterId stored system secret poolSize accounts).processes.Noticed user serviceNs serviceName := by
    obtain ⟨provider, hRestored⟩ := IdentityManager.restored_frame clusterId stored
    intro user serviceNs serviceName hNoticed
    simp [Noticed, started, Processes.started, hRestored, IdentityCreator.new, IdentityManager.new,
      IdentityManager.sendToCreator, Channel.empty] at hNoticed
  exact ⟨fun _ => hNone, fun user serviceNs serviceName hNoticed => absurd hNoticed
    (hNone user serviceNs serviceName)⟩

/-- In a run whose activations take effect, and whose notices are for users that are still as they say, every step is
justified. -/
theorem activated_means_activated {clusterId : String} {stored : List ServiceIdentity} {system : System}
    {secret : SecretApi} {poolSize : Nat} {accounts : Accounts}
    (hRun : Steps (next outcomes env accountOutcomes) (Effective env)
      (started clusterId stored system secret poolSize accounts) s)
    {event : Event} (hAllowed : Effective env s event) (hNext : next outcomes env accountOutcomes s event = some t) :
    Justified s t := by
  have hVouched : Vouched s := hRun.invariant Vouched (fun _ _ _ h hStep hNext => h.step hStep hNext) vouched_started
  exact hVouched.justified hAllowed hNext

def sampleLosing (lost : Nat) : Surroundings :=
  { IdentityCreator.sampleSurroundings fun _ => .delivered with
    systemOutcomes := fun n => if n = lost then .requestLost else .delivered }

def sampleAccountOutcomes : AccountOutcomes := ⟨fun _ => .delivered, fun _ => .delivered⟩

/-- A service without users that keeps one in the pool. -/
def sampleProvisioning : Provisioning :=
  started "cluster" [] ⟨⟨[], [], []⟩, 0, []⟩ ⟨some ⟨some ∅⟩, 0, []⟩
    1 ⟨⟨∅, 0, []⟩, ⟨∅, 0, []⟩⟩

/-- Candidate `a` is requested, and the creator has come to the activation of its user. -/
def sampleToActivation : List Event :=
  [.receive .asStored, .deliver, .deliver, .arrive (.requestServiceIdentity (IdentityManager.sampleCandidate "a")),
    .handle .asStored,
    .handle .asStored, .handle .asStored, .receive .asStored, .deliver]

def sampleActivating (lost : Nat) : Provisioning :=
  runD (next (fun _ => .delivered) (sampleLosing lost) sampleAccountOutcomes) sampleProvisioning sampleToActivation

def sampleActivated (lost : Nat) : Provisioning :=
  runD (next (fun _ => .delivered) (sampleLosing lost) sampleAccountOutcomes) (sampleActivating lost)
    [.receive .asStored]

def sampleRecorded (lost : Nat) : Provisioning :=
  runD (next (fun _ => .delivered) (sampleLosing lost) sampleAccountOutcomes) (sampleActivated lost)
    [.deliver, .handle .asStored, .handle .asStored]

theorem activated_means_activated_sample : Justified (sampleActivating 9) (sampleActivated 9) := by
  have hRun : Steps (next (fun _ => .delivered) (sampleLosing 9) sampleAccountOutcomes) (Effective (sampleLosing 9))
      sampleProvisioning (sampleActivating 9) :=
    Steps.of_runD sampleToActivation (by decide +kernel) (by decide +kernel)
  have hNext : next (fun _ => .delivered) (sampleLosing 9) sampleAccountOutcomes (sampleActivating 9)
      (.receive .asStored) = some (sampleActivated 9) := by decide +kernel
  exact activated_means_activated hRun (by decide +kernel) hNext

/-- The call that modifies the user is lost. The notice is sent all the same, the objects of the service are written,
and its identity gets the new name, while nobody in the system is enabled. -/
theorem lost_activation_announced :
    Steps (next (fun _ => .delivered) (sampleLosing 4) sampleAccountOutcomes) (fun _ _ => True) sampleProvisioning
      (sampleActivating 4) ∧
    next (fun _ => .delivered) (sampleLosing 4) sampleAccountOutcomes (sampleActivating 4) (.receive .asStored) =
      some (sampleActivated 4) ∧
    ¬Justified (sampleActivating 4) (sampleActivated 4) ∧
    (sampleActivated 4).accounts.secrets.store.keys = [("ns", "ns-a-service-user")] ∧
    ((sampleRecorded 4).manager.identities.lookup "ns_a").map (fun i => i.credentials.name) =
      some "cluster_ns_a_abcde" ∧
    ∀ v ∈ (sampleRecorded 4).creator.system.store.users, v.disabled = true := by
  refine ⟨Steps.of_runD sampleToActivation (by decide +kernel) (by decide +kernel), by decide +kernel, fun h => ?_,
    by decide +kernel, by decide +kernel, by decide +kernel⟩
  have hSent : ∃ user, .activatedServiceUser user "ns" "a" ∈ (sampleActivated 4).creator.outbox ∧
      ¬Holds (sampleActivated 4).creator.system user := by
    refine ⟨⟨(IdentityCreator.sampleUuid 0).toString, "cluster_ns_a_abcde", (IdentityCreator.sampleUuid 1).toString,
      "appgate://profile", some []⟩, ?_, ?_⟩ <;> decide +kernel
  obtain ⟨user, hMem, hMissing⟩ := hSent
  rcases h.sent user "ns" "a" hMem with hBefore | hHolds
  · have hEmpty : (sampleActivating 4).creator.outbox = [] := by decide +kernel
    rw [hEmpty] at hBefore
    cases hBefore
  · exact hMissing hHolds

end Provisioning

end SdpK8sInjector.IdentityService
