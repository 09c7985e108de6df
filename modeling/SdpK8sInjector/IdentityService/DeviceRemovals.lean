import SdpK8sInjector.Common.Devices
import SdpK8sInjector.IdentityService.Recovery

/-! # Devices that go with a message

With a user go the devices that the controller finds for its name, its random part cut off;
a release takes the one that it names. No other message takes devices away.
-/

namespace SdpK8sInjector.IdentityService.IdentityCreator

open Lib Common

variable (env : Surroundings)

/-- What a query for the devices of a user of this name asks for. -/
def namePrefix (name : String) : String := (SDPUser.new "" name (some name) none).prefixName

/-- The device is one of those that the creator unregisters for the message. -/
def Selects (c : IdentityCreator) (msg : IdentityCreatorProtocol) (device : OnBoardedUser) : Prop :=
  match c.status, msg with
  | .waiting, .startService => ∃ u ∈ lostUsers env c.secret.store c.secret.calls c.listedUsers,
      env.matchesUsername u.prefixName device.username = true
  | .running, .deleteServiceUser user _ _ => env.matchesUsername (namePrefix user.name) device.username = true
  | .running, .deleteSDPUser id => env.matchesUsername (namePrefix id) device.username = true
  | .running, .reconcileSDPUsers names => device.username ∉ names ∧
      ∃ name ∈ names.keys, env.matchesUsername (namePrefix name) device.username = true
  | .running, .releaseDeviceId user d => device.distinguishedName =
      "CN=" ++ String.ofList (d.toString.toList.filter (· != '-')) ++ ",CN=" ++ user.name ++ ",OU=service"
  | _, _ => False

instance (c : IdentityCreator) (msg : IdentityCreatorProtocol) : DecidablePred (c.Selects env msg) := fun device => by
  unfold Selects
  split <;> infer_instance

variable {env} {c : IdentityCreator}

theorem Selects.of_deleteServiceUser {user : ServiceUser} {serviceNs serviceName : String} {device : OnBoardedUser}
    (h : c.Selects env (.deleteServiceUser user serviceNs serviceName) device) :
    env.matchesUsername (namePrefix user.name) device.username = true := by
  unfold Selects at h
  split at h <;> simp_all

theorem Selects.of_releaseDeviceId {user : ServiceUser} {d : Uuid} {device : OnBoardedUser}
    (h : c.Selects env (.releaseDeviceId user d) device) : device.distinguishedName =
      "CN=" ++ String.ofList (d.toString.toList.filter (· != '-')) ++ ",CN=" ++ user.name ++ ",OU=service" := by
  unfold Selects at h
  split at h <;> simp_all

theorem deleteSdpUser_unregisters (u : SDPUser) (c : IdentityCreator) :
    System.Unregisters (fun d => env.matchesUsername u.prefixName d.username = true) c.system
      (c.deleteSdpUser env u).2.system := by
  have hReleased :=
    (System.unregisterDeviceIdsForUsername_unregisters env.systemOutcomes c.system u.prefixName none none
    none false).mono fun d (h : env.matchesUsername u.prefixName d.username = true ∧ _) => h.1
  have hDeleted := hReleased.trans (System.deleteUser_unregisters env.systemOutcomes _ u.id)
  unfold deleteSdpUser
  cases ServiceUser.fromSdpUser u "" none (some []) with
  | none => exact hDeleted
  | some serviceUser =>
    dsimp only
    cases serviceUser.deleteSecretsFields env.secretOutcomes c.secret IDENTITY_MANAGER_SECRET_NAME with
    | mk result secret =>
      cases result with
      | error e => exact .of_devices rfl
      | ok => exact hDeleted

/-- Where no failure is logged, no device is left that the controller finds for the user. -/
theorem deleteSdpUser_clean (u : SDPUser) (c : IdentityCreator)
    (hSystem : (c.deleteSdpUser env u).2.system.failed = c.system.failed)
    (hSecret : (c.deleteSdpUser env u).2.secret.failed = c.secret.failed) :
    ∀ d ∈ (c.deleteSdpUser env u).2.system.store.devices, env.matchesUsername u.prefixName d.username = false := by
  let released := c.system.unregisterDeviceIdsForUsername env.systemOutcomes env.matchesUsername u.prefixName none none
    none false
  have hReleased : (released.2.deleteUser env.systemOutcomes u.id).2.failed = c.system.failed →
      ∀ d ∈ (released.2.deleteUser env.systemOutcomes u.id).2.store.devices,
        env.matchesUsername u.prefixName d.username = false := by
    intro hFailed d hd
    have hFirst : c.system.failed <+: released.2.failed :=
      System.failed_prefix_unregisterDeviceIdsForUsername env.systemOutcomes c.system u.prefixName none none none false
    have hBetween := (prefix_between hFirst Remote.failed_prefix_call hFailed).1
    have hDeleted : System.Unregisters (fun _ => False) released.2 (released.2.deleteUser env.systemOutcomes u.id).2 :=
      System.deleteUser_unregisters env.systemOutcomes released.2 u.id
    have hBefore := hDeleted.known d hd
    have hLeft := System.unregisterDeviceIdsForUsername_clean env.systemOutcomes c.system u.prefixName none none none
      hBetween d hBefore
    simpa [System.filterOnBoardedUser] using hLeft
  unfold deleteSdpUser at hSystem hSecret ⊢
  cases hUser : ServiceUser.fromSdpUser u "" none (some []) with
  | none =>
    rw [hUser] at hSystem
    rw [hUser] at hSecret
    exact hReleased hSystem
  | some serviceUser =>
    simp only [hUser] at hSystem hSecret ⊢
    cases hClear : serviceUser.deleteSecretsFields env.secretOutcomes c.secret IDENTITY_MANAGER_SECRET_NAME with
    | mk result secret =>
      rw [hClear] at hSystem hSecret
      cases result with
      | error e =>
        have hOk := serviceUser.deleteSecretsFields_ok env.secretOutcomes c.secret IDENTITY_MANAGER_SECRET_NAME
          (by rw [hClear]; exact hSecret)
        rw [hClear] at hOk
        cases hOk
      | ok => exact hReleased hSystem

section Start

/-- The devices that are asked for with one of the users. -/
abbrev FoundFor (env : Surroundings) (us : List SDPUser) (d : OnBoardedUser) : Prop :=
  ∃ u ∈ us, env.matchesUsername u.prefixName d.username = true

theorem FoundFor.mono {us vs : List SDPUser} {d : OnBoardedUser} (hUsers : ∀ u ∈ us, u ∈ vs)
    (h : FoundFor env us d) : FoundFor env vs d := by
  obtain ⟨u, hu, hFound⟩ := h
  exact ⟨u, hUsers u hu, hFound⟩

theorem recoverUser_unregisters (url : String) (r : Recovery) (u : SDPUser) :
    System.Unregisters (FoundFor env (lostUsers env r.creator.secret.store r.creator.secret.calls [u])) r.creator.system
      (recoverUser env url r u).creator.system := by
  have hQuery : System.Unregisters (FoundFor env (lostUsers env r.creator.secret.store r.creator.secret.calls [u]))
      r.creator.system
      (r.creator.system.getRegisteredDeviceIds env.systemOutcomes env.matchesUsername u.name).2 :=
    System.getRegisteredDeviceIds_unregisters env.systemOutcomes r.creator.system u.name
  generalize hCall : r.creator.system.getRegisteredDeviceIdsForUser env.systemOutcomes env.matchesUsername u = query
  obtain ⟨devices, system⟩ := query
  rw [show r.creator.system.getRegisteredDeviceIds env.systemOutcomes env.matchesUsername u.name =
    (devices, system) from hCall] at hQuery
  let c : IdentityCreator := { r.creator with system := system }
  obtain ⟨secret, -, -, hResult⟩ := recoverSdpUser_spec env u url
    ((devices.toOption.getD []).filterMap fun d => env.parseUuid d.deviceId) c
  cases hRead : readPassword env r.creator.secret.store r.creator.secret.calls u.id with
  | some pwd =>
    rw [show readPassword env c.secret.store c.secret.calls u.id = some pwd from hRead] at hResult
    simp only [recoverUser, hCall, c, hResult, Option.map_some]
    exact hQuery
  | none =>
    rw [show readPassword env c.secret.store c.secret.calls u.id = none from hRead] at hResult
    simp only [recoverUser, hCall, c, hResult, Option.map_none]
    refine hQuery.trans ((deleteSdpUser_unregisters u { c with drawn := c.drawn + 1, secret := secret }).mono ?_)
    exact fun d hFound => ⟨u, by simp [lostUsers, hRead], hFound⟩

theorem foldl_recoverUser_unregisters (url : String) (us : List SDPUser) (hPasswords : ∀ u ∈ us, u.password = none)
    (r : Recovery) :
    System.Unregisters (FoundFor env (lostUsers env r.creator.secret.store r.creator.secret.calls us)) r.creator.system
      (us.foldl (recoverUser env url) r).creator.system := by
  induction us generalizing r with
  | nil => exact .of_devices rfl
  | cons u rest ih =>
    obtain ⟨found, gone, hOne⟩ := recoverUser_spec env url r u (hPasswords u List.mem_cons_self)
    have hRest := ih (fun v hv => hPasswords v (List.mem_cons_of_mem u hv)) (recoverUser env url r u)
    rw [hOne.secret, show (recoverUser env url r u).creator.secret.calls = r.creator.secret.calls + 1 from hOne.calls]
      at hRest
    have hLost : lostUsers env r.creator.secret.store r.creator.secret.calls (u :: rest) =
        lostUsers env r.creator.secret.store r.creator.secret.calls [u] ++
          lostUsers env r.creator.secret.store (r.creator.secret.calls + 1) rest := by
      simp [lostUsers]
    rw [hLost]
    exact ((recoverUser_unregisters url r u).mono fun d => FoundFor.mono fun v => List.mem_append_left _).trans
      (hRest.mono fun d => FoundFor.mono fun v => List.mem_append_right _)

variable {selected : OnBoardedUser → Prop}

theorem createUser_unregisters (c : IdentityCreator) :
    System.Unregisters selected c.system (c.createUser env).2.system := by
  unfold createUser
  simp only [draw, getClientProfileUrl]
  cases env.clientProfileUrl c.profileRequests with
  | error e => exact .of_devices rfl
  | ok url =>
    simp only [Except.mapError]
    let sdpUser : SDPUser := .new (env.newV4 (c.drawn + 1)).toString (env.newV4 c.drawn).toString none none
    have hOne : System.Unregisters selected c.system (c.system.createUser env.systemOutcomes sdpUser).2 :=
      System.createUser_unregisters env.systemOutcomes c.system sdpUser
    split
    · rename_i e system hCreate
      rw [hCreate] at hOne
      exact hOne
    · rename_i created system hCreate
      rw [hCreate] at hOne
      split
      · split <;> exact hOne
      · exact hOne

theorem createMissingUsers_unregisters (n : Nat) (c : IdentityCreator) :
    System.Unregisters selected c.system (createMissingUsers env n c).2.system := by
  induction n generalizing c with
  | zero => exact .of_devices rfl
  | succ n ih =>
    have hOne : System.Unregisters selected c.system (c.createUser env).2.system := createUser_unregisters c
    unfold createMissingUsers
    split
    · rename_i e c' hCreate
      rw [hCreate] at hOne
      exact hOne
    · rename_i user c' hCreate
      rw [hCreate] at hOne
      exact hOne.trans (ih (c'.sendToManager (.foundServiceUser user false)))

theorem initializeFrom_unregisters (c : IdentityCreator) :
    System.Unregisters (FoundFor env (lostUsers env c.secret.store c.secret.calls c.listedUsers)) c.system
      (c.initializeFrom env).2.system := by
  rcases initializeFrom_cases env c with ⟨system, e, hInit, hStore, -⟩ | ⟨system, e, hInit, hStore, -⟩ |
    ⟨url, -, -, hInit⟩
  · rw [hInit]
    exact .of_devices (congrArg Controller.devices hStore)
  · rw [hInit]
    exact .of_devices (congrArg Controller.devices hStore)
  · rw [hInit]
    have hPasswords : ∀ u ∈ c.listedUsers, u.password = none := by
      intro u hu
      obtain ⟨v, -, rfl⟩ := List.mem_map.mp hu
      rfl
    have hRecovered : System.Unregisters (FoundFor env (lostUsers env c.secret.store c.secret.calls c.listedUsers))
        c.fetched.system
        (c.listedUsers.foldl (recoverUser env url) ⟨c.fetched, c.serviceUsersPoolSize, ∅⟩).creator.system :=
      foldl_recoverUser_unregisters url c.listedUsers hPasswords ⟨c.fetched, c.serviceUsersPoolSize, ∅⟩
    generalize c.listedUsers.foldl (recoverUser env url) ⟨c.fetched, c.serviceUsersPoolSize, ∅⟩ = r at hRecovered
    obtain ⟨secret, hCleanup, -⟩ := cleanupSecretEntries_spec env r.knownServiceUsers r.creator
    have hFetched : System.Unregisters (FoundFor env (lostUsers env c.secret.store c.secret.calls c.listedUsers))
        c.system r.creator.system := by
      have hList : System.Unregisters
          (FoundFor env (lostUsers env c.secret.store c.secret.calls c.listedUsers)) c.system
          c.fetched.system := .of_devices rfl
      exact hList.trans hRecovered
    change System.Unregisters _ c.system (fillPool env r).2.system
    unfold fillPool
    cases hResult : r.creator.cleanupSecretEntries env r.knownServiceUsers with
    | mk result c₁ =>
      rw [hResult] at hCleanup
      cases hCleanup
      cases result with
      | error e => exact hFetched
      | ok =>
        exact hFetched.trans (createMissingUsers_unregisters r.missingUsers { r.creator with secret := secret })

end Start

theorem reconcileSDPUsers_unregisters (order : IterationOrder) (names : HashSet String) (c : IdentityCreator) :
    System.Unregisters (fun d => d.username ∉ names ∧
      ∃ name ∈ names.keys, env.matchesUsername (namePrefix name) d.username = true) c.system
      (c.reconcileSDPUsers env order names).system := by
  unfold reconcileSDPUsers
  have hWalked : ∀ name ∈ order.walk names.keys, name ∈ names.keys := fun name hName => order.mem_walk.mp hName
  generalize order.walk names.keys = walked at hWalked
  induction walked generalizing c with
  | nil => exact .of_devices rfl
  | cons name rest ih =>
    rw [List.foldl_cons]
    refine .trans ?_ (ih _ fun name' hName' => hWalked name' (List.mem_cons_of_mem _ hName'))
    refine (System.unregisterDeviceIdsForUsername_unregisters env.systemOutcomes c.system (namePrefix name) (some names)
      none none false).mono fun d hd => ?_
    refine ⟨?_, name, hWalked name List.mem_cons_self, hd.1⟩
    simpa [System.filterOnBoardedUser] using hd.2

theorem handle_unregisters (order : IterationOrder) (msg : IdentityCreatorProtocol) (hRunning : c.status = .running) :
    System.Unregisters (c.Selects env msg) c.system (c.handle env order msg).system := by
  unfold Selects
  rw [hRunning]
  cases msg with
  | createIdentity =>
    have hOne : System.Unregisters (fun _ => False) c.system (c.createUser env).2.system := createUser_unregisters c
    unfold handle
    dsimp only
    split
    · rename_i user c' hCreate
      rw [hCreate] at hOne
      exact hOne
    · rename_i e c' hCreate
      rw [hCreate] at hOne
      exact hOne
  | deleteServiceUser user serviceNs serviceName =>
    exact deleteSdpUser_unregisters (.new (env.newV4 c.drawn).toString user.id (some user.name) none) (c.draw env).2
  | deleteSDPUser id =>
    exact deleteSdpUser_unregisters (.new (env.newV4 c.drawn).toString id none none) (c.draw env).2
  | reconcileSDPUsers names => exact reconcileSDPUsers_unregisters order names c
  | releaseDeviceId user d =>
    exact System.unregisterDeviceId_unregisters env.systemOutcomes c.system _ false
  | startService => exact .of_devices rfl
  | activateServiceUser user clusterId serviceNs serviceName labels =>
    dsimp only [handle, activateServiceUser]
    split
    · exact .of_devices rfl
    · exact (System.getUser_unregisters env.systemOutcomes c.system user.id).trans
        (System.modifyUser_unregisters env.systemOutcomes _ _)

/-- Only devices that are selected for the message go, and those with the distinguished name of one. -/
theorem receive_unregisters (order : IterationOrder) (msg : IdentityCreatorProtocol) (c : IdentityCreator) :
    System.Unregisters (c.Selects env msg) c.system (c.receive env order msg).system := by
  cases hStatus : c.status with
  | waiting =>
    unfold receive
    rw [hStatus]
    cases msg with
    | startService =>
      have hInit : System.Unregisters (c.Selects env .startService) c.system (c.initializeFrom env).2.system := by
        unfold Selects
        rw [hStatus]
        exact initializeFrom_unregisters c
      dsimp only
      split
      · rename_i url c' hResult
        rw [hResult] at hInit
        exact hInit
      · rename_i e c' hResult
        rw [hResult] at hInit
        exact hInit
    | _ => exact .of_devices rfl
  | running =>
    have hHandled : System.Unregisters (c.Selects env msg) c.system (c.handle env order msg).system :=
      handle_unregisters order msg hStatus
    unfold receive
    rw [hStatus]
    cases msg <;> exact hHandled
  | panicked =>
    unfold receive
    rw [hStatus]
    cases msg <;> exact .of_devices rfl

end SdpK8sInjector.IdentityService.IdentityCreator
