import SdpK8sInjector.IdentityService.Creator

/-! # What the operations of the IdentityCreator can do

The lemmas say which users are deleted, which entries of the secret change and
what is sent, whichever calls fail.
-/

namespace SdpK8sInjector.IdentityService.IdentityCreator

open Lib Common

variable (env : Surroundings)

/-- What the `call`-th read of the secret recovers for the user with the given id. -/
def readPassword (secret : Option Secret) (call : Nat) (id : String) : Option String :=
  if env.secretOutcomes call = .delivered then readablePassword secret id else none

theorem recoverSdpUser_spec (u : SDPUser) (url : String) (deviceIds : List Uuid) (c : IdentityCreator) :
    ∃ secret, secret.store = c.secret.store ∧ secret.calls = c.secret.calls + 1 ∧
      c.recoverSdpUser env u url deviceIds =
        ((readPassword env c.secret.store c.secret.calls u.id).map (fun pwd =>
          ⟨u.id, u.name, pwd, url, some (deviceIds.map Uuid.toString)⟩),
        { c with drawn := c.drawn + 1, secret := secret }) := by
  let user : ServiceUser :=
    ⟨u.id, u.name, (env.newV4 c.drawn).toString, url, some (deviceIds.map Uuid.toString)⟩
  obtain ⟨hRestored, hStore, hCalls⟩ := user.restore_eq env.secretOutcomes c.secret
  exact ⟨_, hStore, hCalls, Prod.ext hRestored rfl⟩

/-- Deleting a fetched user leaves the secret alone: it carries no password. -/
theorem deleteSdpUser_spec (u : SDPUser) (hPassword : u.password = none) (c : IdentityCreator) :
    ∃ system gone, (c.deleteSdpUser env u).2 = { c with system := system } ∧ gone.Sublist [u.id] ∧
      system.store.deletedUsers = c.system.store.deletedUsers ++ gone ∧
      (∀ v ∈ c.system.store.users, v ∈ system.store.users ∨ v.id ∈ gone) ∧
      ((∀ n, env.systemOutcomes n = .delivered) → (∃ v ∈ c.system.store.users, v.id = u.id) →
        gone = [u.id]) := by
  have hNone : ServiceUser.fromSdpUser u "" none (some []) = none := by simp [ServiceUser.fromSdpUser, hPassword]
  have hDevices := System.unregisterDeviceIdsForUsername_sameUsers env.systemOutcomes env.matchesUsername c.system
    u.prefixName none none none false
  generalize hSystem : (c.system.unregisterDeviceIdsForUsername env.systemOutcomes env.matchesUsername
    u.prefixName none none none false).2 = system at hDevices
  obtain ⟨gone, hGone, hDeleted, hOthers, hAll⟩ := System.deleteUser_spec env.systemOutcomes system u.id
  rw [hDevices.users] at hOthers hAll
  refine ⟨(system.deleteUser env.systemOutcomes u.id).2, gone, ?_, hGone, ?_, hOthers, hAll⟩
  · simp [deleteSdpUser, hNone, hSystem]
  · rw [hDeleted, hDevices.deletedUsers]

/-- The listed users whose password is recovered, the first one by the given call. -/
def recoveredUsers (secret : Option Secret) : Nat → List SDPUser → List SDPUser
  | _, [] => []
  | call, u :: us =>
    (if (readPassword env secret call u.id).isSome then [u] else []) ++ recoveredUsers secret (call + 1) us

def lostUsers (secret : Option Secret) : Nat → List SDPUser → List SDPUser
  | _, [] => []
  | call, u :: us =>
    (if (readPassword env secret call u.id).isSome then [] else [u]) ++ lostUsers secret (call + 1) us

/-- From `r` to `r'` the given users were recovered or deleted. -/
structure Recovered (us : List SDPUser) (r r' : Recovery) (found : List (ServiceUser × Bool)) (gone : List String) :
    Prop where
  outbox : r'.creator.outbox = r.creator.outbox ++ found.map fun p => .foundServiceUser p.1 p.2
  found_ids : found.map (fun p => (p.1.id, p.2)) =
    (recoveredUsers env r.creator.secret.store r.creator.secret.calls us).map fun u => (u.id, !u.disabled)
  known : ∀ field, field ∈ r'.knownServiceUsers ↔ field ∈ r.knownServiceUsers ∨
    ∃ u ∈ recoveredUsers env r.creator.secret.store r.creator.secret.calls us, field = u.id ++ "-service-password"
  secret : r'.creator.secret.store = r.creator.secret.store
  calls : r'.creator.secret.calls = r.creator.secret.calls + us.length
  deleted : r'.creator.system.store.deletedUsers = r.creator.system.store.deletedUsers ++ gone
  gone_sublist : gone.Sublist ((lostUsers env r.creator.secret.store r.creator.secret.calls us).map SDPUser.id)
  others : ∀ v ∈ r.creator.system.store.users, v ∈ r'.creator.system.store.users ∨ v.id ∈ gone
  complete : (∀ n, env.systemOutcomes n = .delivered) →
    ∀ u ∈ lostUsers env r.creator.secret.store r.creator.secret.calls us,
      (∃ v ∈ r.creator.system.store.users, v.id = u.id) → u.id ∈ gone
  frame : r'.creator = { r.creator with
    system := r'.creator.system
    secret := r'.creator.secret
    drawn := r.creator.drawn + us.length
    outbox := r'.creator.outbox }

theorem Recovered.nil (r : Recovery) : Recovered env [] r r [] [] := by
  constructor <;> simp [recoveredUsers, lostUsers]

theorem Recovered.cons {u : SDPUser} {us : List SDPUser} {r r' r'' : Recovery}
    {found found' : List (ServiceUser × Bool)} {gone gone' : List String}
    (h : Recovered env [u] r r' found gone) (h' : Recovered env us r' r'' found' gone') :
    Recovered env (u :: us) r r'' (found ++ found') (gone ++ gone') := by
  have hSecret := h.secret
  have hCalls : r'.creator.secret.calls = r.creator.secret.calls + 1 := h.calls
  have hRecovered : recoveredUsers env r.creator.secret.store r.creator.secret.calls (u :: us) =
      recoveredUsers env r.creator.secret.store r.creator.secret.calls [u] ++
        recoveredUsers env r'.creator.secret.store r'.creator.secret.calls us := by
    rw [hSecret, hCalls]
    simp [recoveredUsers]
  have hLost : lostUsers env r.creator.secret.store r.creator.secret.calls (u :: us) =
      lostUsers env r.creator.secret.store r.creator.secret.calls [u] ++
        lostUsers env r'.creator.secret.store r'.creator.secret.calls us := by
    rw [hSecret, hCalls]
    simp [lostUsers]
  constructor
  · rw [h'.outbox, h.outbox, List.append_assoc, List.map_append]
  · rw [List.map_append, h.found_ids, h'.found_ids, hRecovered, List.map_append]
  · intro field
    rw [h'.known, h.known, hRecovered]
    simp only [List.mem_append, or_and_right, exists_or, or_assoc]
  · exact h'.secret.trans hSecret
  · rw [h'.calls, hCalls, List.length_cons]
    omega
  · rw [h'.deleted, h.deleted, List.append_assoc]
  · rw [hLost, List.map_append]
    exact h.gone_sublist.append h'.gone_sublist
  · intro v hv
    rw [List.mem_append]
    rcases h.others v hv with hv | hv
    · exact (h'.others v hv).imp id .inr
    · exact .inr (.inl hv)
  · rintro hDelivered w hw ⟨v, hv, hId⟩
    rw [hLost] at hw
    rw [List.mem_append]
    rcases List.mem_append.mp hw with hw | hw
    · exact .inl (h.complete hDelivered w hw ⟨v, hv, hId⟩)
    -- the user is still there, or one of the same id was deleted before
    · rcases h.others v hv with hv | hv
      · exact .inr (h'.complete hDelivered w hw ⟨v, hv, hId⟩)
      · exact .inl (hId ▸ hv)
  · rw [h'.frame, h.frame]
    simp only [List.length_cons, List.length_nil]
    congr 1
    omega

theorem recoverUser_spec (url : String) (r : Recovery) (u : SDPUser) (hPassword : u.password = none) :
    ∃ found gone, Recovered env [u] r (recoverUser env url r u) found gone := by
  have hDevices := System.getRegisteredDeviceIds_sameUsers env.systemOutcomes env.matchesUsername r.creator.system
    u.name
  generalize hQuery : r.creator.system.getRegisteredDeviceIdsForUser env.systemOutcomes env.matchesUsername u = query
  obtain ⟨devices, system⟩ := query
  rw [show r.creator.system.getRegisteredDeviceIds env.systemOutcomes env.matchesUsername u.name =
    (devices, system) from hQuery] at hDevices
  let c : IdentityCreator := { r.creator with system := system }
  obtain ⟨secret, hStore, hCalls, hResult⟩ := recoverSdpUser_spec env u url
    ((devices.toOption.getD []).filterMap fun d => env.parseUuid d.deviceId) c
  cases hRead : readPassword env r.creator.secret.store r.creator.secret.calls u.id with
  | some pwd =>
    have hRecovered : recoveredUsers env r.creator.secret.store r.creator.secret.calls [u] = [u] := by
      simp [recoveredUsers, hRead]
    have hLost : lostUsers env r.creator.secret.store r.creator.secret.calls [u] = [] := by
      simp [lostUsers, hRead]
    rw [show readPassword env c.secret.store c.secret.calls u.id = some pwd from hRead] at hResult
    simp only [recoverUser, hQuery, c, hResult, Option.map_some]
    refine ⟨[(_, !u.disabled)], [], rfl, ?_, ?_, hStore, hCalls, ?_, ?_, ?_, ?_, rfl⟩
    · rw [hRecovered]
      rfl
    · intro field
      rw [hRecovered, AList.mem_insert, or_comm]
      simp [ServiceUser.secretsFieldNames]
    · exact hDevices.deletedUsers.trans (List.append_nil _).symm
    · exact List.nil_sublist _
    · intro v hv
      exact .inl (hDevices.users ▸ hv)
    · intro _ w hw
      rw [hLost] at hw
      cases hw
  | none =>
    have hRecovered : recoveredUsers env r.creator.secret.store r.creator.secret.calls [u] = [] := by
      simp [recoveredUsers, hRead]
    have hLost : lostUsers env r.creator.secret.store r.creator.secret.calls [u] = [u] := by
      simp [lostUsers, hRead]
    rw [show readPassword env c.secret.store c.secret.calls u.id = none from hRead] at hResult
    simp only [recoverUser, hQuery, c, hResult, Option.map_none]
    obtain ⟨system', gone, hCreator, hGone, hDeleted, hOthers, hAll⟩ := deleteSdpUser_spec env u hPassword
      { c with drawn := c.drawn + 1, secret := secret }
    have hUsers : system.store.users = r.creator.system.store.users := hDevices.users
    simp only [c, hUsers] at hCreator hOthers hAll
    rw [hCreator]
    refine ⟨[], gone, ?_, ?_, ?_, hStore, hCalls, ?_, ?_, hOthers, ?_, rfl⟩
    · exact (List.append_nil _).symm
    · rw [hRecovered]
      rfl
    · rw [hRecovered]
      simp
    · exact hDeleted.trans (congrArg (· ++ gone) hDevices.deletedUsers)
    · rw [hLost]
      exact hGone
    · intro hDelivered w hw hPresent
      rw [hLost] at hw
      obtain rfl := List.mem_singleton.mp hw
      rw [hAll hDelivered hPresent]
      exact List.mem_singleton_self _

theorem foldl_recoverUser_spec (url : String) (us : List SDPUser) (hPasswords : ∀ u ∈ us, u.password = none)
    (r : Recovery) : ∃ found gone, Recovered env us r (us.foldl (recoverUser env url) r) found gone := by
  induction us generalizing r with
  | nil => exact ⟨[], [], Recovered.nil env r⟩
  | cons u rest ih =>
    obtain ⟨found, gone, hOne⟩ := recoverUser_spec env url r u (hPasswords u List.mem_cons_self)
    obtain ⟨found', gone', hRest⟩ := ih (fun v hv => hPasswords v (List.mem_cons_of_mem u hv))
      (recoverUser env url r u)
    exact ⟨_, _, hOne.cons env hRest⟩

/-- The cleanup only touches the secret, and there no entry of a known user. -/
theorem cleanupSecretEntries_spec (known : HashSet String) (c : IdentityCreator) :
    ∃ secret, (c.cleanupSecretEntries env known).2 = { c with secret := secret } ∧
      ∀ field ∈ known, (Secret.stored secret.store).lookup field = (Secret.stored c.secret.store).lookup field := by
  have hGet : (c.secret.call env.secretOutcomes .transport Secret.get).2.store = c.secret.store := by
    rcases Remote.call_store with hSame | ⟨a, hStore⟩
    · exact hSame
    · exact (Secret.stored_get hStore).1
  unfold cleanupSecretEntries
  cases hCall : c.secret.call env.secretOutcomes .transport Secret.get with
  | mk result secret =>
    rw [hCall] at hGet
    cases result with
    | error e => exact ⟨secret, rfl, fun field _ => by rw [hGet]⟩
    | ok stored =>
      dsimp only
      cases stored.data with
      | none => exact ⟨secret, rfl, fun field _ => by rw [hGet]⟩
      | some data =>
        dsimp only
        split
        · exact ⟨secret, rfl, fun field _ => by rw [hGet]⟩
        · refine ⟨_, rfl, fun field hKnown => ?_⟩
          rcases Remote.call_store with hSame | ⟨u, hStore⟩
          · rw [hSame, hGet]
          · rw [Secret.lookup_stored_remove hStore (by simp [hKnown]), hGet]

/-- The ids of fresh users are random and drawn one after the other. -/
def FreshIds (ids : List String) (first last : Nat) : Prop :=
  ∃ draws : List Nat, ids = draws.map (fun n => (env.newV4 n).toString) ∧ draws.Pairwise (· < ·) ∧
    ∀ n ∈ draws, first ≤ n ∧ n < last

/-- Fresh users were created and announced; nobody was deleted and no entry of the secret removed. -/
structure Created (c c' : IdentityCreator) (created : List ServiceUser) : Prop where
  outbox : c'.outbox = c.outbox ++ created.map fun u => .foundServiceUser u false
  ids : FreshIds env (created.map ServiceUser.id) c.drawn c'.drawn
  drawn : c.drawn ≤ c'.drawn
  deletedUsers : c'.system.store.deletedUsers = c.system.store.deletedUsers
  secret : ∀ field ∈ Secret.stored c.secret.store, field ∈ Secret.stored c'.secret.store
  status : c'.status = c.status

theorem Created.nil (c : IdentityCreator) : Created env c c [] :=
  ⟨by simp, ⟨[], by simp⟩, le_rfl, rfl, fun _ h => h, rfl⟩

theorem Created.append {c c' c'' : IdentityCreator} {us us' : List ServiceUser} (h : Created env c c' us)
    (h' : Created env c' c'' us') : Created env c c'' (us ++ us') where
  outbox := by rw [h'.outbox, h.outbox, List.append_assoc, List.map_append]
  ids := by
    obtain ⟨draws, hIds, hOrdered, hBounds⟩ := h.ids
    obtain ⟨draws', hIds', hOrdered', hBounds'⟩ := h'.ids
    refine ⟨draws ++ draws', by rw [List.map_append, hIds, hIds', List.map_append], ?_, ?_⟩
    · refine List.pairwise_append.mpr ⟨hOrdered, hOrdered', fun n hn n' hn' => ?_⟩
      exact lt_of_lt_of_le (hBounds n hn).2 (hBounds' n' hn').1
    · intro n hn
      rcases List.mem_append.mp hn with hn | hn
      · exact ⟨(hBounds n hn).1, lt_of_lt_of_le (hBounds n hn).2 h'.drawn⟩
      · exact ⟨le_trans h.drawn (hBounds' n hn).1, (hBounds' n hn).2⟩
  drawn := le_trans h.drawn h'.drawn
  deletedUsers := h'.deletedUsers.trans h.deletedUsers
  secret field hField := h'.secret field (h.secret field hField)
  status := h'.status.trans h.status

theorem createUser_spec (c : IdentityCreator) :
    (∃ user c', c.createUser env = (.ok user, c') ∧
      Created env c (c'.sendToManager (.foundServiceUser user false)) [user]) ∨
    ∃ e c', c.createUser env = (.error e, c') ∧ Created env c c' [] := by
  have hNobody : ∀ first last, FreshIds env [] first last := fun _ _ => ⟨[], by simp⟩
  let sdpUser := SDPUser.new (env.newV4 (c.drawn + 1)).toString (env.newV4 c.drawn).toString none none
  cases hUrl : env.clientProfileUrl c.profileRequests with
  | error e =>
    refine .inr ⟨.system e, { c with drawn := c.drawn + 2, profileRequests := c.profileRequests + 1 }, ?_, ?_⟩
    · simp [createUser, draw, getClientProfileUrl, hUrl, Except.mapError]
    · exact ⟨by simp, hNobody _ _, Nat.le_add_right _ _, rfl, fun _ h => h, rfl⟩
  | ok url =>
    obtain ⟨hDeleted, hSame⟩ := System.createUser_spec env.systemOutcomes c.system sdpUser
    generalize hCall : c.system.createUser env.systemOutcomes sdpUser = called at hDeleted hSame
    obtain ⟨result, system⟩ := called
    cases result with
    | error e =>
      refine .inr ⟨.system e,
        { c with drawn := c.drawn + 2, profileRequests := c.profileRequests + 1, system := system }, ?_, ?_⟩
      · simp only [createUser, draw, getClientProfileUrl, hUrl, Except.mapError]
        rw [show c.system.createUser env.systemOutcomes _ = _ from hCall]
      · exact ⟨by simp, hNobody _ _, Nat.le_add_right _ _, hDeleted, fun _ h => h, rfl⟩
    | ok created =>
      cases hSame created rfl
      let user : ServiceUser := ⟨sdpUser.id, sdpUser.name, (env.newV4 (c.drawn + 1)).toString, url, some []⟩
      have hUser : ServiceUser.fromSdpUser sdpUser url none (some []) = some user := rfl
      have hStored := fun field => user.updateSecretsFields_stored env.secretOutcomes c.secret
        IDENTITY_MANAGER_SECRET_NAME false field
      generalize hUpdate : user.updateSecretsFields env.secretOutcomes c.secret IDENTITY_MANAGER_SECRET_NAME false =
        updated at hStored
      obtain ⟨result, secret⟩ := updated
      have hFresh : FreshIds env [user.id] c.drawn (c.drawn + 2) := ⟨[c.drawn], rfl, by simp, by simp⟩
      let c' : IdentityCreator :=
        { c with drawn := c.drawn + 2, profileRequests := c.profileRequests + 1, system := system, secret := secret }
      have hCreate : c.createUser env = ((result.mapError .secret).map fun _ => user, c') := by
        simp only [createUser, draw, getClientProfileUrl, hUrl, Except.mapError]
        rw [show c.system.createUser env.systemOutcomes _ = _ from hCall]
        dsimp only
        rw [hUser]
        dsimp only
        rw [hUpdate]
        cases result <;> rfl
      cases result with
      | ok u => exact .inl ⟨user, c', hCreate, rfl, hFresh, Nat.le_add_right _ _, hDeleted, hStored, rfl⟩
      | error e =>
        exact .inr ⟨.secret e, c', hCreate, by simp [c'], hNobody _ _, Nat.le_add_right _ _, hDeleted,
          hStored, rfl⟩

theorem createMissingUsers_spec (n : Nat) (c : IdentityCreator) :
    ∃ created, Created env c (createMissingUsers env n c).2 created := by
  induction n generalizing c with
  | zero => exact ⟨[], Created.nil env c⟩
  | succ n ih =>
    unfold createMissingUsers
    rcases createUser_spec env c with ⟨user, c', hCreate, hCreated⟩ | ⟨e, c', hCreate, hCreated⟩
    · rw [hCreate]
      obtain ⟨created, hRest⟩ := ih (c'.sendToManager (.foundServiceUser user false))
      exact ⟨[user] ++ created, hCreated.append env hRest⟩
    · rw [hCreate]
      exact ⟨[], hCreated⟩

theorem fillPool_spec (r : Recovery) :
    ∃ created secret, Created env { r.creator with secret := secret } (fillPool env r).2 created ∧
      ∀ field ∈ r.knownServiceUsers,
        (Secret.stored secret.store).lookup field = (Secret.stored r.creator.secret.store).lookup field := by
  obtain ⟨secret, hCleanup, hKept⟩ := cleanupSecretEntries_spec env r.knownServiceUsers r.creator
  unfold fillPool
  cases hResult : r.creator.cleanupSecretEntries env r.knownServiceUsers with
  | mk result c =>
    rw [hResult] at hCleanup
    cases hCleanup
    cases result with
    | error e => exact ⟨[], secret, Created.nil env _, hKept⟩
    | ok u =>
      obtain ⟨created, hCreated⟩ := createMissingUsers_spec env r.missingUsers { r.creator with secret := secret }
      exact ⟨created, secret, hCreated, hKept⟩

/-- What a running creator answers to one message. -/
inductive Answer (msg : IdentityCreatorProtocol) (c c' : IdentityCreator) : Prop where
  | silent (hOutbox : c'.outbox = c.outbox) (hDrawn : c.drawn ≤ c'.drawn) :
      Answer msg c c'
  | created (user : ServiceUser) (hOutbox : c'.outbox = c.outbox ++ [.foundServiceUser user false])
      (hId : FreshIds env [user.id] c.drawn c'.drawn) (hDrawn : c.drawn ≤ c'.drawn) (hMsg : msg = .createIdentity) :
      Answer msg c c'
  | activated (user : ServiceUser) (clusterId serviceNs serviceName : String) (labels : Labels) (userName : String)
      (hMsg : msg = .activateServiceUser user clusterId serviceNs serviceName labels)
      (hOutbox : c'.outbox = c.outbox ++ [.activatedServiceUser { user with name := userName } serviceNs serviceName])
      (hDrawn : c.drawn ≤ c'.drawn) :
      Answer msg c c'

theorem deleteSdpUser_frame (u : SDPUser) (c : IdentityCreator) :
    ∃ system secret, (c.deleteSdpUser env u).2 = { c with system := system, secret := secret } := by
  unfold deleteSdpUser
  cases ServiceUser.fromSdpUser u "" none (some []) with
  | none => exact ⟨_, _, rfl⟩
  | some serviceUser =>
    dsimp only
    cases hClear : serviceUser.deleteSecretsFields env.secretOutcomes c.secret IDENTITY_MANAGER_SECRET_NAME with
    | mk result secret => cases result <;> exact ⟨_, _, rfl⟩

theorem handle_deleteServiceUser_frame (order : IterationOrder) (user : ServiceUser) (serviceNs serviceName : String)
    (c : IdentityCreator) :
    ∃ system secret, c.handle env order (.deleteServiceUser user serviceNs serviceName) =
      { c with drawn := c.drawn + 1, system := system, secret := secret } :=
  deleteSdpUser_frame env (.new (env.newV4 c.drawn).toString user.id (some user.name) none)
    { c with drawn := c.drawn + 1 }

theorem handle_deleteSDPUser_frame (order : IterationOrder) (sdpUserId : String) (c : IdentityCreator) :
    ∃ system secret, c.handle env order (.deleteSDPUser sdpUserId) =
      { c with drawn := c.drawn + 1, system := system, secret := secret } :=
  deleteSdpUser_frame env (.new (env.newV4 c.drawn).toString sdpUserId none none) { c with drawn := c.drawn + 1 }

theorem reconcileSDPUsers_frame (order : IterationOrder) (names : HashSet String) (c : IdentityCreator) :
    ∃ system drawn, c.reconcileSDPUsers env order names = { c with system := system, drawn := drawn } ∧
      System.SameUsers c.system system ∧ c.drawn ≤ drawn := by
  unfold reconcileSDPUsers
  generalize order.walk names.keys = walked
  induction walked generalizing c with
  | nil => exact ⟨c.system, c.drawn, rfl, .refl c.system, le_rfl⟩
  | cons name rest ih =>
    let sdpUser := SDPUser.new (c.draw env).1.toString name (some name) (some false)
    let released : IdentityCreator := { (c.draw env).2 with
      system := (c.system.unregisterDeviceIdsForUsername env.systemOutcomes env.matchesUsername sdpUser.prefixName
        (some names) none none false).2 }
    have hOne : System.SameUsers c.system released.system :=
      System.unregisterDeviceIdsForUsername_sameUsers _ _ _ _ _ _ _ _
    obtain ⟨system, drawn, hRest, hSame, hDrawn⟩ := ih released
    exact ⟨system, drawn, hRest, hOne.trans hSame, le_trans (Nat.le_succ _) hDrawn⟩

theorem activateServiceUser_answer (user : ServiceUser) (clusterId serviceNs serviceName : String) (labels : Labels)
    (c : IdentityCreator) :
    Answer env (.activateServiceUser user clusterId serviceNs serviceName labels) c
      (c.activateServiceUser env user clusterId serviceNs serviceName labels) := by
  unfold activateServiceUser
  cases getServiceUsername (env.randomSuffix c.drawn) clusterId serviceNs serviceName with
  | none => exact .silent rfl le_rfl
  | some name => exact .activated user clusterId serviceNs serviceName labels name rfl rfl (Nat.le_succ _)

theorem handle_answer (order : IterationOrder) (msg : IdentityCreatorProtocol) (c : IdentityCreator) :
    Answer env msg c (c.handle env order msg) := by
  cases msg with
  | startService => exact .silent rfl le_rfl
  | createIdentity =>
    unfold handle
    rcases createUser_spec env c with ⟨user, c', hCreate, hCreated⟩ | ⟨e, c', hCreate, hCreated⟩
    · rw [hCreate]
      exact .created user hCreated.outbox hCreated.ids hCreated.drawn rfl
    · rw [hCreate]
      exact .silent (hCreated.outbox.trans (List.append_nil _)) hCreated.drawn
  | activateServiceUser user clusterId serviceNs serviceName labels =>
    exact activateServiceUser_answer env user clusterId serviceNs serviceName labels c
  | deleteServiceUser user serviceNs serviceName =>
    obtain ⟨system, secret, hHandle⟩ := handle_deleteServiceUser_frame env order user serviceNs serviceName c
    rw [hHandle]
    exact .silent rfl (Nat.le_succ _)
  | deleteSDPUser sdpUserId =>
    obtain ⟨system, secret, hHandle⟩ := handle_deleteSDPUser_frame env order sdpUserId c
    rw [hHandle]
    exact .silent rfl (Nat.le_succ _)
  | reconcileSDPUsers names =>
    obtain ⟨system, drawn, hHandle, -, hDrawn⟩ := reconcileSDPUsers_frame env order names c
    rw [handle, hHandle]
    exact .silent rfl hDrawn
  | releaseDeviceId user deviceId => exact .silent rfl (Nat.le_succ _)

theorem handle_status (order : IterationOrder) (msg : IdentityCreatorProtocol) (c : IdentityCreator) :
    (c.handle env order msg).status = c.status ∨ (c.handle env order msg).status = .panicked := by
  cases msg with
  | startService | releaseDeviceId => exact .inl rfl
  | createIdentity =>
    unfold handle
    rcases createUser_spec env c with ⟨user, c', hCreate, hCreated⟩ | ⟨e, c', hCreate, hCreated⟩ <;>
      rw [hCreate] <;> exact .inl hCreated.status
  | activateServiceUser user clusterId serviceNs serviceName labels =>
    change (c.activateServiceUser env user clusterId serviceNs serviceName labels).status = c.status ∨
      (c.activateServiceUser env user clusterId serviceNs serviceName labels).status = .panicked
    unfold activateServiceUser
    cases getServiceUsername (env.randomSuffix c.drawn) clusterId serviceNs serviceName with
    | none => exact .inr rfl
    | some name => exact .inl rfl
  | deleteServiceUser user serviceNs serviceName =>
    obtain ⟨system, secret, hHandle⟩ := handle_deleteServiceUser_frame env order user serviceNs serviceName c
    rw [hHandle]
    exact .inl rfl
  | deleteSDPUser sdpUserId =>
    obtain ⟨system, secret, hHandle⟩ := handle_deleteSDPUser_frame env order sdpUserId c
    rw [hHandle]
    exact .inl rfl
  | reconcileSDPUsers names =>
    obtain ⟨system, drawn, hHandle, -⟩ := reconcileSDPUsers_frame env order names c
    rw [handle, hHandle]
    exact .inl rfl

end SdpK8sInjector.IdentityService.IdentityCreator
