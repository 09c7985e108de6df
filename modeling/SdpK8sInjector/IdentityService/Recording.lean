import SdpK8sInjector.IdentityService.Activation
import SdpK8sInjector.IdentityService.Mirror

/-! # Device ids that a release has recorded

A release records its device id in the identity of the service and in the object
of the identity. The notice of an activation replaces the user with the copy that
the creator was sent, and with it the recorded device ids.
-/

namespace SdpK8sInjector.IdentityService

open Lib Common

namespace IdentityManager

open ServiceCredentialsProvider

variable {outcomes : Nat → CallOutcome} {order : IterationOrder}

/-- The deletion takes the object of the given name. -/
def removesObject (name : String) : IdentityCreatorProtocol → Bool
  | .deleteServiceUser _ serviceNs serviceName => formatServiceName serviceNs serviceName = name
  | _ => false

/-- The object of the given name is there, and no other registered service writes it. -/
structure OwnObject (key name : String) (o : ServiceIdentity) (m : IdentityManager) : Prop where
  own : ∀ j ∈ m.serviceCredentialsProvider.identities, Service.serviceName j = name → Service.serviceId j = key
  object : m.objects.lookup name = some o

namespace OwnObject

variable {key name : String} {o : ServiceIdentity} {m m' : IdentityManager}

theorem of_same (h : OwnObject key name o m) (hIdentities : m'.identities = m.identities)
    (hObjects : m'.objects = m.objects) : OwnObject key name o m' := by
  refine ⟨fun j hj => h.own j ((mem_identities _).mpr ?_), hObjects ▸ h.object⟩
  change m.identities.lookup _ = _
  rw [← hIdentities]
  exact (mem_identities _).mp hj

/-- A write under another name. -/
theorem insert (h : OwnObject key name o m) {identity written : ServiceIdentity} {stored : String}
    (hIdentities : m'.identities = AList.insert (Service.serviceId identity) identity m.identities)
    (hObjects : m'.objects = AList.insert stored written m.objects) (hStored : stored ≠ name)
    (hName : Service.serviceName identity = name → Service.serviceId identity = key) : OwnObject key name o m' := by
  refine ⟨fun j hj hSame => ?_, ?_⟩
  · have hLookup : m'.identities.lookup (Service.serviceId j) = some j := (mem_identities _).mp hj
    rw [hIdentities, HashMap.lookup_insert_eq_ite] at hLookup
    split at hLookup
    · cases hLookup
      exact hName hSame
    · exact h.own j ((mem_identities _).mpr hLookup) hSame
  · rw [hObjects, HashMap.lookup_insert_eq_ite, if_neg (Ne.symm hStored)]
    exact h.object

theorem eraseAll (h : OwnObject key name o m) {deleted : List ServiceIdentity}
    (hIdentities : m'.identities = HashMap.eraseAll m.identities (deleted.map Service.serviceId))
    (hObjects : m'.objects = HashMap.eraseAll m.objects (deleted.map Service.serviceName))
    (hSpared : ∀ i ∈ deleted, Service.serviceName i ≠ name) : OwnObject key name o m' := by
  refine ⟨fun j hj hSame => ?_, ?_⟩
  · have hLookup : m'.identities.lookup (Service.serviceId j) = some j := (mem_identities _).mp hj
    rw [hIdentities, HashMap.lookup_eraseAll] at hLookup
    split at hLookup
    · cases hLookup
    · exact h.own j ((mem_identities _).mpr hLookup) hSame
  · rw [hObjects, HashMap.lookup_eraseAll, if_neg]
    · exact h.object
    · intro hMem
      obtain ⟨i, hi, hSame⟩ := List.mem_map.mp hMem
      exact hSpared i hi hSame

theorem requested (h : OwnObject key name o m) (c : ServiceCandidate)
    (hCalls : (m.requestServiceIdentity outcomes c).failures = m.failures) :
    OwnObject key name o (m.requestServiceIdentity outcomes c) := by
  have hOutcome := requestServiceIdentity_outcome outcomes c m
  generalize m.requestServiceIdentity outcomes c = m' at hOutcome hCalls ⊢
  cases hOutcome with
  | noNamespace | registered | emptyPool => exact h.of_same rfl rfl
  | createFailed id lookup user rest e api hId hLookup hFormat hPool hCreate =>
    have hSucceeds := ServiceIdentityAPI.create_succeeds (by rw [hCreate]; exact hCalls)
    rw [hCreate] at hSucceeds
    cases hSucceeds
  | created id lookup labels user rest api hId hLookup hFormat hPool hCreate =>
    obtain ⟨_, hFresh, _, hObjects⟩ := ServiceIdentityAPI.create_ok (congrArg Prod.fst hCreate)
    rw [hCreate] at hObjects
    -- the new object is stored under another name than the one that is there
    have hOther : Service.serviceName (identityFor lookup user) ≠ name := by
      rintro rfl
      exact hFresh (HashMap.mem_iff_exists_lookup.mpr ⟨o, h.object⟩)
    exact h.insert rfl hObjects hOther fun hSame => absurd hSame hOther

theorem requestedAll (candidates : List ServiceCandidate) {m : IdentityManager} (h : OwnObject key name o m)
    (hCalls : (candidates.foldl (fun m c => m.requestServiceIdentity outcomes c) m).failures = m.failures) :
    OwnObject key name o (candidates.foldl (fun m c => m.requestServiceIdentity outcomes c) m) := by
  induction candidates generalizing m with
  | nil => exact h
  | cons c rest ih =>
    have hRest := Grows.foldl (fun m c => requestServiceIdentity_grows outcomes c m) rest
      (m.requestServiceIdentity outcomes c)
    obtain ⟨hFirst, hLast⟩ :=
      prefix_between (requestServiceIdentity_grows outcomes c m).failures hRest.failures hCalls
    exact ih (h.requested c hFirst) hLast

/-- A registered identity is written with its object. -/
theorem updated (h : OwnObject key name o m) {i : ServiceIdentity} (identity : ServiceIdentity)
    (hRegistered : i ∈ m.serviceCredentialsProvider.identities)
    (hId : Service.serviceId identity = Service.serviceId i)
    (hName : Service.serviceName identity = Service.serviceName i)
    (hIdentities : m'.identities = AList.insert (Service.serviceId identity) identity m.identities)
    (hApi : m'.serviceIdentityApi = (m.serviceIdentityApi.update outcomes identity).2)
    (hCalls : m'.failures = m.failures) :
    ∃ o', OwnObject key name o' m' ∧
      (o' = o ∧ Service.serviceName identity ≠ name ∨
        m'.identities.lookup key = some identity ∧ o'.spec = identity.spec) := by
  have hUpdate : (m.serviceIdentityApi.update outcomes identity).2.failed = m.serviceIdentityApi.failed :=
    hApi ▸ hCalls
  have hOwn : Service.serviceName identity = name → Service.serviceId identity = key := fun hSame =>
    hId.trans (h.own i hRegistered (hName.symm.trans hSame))
  have hWritten : m'.objects = (m.serviceIdentityApi.update outcomes identity).2.store.objects :=
    congrArg (fun api => api.store.objects) hApi
  rcases ServiceIdentityAPI.update_succeeds hUpdate with ⟨obj, _, _, hObjects⟩ | ⟨hNone, _, hFresh, hObjects⟩
  · by_cases hSame : Service.serviceName identity = name
    · refine ⟨{ obj with spec := identity.spec }, ⟨fun j hj hNamed => ?_, ?_⟩, .inr ⟨?_, rfl⟩⟩
      · have hLookup : m'.identities.lookup (Service.serviceId j) = some j := (mem_identities _).mp hj
        rw [hIdentities, HashMap.lookup_insert_eq_ite] at hLookup
        split at hLookup
        · cases hLookup
          exact hOwn hSame
        · exact h.own j ((mem_identities _).mpr hLookup) hNamed
      · rw [hWritten, hObjects, hSame, AList.lookup_insert]
      · rw [hIdentities, hOwn hSame, AList.lookup_insert]
    · exact ⟨o, h.insert hIdentities (hWritten.trans hObjects) hSame hOwn, .inl ⟨rfl, hSame⟩⟩
  · have hOther : identity.metadataName ≠ name := by
      rintro rfl
      exact hFresh (HashMap.mem_iff_exists_lookup.mpr ⟨o, h.object⟩)
    refine ⟨o, h.insert hIdentities (hWritten.trans hObjects) hOther hOwn, .inl ⟨rfl, ?_⟩⟩
    rintro rfl
    cases hNone.symm.trans h.object

theorem reconciled (h : OwnObject key name o m) (hCalls : (m.reconcile outcomes order).failures = m.failures)
    {sent : List IdentityCreatorProtocol}
    (hSent : (m.reconcile outcomes order).identityCreatorQueue = m.identityCreatorQueue.sendAll sent)
    (hSpared : ∀ x ∈ sent, removesObject name x = false) : OwnObject key name o (m.reconcile outcomes order) := by
  obtain ⟨extra, users, orphans, hReconciled⟩ := reconcile_spec outcomes order m
  refine h.eraseAll hReconciled.identities (hReconciled.objects hCalls) fun i hi hSame => ?_
  have hQueue : _ = sent :=
    List.append_cancel_left (congrArg Channel.pending (hReconciled.queue.symm.trans hSent))
  have hMem : deletionOf i ∈ sent := by
    rw [← hQueue]
    rcases List.mem_append.mp hi with hi | hi
    · exact List.mem_append_left _ (List.mem_append_left _ (List.mem_append_left _ (List.mem_map_of_mem hi)))
    · exact List.mem_append_left _ (List.mem_append_right _ (List.mem_map_of_mem hi))
  have hNot := hSpared _ hMem
  simp [removesObject, deletionOf] at hNot
  exact hNot hSame

theorem reconciledAndRequested (h : OwnObject key name o m)
    (hCalls : (m.identityManagerReady outcomes order).failures = m.failures) {sent : List IdentityCreatorProtocol}
    (hSent : (m.identityManagerReady outcomes order).identityCreatorQueue = m.identityCreatorQueue.sendAll sent)
    (hSpared : ∀ x ∈ sent, removesObject name x = false) :
    OwnObject key name o (m.identityManagerReady outcomes order) := by
  obtain ⟨hFirst, hLast⟩ := prefix_between (reconcile_grows outcomes order m).failures
    (requestMissing_grows outcomes order _).failures hCalls
  obtain ⟨early, hEarly⟩ := reconcile_turn outcomes order (fun _ => True) m
  have hAny : ∀ c ∈ order.walk (HashMap.values (m.reconcile outcomes order).missingServiceCandidates), True :=
    fun _ _ => trivial
  obtain ⟨late, hLate, -⟩ := requestAll_turn outcomes _ hAny (m.reconcile outcomes order)
  have hBoth : m.identityCreatorQueue.sendAll (early ++ late) = m.identityCreatorQueue.sendAll sent := by
    rw [← hSent, ← Channel.sendAll_sendAll, ← hEarly.queue]
    exact hLate.queue.symm
  have hSame : early ++ late = sent := List.append_cancel_left (congrArg Channel.pending hBoth)
  have hReconciled := h.reconciled hFirst hEarly.queue fun x hx => hSpared x (hSame ▸ List.mem_append_left late hx)
  exact (hReconciled.requestedAll _ hLast).of_same rfl rfl

/-- What one message leaves of the object: it is the same, or it was written with the identity of the service. -/
theorem handled (h : OwnObject key name o m) {msg : IdentityManagerProtocol} {sent : List IdentityCreatorProtocol}
    (hCalls : (handle outcomes order msg m).failures = m.failures)
    (hSent : (handle outcomes order msg m).identityCreatorQueue = m.identityCreatorQueue.sendAll sent)
    (hSpared : ∀ x ∈ sent, removesObject name x = false) :
    ∃ o', OwnObject key name o' (handle outcomes order msg m) ∧
      (o' = o ∨ ∃ i', (handle outcomes order msg m).identities.lookup key = some i' ∧ o'.spec = i'.spec) := by
  have hSame : ∀ m' : IdentityManager, m'.identities = m.identities → m'.objects = m.objects →
      ∃ o', OwnObject key name o' m' ∧
        (o' = o ∨ ∃ i', m'.identities.lookup key = some i' ∧ o'.spec = i'.spec) :=
    fun m' hIdentities hObjects => ⟨o, h.of_same hIdentities hObjects, .inl rfl⟩
  cases msg with
  | requestServiceIdentity c => exact ⟨o, h.requested c hCalls, .inl rfl⟩
  | identityManagerReady => exact ⟨o, h.reconciledAndRequested hCalls hSent hSpared, .inl rfl⟩
  | deleteServiceIdentity x =>
    obtain ⟨deleted, _, hDeleted, hAll⟩ := deleteServiceIdentity_deleted outcomes x m
    cases hAll hCalls
    refine ⟨o, h.eraseAll hDeleted.identities (hDeleted.objects hCalls) fun i hi hName => ?_, .inl rfl⟩
    have hQueue : [deletionOf x] = sent :=
      List.append_cancel_left (congrArg Channel.pending (hDeleted.queue.symm.trans hSent))
    have hNot := hSpared (deletionOf x) (hQueue ▸ List.mem_singleton_self _)
    cases List.mem_singleton.mp hi
    simp [removesObject, deletionOf] at hNot
    exact hNot hName
  | foundServiceCandidate candidate =>
    rcases foundServiceCandidate_cases candidate m with ⟨_, hEq⟩ | ⟨_, _, _, _, hEq⟩ | ⟨_, _, _, hEq⟩ <;>
      rw [handle, hEq] <;> exact hSame _ rfl rfl
  | foundServiceUser user activated => cases activated <;> exact hSame _ rfl rfl
  | deletedServiceCandidate candidate =>
    rcases deletedServiceCandidate_cases candidate m with ⟨_, _, _, _, hEq⟩ | ⟨_, hEq⟩ <;> rw [handle, hEq] <;>
      exact hSame _ rfl rfl
  | identityCreatorReady =>
    obtain ⟨_, _, hEq⟩ := identityCreatorReadyHandler_cases m
    rw [handle, hEq]
    exact hSame _ rfl rfl
  | deploymentWatcherReady =>
    obtain ⟨_, _, hEq⟩ := deploymentWatcherReady_cases m
    rw [handle, hEq]
    exact hSame _ rfl rfl
  | activatedServiceUser user serviceNs serviceName =>
    rcases activatedServiceUser_cases outcomes user serviceNs serviceName m with ⟨_, hEq⟩ |
      ⟨i, hLookup, hEq⟩ <;>
      rw [handle, hEq]
    · exact hSame _ rfl rfl
    · rw [handle, hEq] at hCalls
      obtain ⟨o', hOwn, hWritten⟩ :=
        h.updated (i.withUser user) (mem_identities_of_lookup hLookup) rfl rfl rfl rfl hCalls
      exact ⟨o', hOwn, hWritten.imp And.left fun hNew => ⟨_, hNew⟩⟩
  | releaseDeviceId lookup uuid =>
    rcases releaseDeviceId_cases outcomes lookup uuid m with ⟨_, hEq⟩ | ⟨i, told, hLookup, _, hEq⟩ <;>
      rw [handle, hEq]
    · exact hSame _ rfl rfl
    · rw [handle, hEq] at hCalls
      obtain ⟨o', hOwn, hWritten⟩ := h.updated (recordDeviceId uuid i) (mem_identities_of_lookup hLookup)
        (serviceId_recordDeviceId uuid i) (serviceName_recordDeviceId uuid i) rfl rfl hCalls
      exact ⟨o', hOwn, hWritten.imp And.left fun hNew => ⟨_, hNew⟩⟩
  | identityManagerInitialized | identityManagerStarted | identityManagerDebug => exact hSame _ rfl rfl

end OwnObject

theorem mem_heldAfter {key d : String} {msg : IdentityManagerProtocol} {i : ServiceIdentity}
    (hMem : d ∈ deviceIdList i.credentials)
    (hNotice : ∀ user, Processes.noticeOf msg = some (key, user) → d ∈ deviceIdList user) :
    d ∈ deviceIdList (heldAfter key msg i).credentials ∧
      Service.serviceName (heldAfter key msg i) = Service.serviceName i := by
  cases msg with
  | activatedServiceUser user serviceNs serviceName =>
    simp only [heldAfter]
    split
    · rename_i hKey
      refine ⟨?_, ServiceIdentity.serviceName_withUser _ _⟩
      rw [ServiceIdentity.credentials_withUser]
      exact hNotice user (by rw [Processes.noticeOf, hKey])
    · exact ⟨hMem, rfl⟩
  | releaseDeviceId lookup uuid =>
    simp only [heldAfter]
    split
    · exact ⟨(mem_deviceIdList_recordDeviceId uuid i).mpr (.inl hMem), serviceName_recordDeviceId uuid i⟩
    · exact ⟨hMem, rfl⟩
  | _ => exact ⟨hMem, rfl⟩

end IdentityManager

namespace Processes

open IdentityManager

variable {outcomes : Nat → CallOutcome} {env : Surroundings}

/-- Activations on the way for the service of a release carry the device id that it records. -/
def Carried (s : Processes) : IdentityManagerProtocol → Prop
  | .releaseDeviceId lookup uuid => ∀ p ∈ s.inFlight,
      p.1 = formatServiceId lookup.ns lookup.name → uuid.toString ∈ deviceIdList p.2
  | _ => True

/-- A release is only handled once the activations on the way carry its device id. -/
def ReleasesSettled (s : Processes) : Event → Prop
  | .handle _ => ∀ msg ∈ s.manager.identityManagerQueue.pending.head?, s.Carried msg
  | _ => True

instance (s : Processes) (msg : IdentityManagerProtocol) : Decidable (s.Carried msg) := by
  unfold Carried
  split <;> infer_instance

instance (s : Processes) : (event : Event) → Decidable (ReleasesSettled s event)
  | .handle _ => inferInstanceAs (Decidable (∀ msg ∈ s.manager.identityManagerQueue.pending.head?, s.Carried msg))
  | .arrive _ | .receive _ | .deliver => .isTrue trivial

/-- The device id is in the identity of the service, and in every user on the way to it. -/
structure Kept (key name d : String) (s : Processes) : Prop where
  memory : ∃ i, s.manager.identities.lookup key = some i ∧ Service.serviceName i = name ∧
    d ∈ deviceIdList i.credentials
  carried : ∀ user, (key, user) ∈ s.inFlight → d ∈ deviceIdList user

/-- The device id is in the object as well. -/
def ObjectKept (key name d : String) (s : Processes) : Prop :=
  ∃ o, OwnObject key name o s.manager ∧ d ∈ deviceIdList o.credentials

variable {key name d : String} {s t : Processes}

theorem Kept.step {event : Event} (h : Kept key name d s) (hNext : next outcomes env s event = some t)
    (hKept : t.removals key = s.removals key) : Kept key name d t := by
  obtain ⟨i, hLookup, hName, hMem⟩ := h.memory
  have hMove := next_move outcomes env hNext
  by_cases hHandle : ∃ order, event = .handle order
  · obtain ⟨order, rfl⟩ := hHandle
    cases hMove with
    | handle order msg queue hRecv =>
      obtain ⟨sent, hTurn, -⟩ := handle_turn outcomes order msg { s.manager with identityManagerQueue := queue }
      obtain ⟨hAfter, hNone⟩ := hTurn.kept key i hLookup (none_told hTurn hKept)
      obtain ⟨hMem', hName'⟩ := mem_heldAfter hMem fun user hNotice =>
        h.carried user (mem_inFlight_of_notice hRecv hNotice)
      refine ⟨⟨_, hAfter, hName'.trans hName, hMem'⟩, fun user hFlight => ?_⟩
      rcases handle_inFlight hRecv hTurn hFlight with hBefore | ⟨x, hx, hActivates⟩
      · exact h.carried user hBefore
      · exact absurd hActivates (hNone x hx user)
  · obtain ⟨hIdentities, -, hFlight⟩ := move_inFlight hMove fun order hEq => hHandle ⟨order, hEq⟩
    refine ⟨⟨i, hIdentities ▸ hLookup, hName, hMem⟩, fun user hUser => ?_⟩
    obtain ⟨user', hBefore, hSame⟩ := hFlight key user hUser
    rw [hSame]
    exact h.carried user' hBefore

theorem ObjectKept.step {event : Event} (h : ObjectKept key name d s) (hNext : next outcomes env s event = some t)
    (hCalls : CallsSucceed outcomes env s event) (hAfter : Kept key name d t)
    (hKept : t.told (removesObject name) = s.told (removesObject name)) : ObjectKept key name d t := by
  obtain ⟨o, hOwn, hMem⟩ := h
  have hManager := (hCalls t hNext).1
  cases next_move outcomes env hNext with
  | handle order msg queue hRecv =>
    let m : IdentityManager := { s.manager with identityManagerQueue := queue }
    obtain ⟨sent, hTurn, -⟩ := handle_turn outcomes order msg m
    have hOwn' : OwnObject key name o m := hOwn.of_same rfl rfl
    obtain ⟨o', hStored, rfl | ⟨i', hLookup, hSpec⟩⟩ :=
      hOwn'.handled hManager hTurn.queue (none_told hTurn hKept)
    · exact ⟨o', hStored, hMem⟩
    · refine ⟨o', hStored, ?_⟩
      obtain ⟨j, hj, -, hRecorded⟩ := hAfter.memory
      cases hLookup.symm.trans hj
      rw [show o'.credentials = i'.credentials from congrArg ServiceIdentitySpec.serviceUser hSpec]
      exact hRecorded
  | arrive | deliver | receive => exact ⟨o, hOwn.of_same rfl rfl, hMem⟩

/-- What a release finds and leaves. -/
theorem released {lookup : ServiceLookup} {uuid : Uuid} {queue : Channel IdentityManagerProtocol}
    {order : IterationOrder}
    (hRecv : s.manager.identityManagerQueue.recv = some (.releaseDeviceId lookup uuid, queue))
    (hNext : next outcomes env s (.handle order) = some t) {i : ServiceIdentity}
    (hLookup : s.manager.identities.lookup (formatServiceId lookup.ns lookup.name) = some i) :
    t.manager.identities.lookup (formatServiceId lookup.ns lookup.name) = some (recordDeviceId uuid i) ∧
      (∀ key user, (key, user) ∈ t.inFlight → (key, user) ∈ s.inFlight) ∧
      (t.manager.failures = s.manager.failures → ∀ name o,
        OwnObject (formatServiceId lookup.ns lookup.name) name o s.manager → name = Service.serviceName i →
          ∃ o', OwnObject (formatServiceId lookup.ns lookup.name) name o' t.manager ∧
            o'.spec = (recordDeviceId uuid i).spec) := by
  cases next_move outcomes env hNext with
  | handle order msg queue' hRecv' =>
    cases hRecv.symm.trans hRecv'
    let m : IdentityManager := { s.manager with identityManagerQueue := queue }
    have hKey := ServiceCredentialsProvider.keyed s.manager.serviceCredentialsProvider _ i hLookup
    rcases releaseDeviceId_cases outcomes lookup uuid m with ⟨hNone, -⟩ | ⟨j, sent, hj, hSent, hEq⟩
    · cases hLookup.symm.trans hNone
    · cases hLookup.symm.trans hj
      have hHandle : handle outcomes order (.releaseDeviceId lookup uuid) m =
        m.releaseDeviceId outcomes lookup uuid := rfl
      refine ⟨?_, fun key user hMem => ?_, fun hCalls name o hOwn hName => ?_⟩
      · rw [hHandle, hEq, ← hKey, ← serviceId_recordDeviceId uuid i]
        exact AList.lookup_insert _
      · obtain ⟨sent', hTurn, -⟩ := handle_turn outcomes order (.releaseDeviceId lookup uuid) m
        rcases handle_inFlight hRecv hTurn hMem with hBefore | ⟨x, hx, hActivates⟩
        · exact hBefore
        · -- the only message that a release sends is not an activation
          have hQueue := hTurn.queue
          rw [hHandle, hEq] at hQueue
          have hSame : sent = sent' := List.append_cancel_left (congrArg Channel.pending hQueue)
          subst hSame
          rcases hSent with rfl | rfl
          · cases hx
          · cases List.mem_singleton.mp hx
            cases hActivates
      · have hOwn' : OwnObject (formatServiceId lookup.ns lookup.name) name o m := hOwn.of_same rfl rfl
        rw [hHandle, hEq] at hCalls ⊢
        obtain ⟨o', hStored, ⟨-, hOther⟩ | ⟨hFound, hSpec⟩⟩ := hOwn'.updated (recordDeviceId uuid i)
          (mem_identities_of_lookup hLookup) (serviceId_recordDeviceId uuid i)
          (serviceName_recordDeviceId uuid i) rfl rfl
          hCalls
        · exact absurd ((serviceName_recordDeviceId uuid i).trans hName.symm) hOther
        · exact ⟨o', hStored, hSpec⟩

/-- A device id that a release records while the activations on the way for the service carry it stays in the identity
of the service, and in an object that no other service writes, until they are deleted. -/
theorem released_id_kept {u : Processes} {lookup : ServiceLookup} {uuid : Uuid} {order : IterationOrder}
    {i : ServiceIdentity}
    (hHead : s.manager.identityManagerQueue.pending.head? = some (.releaseDeviceId lookup uuid))
    (hNext : next outcomes env s (.handle order) = some t) (hSettled : ReleasesSettled s (.handle order))
    (hCalls : CallsSucceed outcomes env s (.handle order))
    (hLookup : s.manager.identities.lookup (formatServiceId lookup.ns lookup.name) = some i)
    (hList : i.credentials.deviceIds.isSome = true)
    (hRun : Steps (next outcomes env) (CallsSucceed outcomes env) t u)
    (hKept : u.removals (formatServiceId lookup.ns lookup.name) = t.removals (formatServiceId lookup.ns lookup.name)) :
    (∃ i', u.manager.identities.lookup (formatServiceId lookup.ns lookup.name) = some i' ∧
      uuid.toString ∈ deviceIdList i'.credentials) ∧
    ∀ o, OwnObject (formatServiceId lookup.ns lookup.name) (Service.serviceName i) o s.manager →
      u.told (removesObject (Service.serviceName i)) = t.told (removesObject (Service.serviceName i)) →
      ∃ o', u.manager.objects.lookup (Service.serviceName i) = some o' ∧
        uuid.toString ∈ deviceIdList o'.credentials := by
  let key : String := formatServiceId lookup.ns lookup.name
  let name : String := Service.serviceName i
  let d : String := uuid.toString
  obtain ⟨rest, hPending⟩ := List.head?_eq_some_iff.mp hHead
  obtain ⟨hAfter, hFlight, hObject⟩ := released (Channel.recv_eq_some.mpr ⟨rest, hPending, rfl⟩) hNext hLookup
  have hMem : d ∈ deviceIdList (recordDeviceId uuid i).credentials :=
    (mem_deviceIdList_recordDeviceId uuid i).mpr (.inr ⟨hList, rfl⟩)
  have hRecorded : Kept key name d t := by
    refine ⟨⟨_, hAfter, serviceName_recordDeviceId uuid i, hMem⟩, fun user hUser => ?_⟩
    exact hSettled _ hHead _ (hFlight _ user hUser) rfl
  -- the counts only grow, so nothing is deleted in any state between
  have hHeld : t.removals key ≤ u.removals key ∧ (u.removals key = t.removals key → Kept key name d u) ∧
      t.told (removesObject name) ≤ u.told (removesObject name) ∧
      (u.removals key = t.removals key → u.told (removesObject name) = t.told (removesObject name) →
        ObjectKept key name d t → ObjectKept key name d u) := by
    refine hRun.invariant (fun u => t.removals key ≤ u.removals key ∧
      (u.removals key = t.removals key → Kept key name d u) ∧
      t.told (removesObject name) ≤ u.told (removesObject name) ∧
      (u.removals key = t.removals key → u.told (removesObject name) = t.told (removesObject name) →
        ObjectKept key name d t → ObjectKept key name d u)) ?_
      ⟨le_rfl, fun _ => hRecorded, le_rfl, fun _ _ h => h⟩
    rintro v event w ⟨hLe, hMemory, hToldLe, hStored⟩ hAllowed hStep
    have hMore : v.removals key ≤ w.removals key := told_le (removesIdentity key) hStep
    have hToldMore : v.told (removesObject name) ≤ w.told (removesObject name) := told_le (removesObject name) hStep
    refine ⟨hLe.trans hMore, fun hSame => ?_, hToldLe.trans hToldMore, fun hSame hTold hBefore => ?_⟩
    · exact (hMemory (by omega)).step hStep (by omega)
    · have hMemory' := (hMemory (by omega)).step hStep (by omega)
      exact (hStored (by omega) (by omega) hBefore).step hStep hAllowed hMemory' (by omega)
  obtain ⟨-, hMemory, -, hStored⟩ := hHeld
  obtain ⟨i', hi', -, hd⟩ := (hMemory hKept).memory
  refine ⟨⟨i', hi', hd⟩, fun o hOwn hTold => ?_⟩
  obtain ⟨o', hOwn', hSpec⟩ := hObject (hCalls t hNext).1 _ o hOwn rfl
  have hWritten : ObjectKept key name d t := by
    refine ⟨o', hOwn', ?_⟩
    rw [show o'.credentials = (recordDeviceId uuid i).credentials from congrArg ServiceIdentitySpec.serviceUser hSpec]
    exact hMem
  obtain ⟨o'', hOwn'', hd'⟩ := hStored hKept hTold hWritten
  exact ⟨o'', hOwn''.object, hd'⟩

/-- A pod of `a` is gone. -/
def sampleReleased : Event := .arrive (.releaseDeviceId ⟨"a", "ns", none⟩ (IdentityCreator.sampleUuid 5))

/-- The user of `a` is activated before the release is handled. -/
def sampleSettled : Processes := runD sampleNext sampleReplenished (sampleActivation ++ [sampleReleased])

def sampleReleasedOnce : Processes := runD sampleNext sampleSettled [.handle .asStored]

def sampleReleasedTwice : Processes := runD sampleNext sampleReleasedOnce [sampleReleased, .handle .asStored]

theorem released_id_kept_sample :
    (∃ i', sampleReleasedTwice.manager.identities.lookup (formatServiceId "ns" "a") = some i' ∧
      (IdentityCreator.sampleUuid 5).toString ∈ deviceIdList i'.credentials) ∧
    ∀ o, OwnObject (formatServiceId "ns" "a") "ns-a" o sampleSettled.manager →
      ∃ o', sampleReleasedTwice.manager.objects.lookup "ns-a" = some o' ∧
        (IdentityCreator.sampleUuid 5).toString ∈ deviceIdList o'.credentials := by
  obtain ⟨i, hi⟩ := Option.isSome_iff_exists.mp
    (show (sampleSettled.manager.identities.lookup (formatServiceId "ns" "a")).isSome = true by decide +kernel)
  have hFound : (sampleSettled.manager.identities.lookup (formatServiceId "ns" "a")).map (fun i =>
      (i.credentials.deviceIds.isSome, Service.serviceName i)) = some (true, "ns-a") := by decide +kernel
  rw [hi] at hFound
  obtain ⟨hList, hName⟩ := Prod.mk.inj (Option.some.inj hFound)
  have hNext : sampleNext sampleSettled (.handle .asStored) = some sampleReleasedOnce := by decide +kernel
  have hHead : sampleSettled.manager.identityManagerQueue.pending.head? =
      some (.releaseDeviceId ⟨"a", "ns", none⟩ (IdentityCreator.sampleUuid 5)) := by decide +kernel
  have hRun : Steps sampleNext (CallsSucceed (fun _ => .delivered)
      (IdentityCreator.sampleSurroundings fun _ => .delivered))
      sampleReleasedOnce sampleReleasedTwice :=
    Steps.of_runD [sampleReleased, .handle .asStored] (by decide +kernel) (by decide +kernel)
  obtain ⟨hMemory, hObject⟩ := released_id_kept hHead hNext (by decide +kernel) (by decide +kernel) hi hList hRun
    (by decide +kernel)
  rw [hName] at hObject
  exact ⟨hMemory, fun o hOwn => hObject o hOwn (by decide +kernel)⟩

/-- The release of a device id of `a` is handled before the activation of its user. -/
def sampleRecorded : Processes := runD sampleNext sampleReplenished [sampleReleased, .handle .asStored]

def sampleDropped : Processes := runD sampleNext sampleRecorded sampleActivation

/-- The notice takes the device id out of the identity and out of its object. -/
theorem late_notice_drops_device_id :
    Steps sampleNext (fun s event => WatchersWait s event ∧
        CallsSucceed (fun _ => .delivered) (IdentityCreator.sampleSurroundings fun _ => .delivered) s event)
      (started "cluster" [] ⟨⟨[], [], []⟩, 0, []⟩ ⟨some ⟨some ∅⟩, 0, []⟩ CREDENTIALS_POOL_SIZE)
      sampleRecorded ∧ Steps sampleNext (fun s event => WatchersWait s event ∧
        CallsSucceed (fun _ => .delivered) (IdentityCreator.sampleSurroundings fun _ => .delivered) s event)
      sampleRecorded sampleDropped ∧
    ((sampleRecorded.manager.identities.lookup "ns_a").map (fun i => deviceIdList i.credentials) =
        some [(IdentityCreator.sampleUuid 5).toString] ∧
      (sampleRecorded.manager.objects.lookup "ns-a").map (fun i => deviceIdList i.credentials) =
        some [(IdentityCreator.sampleUuid 5).toString]) ∧
    sampleDropped.removals "ns_a" = sampleRecorded.removals "ns_a" ∧
    (sampleDropped.manager.identities.lookup "ns_a").map (fun i => deviceIdList i.credentials) = some [] ∧
    (sampleDropped.manager.objects.lookup "ns-a").map (fun i => deviceIdList i.credentials) = some [] := by
  refine ⟨?_, Steps.of_runD sampleActivation (by decide +kernel) (by decide +kernel),
    by decide +kernel, by decide +kernel⟩
  exact (Steps.of_runD sampleRequested (by decide +kernel) (by decide +kernel)).trans
    (Steps.of_runD [sampleReleased, .handle .asStored] (by decide +kernel) (by decide +kernel))

end Processes

end SdpK8sInjector.IdentityService
