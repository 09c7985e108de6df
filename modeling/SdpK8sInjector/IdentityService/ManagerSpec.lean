import SdpK8sInjector.IdentityService.Manager

/-! # What each handler of the IdentityManager can do

One inversion lemma for each handler. The invariants of later modules are
derived from these and never unfold a handler.
-/

namespace SdpK8sInjector.IdentityService.IdentityManager

open Lib Common ServiceCredentialsProvider

variable (outcomes : Nat → CallOutcome) (order : IterationOrder)

theorem deleteServiceIdentity_cases (identity : ServiceIdentity) (m : IdentityManager) :
    (∃ e api, m.serviceIdentityApi.delete outcomes identity = (.error e, api) ∧
      m.deleteServiceIdentity outcomes identity = { m with serviceIdentityApi := api }) ∨
    ∃ api, m.serviceIdentityApi.delete outcomes identity = (.ok (), api) ∧
      m.deleteServiceIdentity outcomes identity =
        { m with
          serviceIdentityApi := api
          identityCreatorQueue := m.identityCreatorQueue.send (deletionOf identity)
          serviceCredentialsProvider := m.serviceCredentialsProvider.unregisterIdentity identity } := by
  cases hCall : m.serviceIdentityApi.delete outcomes identity with
  | mk result api =>
    cases result with
    | error e => exact .inl ⟨e, api, rfl, by simp [deleteServiceIdentity, delete, hCall]⟩
    | ok _ =>
      exact .inr ⟨api, rfl, by
        simp [deleteServiceIdentity, delete, hCall, unregisterIdentity, sendToCreator]⟩

/-- What a new identity makes the manager ask of the creator. -/
def activationOf (m : IdentityManager) (lookup : ServiceLookup) (user : ServiceUser) (rest : List ServiceUser)
    (labels : Labels) : List IdentityCreatorProtocol :=
  (if rest.length < 10 then [.createIdentity] else []) ++
    [.activateServiceUser user m.clusterId lookup.ns lookup.name labels]

inductive RequestOutcome (outcomes : Nat → CallOutcome) (candidate : ServiceCandidate) (m : IdentityManager) :
    IdentityManager → Prop where
  | noNamespace (e : SDPServiceError) (hId : MaybeService.serviceId candidate = .error e) :
      RequestOutcome outcomes candidate m m
  | registered (id : String) (identity : ServiceIdentity)
      (hId : MaybeService.serviceId candidate = .ok id) (hLookup : m.identities.lookup id = some identity) :
      RequestOutcome outcomes candidate m m
  | emptyPool (id : String) (hId : MaybeService.serviceId candidate = .ok id)
      (hLookup : m.identities.lookup id = none) (hPool : m.pool = []) :
      RequestOutcome outcomes candidate m { m with emptyPoolErrors := m.emptyPoolErrors ++ [id] }
  | created (id : String) (lookup : ServiceLookup) (labels : Labels) (user : ServiceUser)
      (rest : List ServiceUser) (api : ServiceIdentityAPI)
      (hId : MaybeService.serviceId candidate = .ok id) (hLookup : m.identities.lookup id = none)
      (hFormat : id = formatServiceId lookup.ns lookup.name) (hPool : m.pool = user :: rest)
      (hCreate : m.serviceIdentityApi.create outcomes (identityFor lookup user) =
        (.ok (identityFor lookup user), api)) :
      RequestOutcome outcomes candidate m
        { m with
          serviceIdentityApi := api
          identityCreatorQueue := m.identityCreatorQueue.sendAll (m.activationOf lookup user rest labels)
          serviceCredentialsProvider :=
            ({ m.serviceCredentialsProvider with pool := rest }
              : ServiceCredentialsProvider).registerOrUpdateIdentity (identityFor lookup user) }
  | createFailed (id : String) (lookup : ServiceLookup) (user : ServiceUser) (rest : List ServiceUser)
      (e : ApiError) (api : ServiceIdentityAPI) (hId : MaybeService.serviceId candidate = .ok id)
      (hLookup : m.identities.lookup id = none) (hFormat : id = formatServiceId lookup.ns lookup.name)
      (hPool : m.pool = user :: rest)
      (hCreate : m.serviceIdentityApi.create outcomes (identityFor lookup user) = (.error e, api)) :
      RequestOutcome outcomes candidate m
        { m with
          serviceIdentityApi := api
          serviceCredentialsProvider :=
            ({ m.serviceCredentialsProvider with pool := rest }
              : ServiceCredentialsProvider).registerOrUpdateIdentity (identityFor lookup user) }

theorem requestServiceIdentity_outcome (candidate : ServiceCandidate) (m : IdentityManager) :
    RequestOutcome outcomes candidate m (m.requestServiceIdentity outcomes candidate) := by
  cases hId : MaybeService.serviceId candidate with
  | error e =>
    have hSame : m.requestServiceIdentity outcomes candidate = m := by simp [requestServiceIdentity, hId]
    exact hSame.symm ▸ .noNamespace e hId
  | ok id =>
    obtain ⟨lookup, labels, hLookup, hLabels, hFormat⟩ := ServiceLookup.tryFromService_of_serviceId hId
    rcases m.serviceCredentialsProvider.nextIdentity_cases lookup with
      ⟨identity, hFound, hNext⟩ | ⟨hNone, hPool, hNext⟩ | ⟨user, rest, hNone, hPool, hNext⟩
    · have hSame : m.requestServiceIdentity outcomes candidate = m := by
        simp [requestServiceIdentity, hId, hLookup, hLabels, hNext]
      exact hSame.symm ▸ .registered id identity hId (hFormat ▸ hFound)
    · have hEmpty : m.requestServiceIdentity outcomes candidate =
          { m with emptyPoolErrors := m.emptyPoolErrors ++ [id] } := by
        simp [requestServiceIdentity, hId, hLookup, hLabels, hNext]
      exact hEmpty.symm ▸ .emptyPool id hId (hFormat ▸ hNone) hPool
    · cases hCreate : m.serviceIdentityApi.create outcomes (identityFor lookup user) with
      | mk result api =>
        cases result with
        | ok created =>
          have hCreated := (ServiceIdentityAPI.create_ok (by rw [hCreate] : _ = Except.ok created)).1
          subst hCreated
          refine cast ?_ (RequestOutcome.created id lookup labels user rest api hId (hFormat ▸ hNone)
            hFormat hPool hCreate)
          congr 1
          by_cases hNeeds : rest.length < 10 <;>
            simp [requestServiceIdentity, hId, hLookup, hLabels, hNext, hCreate, needsNewCredentials,
              activationOf, hNeeds, sendToCreator, Channel.send_eq_sendAll]
        | error e =>
          refine cast ?_ (RequestOutcome.createFailed id lookup user rest e api hId (hFormat ▸ hNone)
            hFormat hPool hCreate)
          congr 1
          simp [requestServiceIdentity, hId, hLookup, hLabels, hNext, hCreate]

/-- A request leaves the provider alone, or it binds the first user of the pool to the service,
also where the object could not be created. -/
theorem requestServiceIdentity_provider (candidate : ServiceCandidate) (m : IdentityManager) :
    ((m.requestServiceIdentity outcomes candidate).serviceCredentialsProvider = m.serviceCredentialsProvider ∧
      ∀ id, MaybeService.serviceId candidate = .ok id →
        m.pool = [] ∧ (m.requestServiceIdentity outcomes candidate).emptyPoolErrors ≠ m.emptyPoolErrors ∨
          ∃ identity, m.identities.lookup id = some identity) ∨
    ∃ lookup user rest,
      MaybeService.serviceId candidate = .ok (formatServiceId lookup.ns lookup.name) ∧
      m.identities.lookup (formatServiceId lookup.ns lookup.name) = none ∧ m.pool = user :: rest ∧
      (m.requestServiceIdentity outcomes candidate).pool = rest ∧
      (m.requestServiceIdentity outcomes candidate).identities =
        AList.insert (formatServiceId lookup.ns lookup.name) (identityFor lookup user) m.identities := by
  have h := requestServiceIdentity_outcome outcomes candidate m
  generalize m.requestServiceIdentity outcomes candidate = m' at h ⊢
  cases h with
  | noNamespace e hId =>
    exact .inl ⟨rfl, fun id h => by simp [hId] at h⟩
  | registered id identity hId hLookup =>
    refine .inl ⟨rfl, fun id' h => .inr ⟨identity, ?_⟩⟩
    cases hId.symm.trans h
    exact hLookup
  | emptyPool id hId hLookup hPool => exact .inl ⟨rfl, fun _ _ => .inl ⟨hPool, by simp⟩⟩
  | created id lookup labels user rest api hId hLookup hFormat hPool hCreate =>
    subst hFormat
    exact .inr ⟨lookup, user, rest, hId, hLookup, hPool, rfl, rfl⟩
  | createFailed id lookup user rest e api hId hLookup hFormat hPool hCreate =>
    subst hFormat
    exact .inr ⟨lookup, user, rest, hId, hLookup, hPool, rfl, rfl⟩

theorem foundServiceCandidate_cases (candidate : ServiceCandidate) (m : IdentityManager) :
    ((∃ e, MaybeService.serviceId candidate = .error e) ∧ m.foundServiceCandidate candidate = m) ∨
    (∃ id identity, MaybeService.serviceId candidate = .ok id ∧ m.identities.lookup id = some identity ∧
      m.foundServiceCandidate candidate =
        { m with existingServiceCandidates := AList.insert id () m.existingServiceCandidates }) ∨
    ∃ id, MaybeService.serviceId candidate = .ok id ∧ m.identities.lookup id = none ∧
      m.foundServiceCandidate candidate =
        { m with missingServiceCandidates := AList.insert id candidate m.missingServiceCandidates } := by
  cases hId : MaybeService.serviceId candidate with
  | error e => exact .inl ⟨⟨e, rfl⟩, by simp [foundServiceCandidate, hId]⟩
  | ok id =>
    right
    obtain ⟨lookup, _, hLookup, _, rfl⟩ := ServiceLookup.tryFromService_of_serviceId hId
    cases hFound : m.identities.lookup (formatServiceId lookup.ns lookup.name) with
    | some identity => exact .inl ⟨_, identity, rfl, hFound, by simp [foundServiceCandidate, hId, hLookup, hFound]⟩
    | none => exact .inr ⟨_, rfl, hFound, by simp [foundServiceCandidate, hId, hLookup, hFound]⟩

theorem activatedServiceUser_cases (user : ServiceUser) (serviceNs serviceName : String) (m : IdentityManager) :
    (m.identities.lookup (formatServiceId serviceNs serviceName) = none ∧
      m.activatedServiceUser outcomes user serviceNs serviceName = m) ∨
    ∃ identity, m.identities.lookup (formatServiceId serviceNs serviceName) = some identity ∧
      m.activatedServiceUser outcomes user serviceNs serviceName =
        { m with
          serviceIdentityApi := (m.serviceIdentityApi.update outcomes (identity.withUser user)).2
          serviceCredentialsProvider :=
            m.serviceCredentialsProvider.registerOrUpdateIdentity (identity.withUser user) } := by
  cases hFound : m.identities.lookup (formatServiceId serviceNs serviceName) with
  | none => exact .inl ⟨rfl, by simp [activatedServiceUser, ServiceLookup.new, hFound]⟩
  | some identity =>
    exact .inr ⟨identity, rfl, by
      simp [activatedServiceUser, ServiceLookup.new, hFound, registerOrUpdateIdentity]⟩

theorem releaseDeviceId_cases (lookup : ServiceLookup) (uuid : Uuid) (m : IdentityManager) :
    (m.identities.lookup (formatServiceId lookup.ns lookup.name) = none ∧
      m.releaseDeviceId outcomes lookup uuid = m) ∨
    ∃ identity sent, m.identities.lookup (formatServiceId lookup.ns lookup.name) = some identity ∧
      (sent = [] ∨ sent = [.releaseDeviceId (recordDeviceId uuid identity).credentials uuid]) ∧
      m.releaseDeviceId outcomes lookup uuid =
        { m with
          serviceIdentityApi := (m.serviceIdentityApi.update outcomes (recordDeviceId uuid identity)).2
          identityCreatorQueue := m.identityCreatorQueue.sendAll sent
          serviceCredentialsProvider :=
            m.serviceCredentialsProvider.registerOrUpdateIdentity (recordDeviceId uuid identity) } := by
  cases hFound : m.identities.lookup (formatServiceId lookup.ns lookup.name) with
  | none => exact .inl ⟨rfl, by simp [releaseDeviceId, hFound]⟩
  | some identity =>
    right
    cases hCall : m.serviceIdentityApi.update outcomes (recordDeviceId uuid identity) with
    | mk result api =>
      cases result with
      | ok _ =>
        exact ⟨identity, _, rfl, .inr rfl, by
          simp [releaseDeviceId, hFound, hCall, registerOrUpdateIdentity, sendToCreator,
            Channel.send_eq_sendAll]⟩
      | error _ =>
        exact ⟨identity, _, rfl, .inl rfl, by simp [releaseDeviceId, hFound, hCall, registerOrUpdateIdentity]⟩

theorem deletedServiceCandidate_cases (candidate : ServiceCandidate) (m : IdentityManager) :
    (∃ id identity, MaybeService.serviceId candidate = .ok id ∧ m.identities.lookup id = some identity ∧
      m.deletedServiceCandidate candidate = m.sendToSelf (.deleteServiceIdentity identity)) ∨
    ((∀ id, MaybeService.serviceId candidate = .ok id → m.identities.lookup id = none) ∧
      m.deletedServiceCandidate candidate = m) := by
  cases hNs : MaybeNamespaced.ns candidate with
  | none =>
    right
    simp [deletedServiceCandidate, ServiceLookup.tryFromService, MaybeService.serviceId, hNs]
  | some ns =>
    have hId : MaybeService.serviceId candidate = .ok (formatServiceId ns (Named.name candidate)) :=
      MaybeService.serviceId_eq_ok.mpr ⟨ns, hNs, rfl⟩
    cases hFound : m.identities.lookup (formatServiceId ns (Named.name candidate)) with
    | some identity =>
      exact .inl ⟨_, identity, hId, hFound, by
        simp [deletedServiceCandidate, ServiceLookup.tryFromService, hNs, ServiceLookup.new, hFound]⟩
    | none =>
      refine .inr ⟨fun id h => ?_, by
        simp [deletedServiceCandidate, ServiceLookup.tryFromService, hNs, ServiceLookup.new, hFound]⟩
      rw [hId] at h
      cases h
      exact hFound

theorem identityCreatorReadyHandler_cases (m : IdentityManager) :
    ∃ sent, (sent = [] ∨ sent = [.identityManagerReady] ∧ m.deploymentWatchersReady = N_WATCHERS) ∧
      m.identityCreatorReadyHandler =
        { m with identityCreatorReady := true, identityManagerQueue := m.identityManagerQueue.sendAll sent } := by
  by_cases h : m.deploymentWatchersReady = N_WATCHERS
  · exact ⟨_, .inr ⟨rfl, h⟩, by simp [identityCreatorReadyHandler, h, sendToSelf, Channel.send_eq_sendAll]⟩
  · exact ⟨_, .inl rfl, by simp [identityCreatorReadyHandler, h]⟩

theorem deploymentWatcherReady_cases (m : IdentityManager) :
    ∃ sent, (sent = [] ∨ sent = [.identityManagerReady] ∧ m.deploymentWatchersReady + 1 = N_WATCHERS) ∧
      m.deploymentWatcherReady =
        { m with
          deploymentWatchersReady := m.deploymentWatchersReady + 1
          identityManagerQueue := m.identityManagerQueue.sendAll sent } := by
  by_cases h : m.deploymentWatchersReady + 1 = N_WATCHERS ∧ m.identityCreatorReady = true
  · exact ⟨_, .inr ⟨rfl, h.1⟩, by simp [deploymentWatcherReady, h, sendToSelf, Channel.send_eq_sendAll]⟩
  · exact ⟨_, .inl rfl, by
      simp only [deploymentWatcherReady, if_neg h, Channel.sendAll_nil]⟩

section RecordDeviceId

variable (uuid : Uuid) (identity : ServiceIdentity)

theorem recordDeviceId_eq_withUser :
    ∃ deviceIds, recordDeviceId uuid identity =
      identity.withUser { identity.credentials with deviceIds := deviceIds } := by
  unfold recordDeviceId
  split
  · split
    · exact ⟨identity.spec.serviceUser.deviceIds, rfl⟩
    · exact ⟨_, rfl⟩
  · exact ⟨identity.spec.serviceUser.deviceIds, rfl⟩

@[simp] theorem serviceId_recordDeviceId :
    Service.serviceId (recordDeviceId uuid identity) = Service.serviceId identity := by
  obtain ⟨_, h⟩ := recordDeviceId_eq_withUser uuid identity
  rw [h, ServiceIdentity.serviceId_withUser]

@[simp] theorem serviceName_recordDeviceId :
    Service.serviceName (recordDeviceId uuid identity) = Service.serviceName identity := by
  obtain ⟨_, h⟩ := recordDeviceId_eq_withUser uuid identity
  rw [h, ServiceIdentity.serviceName_withUser]

@[simp] theorem credentials_id_recordDeviceId :
    (recordDeviceId uuid identity).credentials.id = identity.credentials.id := by
  obtain ⟨_, h⟩ := recordDeviceId_eq_withUser uuid identity
  rw [h, ServiceIdentity.credentials_withUser]

@[simp] theorem metadataName_recordDeviceId :
    (recordDeviceId uuid identity).metadataName = identity.metadataName := by
  obtain ⟨_, h⟩ := recordDeviceId_eq_withUser uuid identity
  rw [h, ServiceIdentity.metadataName_withUser]

@[simp] theorem isSome_recordDeviceId :
    (recordDeviceId uuid identity).credentials.deviceIds.isSome = identity.credentials.deviceIds.isSome := by
  unfold recordDeviceId
  split
  · rename_i ids hIds
    split
    · rfl
    · simp [ServiceIdentity.credentials, ServiceIdentity.withUser, hIds]
  · rfl

theorem mem_deviceIdList_recordDeviceId {x : String} :
    x ∈ deviceIdList (recordDeviceId uuid identity).credentials ↔
      x ∈ deviceIdList identity.credentials ∨ identity.credentials.deviceIds.isSome = true ∧
      x = uuid.toString := by
  cases hIds : identity.spec.serviceUser.deviceIds with
  | none => simp [recordDeviceId, hIds, ServiceIdentity.credentials, deviceIdList]
  | some ids =>
    by_cases hMem : uuid.toString ∈ ids
    · simp [recordDeviceId, hIds, hMem, ServiceIdentity.credentials, deviceIdList]
      rintro rfl
      exact hMem
    · simp [recordDeviceId, hIds, hMem, ServiceIdentity.credentials, ServiceIdentity.withUser, deviceIdList]

end RecordDeviceId

end SdpK8sInjector.IdentityService.IdentityManager
