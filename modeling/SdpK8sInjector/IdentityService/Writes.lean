import SdpK8sInjector.IdentityService.Requests
import Mathlib.Logic.Relation

/-! # What a handler writes while its calls succeed

Five handlers write the registered identities and the objects in the API, in
different orders and under different keys. While the calls succeed, each of them
is a chain of writes that change both sides together.
-/

namespace SdpK8sInjector.IdentityService.IdentityManager

open Lib Common ServiceCredentialsProvider

variable {outcomes : Nat → CallOutcome} {order : IterationOrder} {requested : ServiceCandidate → Prop}

/-- One write. New identities are those of the given candidates, and only registered ones are erased. -/
inductive Write (requested : ServiceCandidate → Prop) (m m' : IdentityManager) : Prop where
  | keep (hIdentities : m'.identities = m.identities) (hObjects : m'.objects = m.objects)
  | create (candidate : ServiceCandidate) (identity : ServiceIdentity) (hRequested : requested candidate)
      (hId : MaybeService.serviceId candidate = .ok (Service.serviceId identity))
      (hFresh : Service.serviceName identity ∉ m.objects)
      (hIdentities : m'.identities = AList.insert (Service.serviceId identity) identity m.identities)
      (hObjects : m'.objects = AList.insert (Service.serviceName identity) identity m.objects)
  | replace (registered identity : ServiceIdentity)
    (hRegistered : registered ∈ m.serviceCredentialsProvider.identities)
      (hNs : Namespaced.ns identity = Namespaced.ns registered) (hName : Named.name identity = Named.name registered)
      (hIdentities : m'.identities = AList.insert (Service.serviceId identity) identity m.identities)
      -- an update creates the object where there is none
      (hObjects : m.objects.lookup (Service.serviceName identity) = none ∨
        ∃ o, m'.objects = AList.insert (Service.serviceName identity) o m.objects ∧ o.spec = identity.spec)
  | erase (deleted : List ServiceIdentity)
      (hDeleted : ∀ identity ∈ deleted, identity ∈ m.serviceCredentialsProvider.identities)
      (hIdentities : m'.identities = HashMap.eraseAll m.identities (deleted.map Service.serviceId))
      (hObjects : m'.objects = HashMap.eraseAll m.objects (deleted.map Service.serviceName))

abbrev Writes (requested : ServiceCandidate → Prop) : IdentityManager → IdentityManager → Prop :=
  Relation.ReflTransGen (Write requested)

theorem requestServiceIdentity_write {m : IdentityManager} (c : ServiceCandidate) (hRequested : requested c)
    (hCalls : (m.requestServiceIdentity outcomes c).failures = m.failures) :
    Write requested m (m.requestServiceIdentity outcomes c) := by
  have hOutcome := requestServiceIdentity_outcome outcomes c m
  generalize m.requestServiceIdentity outcomes c = m' at hOutcome hCalls ⊢
  cases hOutcome with
  | noNamespace | registered | emptyPool => exact .keep rfl rfl
  | created id lookup labels user rest api hId hLookup hFormat hPool hCreate =>
    obtain ⟨_, hFresh, _, hObjects⟩ := ServiceIdentityAPI.create_ok (congrArg Prod.fst hCreate)
    rw [hCreate] at hObjects
    exact .create c (identityFor lookup user) hRequested (hId.trans (congrArg _ hFormat)) hFresh rfl hObjects
  | createFailed id lookup user rest e api hId hLookup hFormat hPool hCreate =>
    have hOk : (m.serviceIdentityApi.create outcomes (identityFor lookup user)).1 = .ok (identityFor lookup user) :=
      ServiceIdentityAPI.create_succeeds (by rw [hCreate]; exact hCalls)
    rw [hCreate] at hOk
    cases hOk

theorem update_write {m m' : IdentityManager} {i : ServiceIdentity} (identity : ServiceIdentity)
    (hi : i ∈ m.serviceCredentialsProvider.identities) (hNs : Namespaced.ns identity = Namespaced.ns i)
    (hName : Named.name identity = Named.name i)
    (hIdentities : m'.identities = AList.insert (Service.serviceId identity) identity m.identities)
    (hApi : m'.serviceIdentityApi = (m.serviceIdentityApi.update outcomes identity).2)
    (hCalls : m'.failures = m.failures) : Write requested m m' := by
  have hUpdate : (m.serviceIdentityApi.update outcomes identity).2.failed = m.serviceIdentityApi.failed :=
    hApi ▸ hCalls
  rcases ServiceIdentityAPI.update_succeeds hUpdate with ⟨obj, _, _, hObjects⟩ | ⟨hNone, _, _⟩
  · refine .replace i identity hi hNs hName hIdentities (.inr ⟨{ obj with spec := identity.spec }, ?_, rfl⟩)
    exact (congrArg (fun api => api.store.objects) hApi).trans hObjects
  · exact .replace i identity hi hNs hName hIdentities (.inl hNone)

theorem reconcile_write {m : IdentityManager} (hCalls : (m.reconcile outcomes order).failures = m.failures) :
    Write requested m (m.reconcile outcomes order) := by
  obtain ⟨extra, users, orphans, hReconciled⟩ := reconcile_spec outcomes order m
  exact .erase (extra ++ orphans) (fun x hx => ((hReconciled.mem_deleted hCalls x).mp hx).1)
    hReconciled.identities (hReconciled.objects hCalls)

theorem requestAll_writes (candidates : List ServiceCandidate) (hRequested : ∀ c ∈ candidates, requested c)
    {m : IdentityManager}
    (hCalls : (candidates.foldl (fun m c => m.requestServiceIdentity outcomes c) m).failures = m.failures) :
    Writes requested m (candidates.foldl (fun m c => m.requestServiceIdentity outcomes c) m) := by
  induction candidates generalizing m with
  | nil => exact .refl
  | cons c rest ih =>
    have hRest := Grows.foldl (fun m c => requestServiceIdentity_grows outcomes c m) rest
      (m.requestServiceIdentity outcomes c)
    obtain ⟨hFirst, hLast⟩ :=
      prefix_between (requestServiceIdentity_grows outcomes c m).failures hRest.failures hCalls
    exact .head (requestServiceIdentity_write c (hRequested c List.mem_cons_self) hFirst)
      (ih (fun c hc => hRequested c (List.mem_cons_of_mem _ hc)) hLast)

theorem identityManagerReady_writes {m : IdentityManager}
    (hRequested : ∀ c ∈ HashMap.values m.missingServiceCandidates, requested c)
    (hCalls : (m.identityManagerReady outcomes order).failures = m.failures) :
    Writes requested m (m.identityManagerReady outcomes order) := by
  obtain ⟨hFirst, hLast⟩ := prefix_between (reconcile_grows outcomes order m).failures
    (requestMissing_grows outcomes order _).failures hCalls
  have hMissing : (m.reconcile outcomes order).missingServiceCandidates = m.missingServiceCandidates := by
    obtain ⟨_, _, _, hReconciled⟩ := reconcile_spec outcomes order m
    rw [hReconciled.frame]
  have hRequests : Writes requested (m.reconcile outcomes order)
      ((m.reconcile outcomes order).requestMissing outcomes order) :=
    requestAll_writes _ (fun c hc => hRequested c (hMissing ▸ order.mem_walk.mp hc)) hLast
  exact .head (reconcile_write hFirst) (hRequests.tail (.keep rfl rfl))

/-- The candidates that the handler of the message may create an identity for. -/
def RequestedBy (m : IdentityManager) : IdentityManagerProtocol → ServiceCandidate → Prop
  | .requestServiceIdentity candidate, c => c = candidate
  | .identityManagerReady, c => c ∈ HashMap.values m.missingServiceCandidates
  | _, _ => False

/-- Every message but a deletion, which may name an identity that is not registered any more. -/
theorem handle_writes {m : IdentityManager} {msg : IdentityManagerProtocol}
    (hMsg : ∀ x, msg ≠ .deleteServiceIdentity x)
    (hCalls : (handle outcomes order msg m).failures = m.failures) :
    Writes (m.RequestedBy msg) m (handle outcomes order msg m) := by
  cases msg with
  | requestServiceIdentity candidate => exact .single (requestServiceIdentity_write candidate rfl hCalls)
  | deleteServiceIdentity x => exact absurd rfl (hMsg x)
  | foundServiceCandidate candidate =>
    refine .single (.keep ?_ ?_) <;>
      rcases foundServiceCandidate_cases candidate m with ⟨_, hEq⟩ | ⟨_, _, _, _, hEq⟩ | ⟨_, _, _, hEq⟩ <;>
        rw [handle, hEq]
  | foundServiceUser user activated => cases activated <;> exact .single (.keep rfl rfl)
  | deletedServiceCandidate candidate =>
    refine .single (.keep ?_ ?_) <;>
      rcases deletedServiceCandidate_cases candidate m with ⟨_, _, _, _, hEq⟩ | ⟨_, hEq⟩ <;>
        rw [handle, hEq] <;> rfl
  | identityCreatorReady =>
    obtain ⟨_, _, hEq⟩ := identityCreatorReadyHandler_cases m
    refine .single (.keep ?_ ?_) <;> rw [handle, hEq]
  | deploymentWatcherReady =>
    obtain ⟨_, _, hEq⟩ := deploymentWatcherReady_cases m
    refine .single (.keep ?_ ?_) <;> rw [handle, hEq]
  | identityManagerReady => exact identityManagerReady_writes (fun _ hc => hc) hCalls
  | activatedServiceUser user serviceNs serviceName =>
    change (m.activatedServiceUser outcomes user serviceNs serviceName).failures = _ at hCalls
    change Writes _ m (m.activatedServiceUser outcomes user serviceNs serviceName)
    rcases activatedServiceUser_cases outcomes user serviceNs serviceName m with
      ⟨_, hEq⟩ | ⟨i, hLookup, hEq⟩
    · rw [hEq]
    · rw [hEq] at hCalls ⊢
      exact .single (update_write (i.withUser user) (mem_identities_of_lookup hLookup) rfl rfl rfl rfl hCalls)
  | releaseDeviceId lookup uuid =>
    change (m.releaseDeviceId outcomes lookup uuid).failures = _ at hCalls
    change Writes _ m (m.releaseDeviceId outcomes lookup uuid)
    rcases releaseDeviceId_cases outcomes lookup uuid m with
      ⟨_, hEq⟩ | ⟨i, _, hLookup, _, hEq⟩
    · rw [hEq]
    · rw [hEq] at hCalls ⊢
      obtain ⟨deviceIds, hRecorded⟩ := recordDeviceId_eq_withUser uuid i
      exact .single (update_write (recordDeviceId uuid i) (mem_identities_of_lookup hLookup)
        (by rw [hRecorded]; rfl) (by rw [hRecorded]; rfl) rfl rfl hCalls)
  | identityManagerInitialized | identityManagerStarted | identityManagerDebug => exact .refl

end SdpK8sInjector.IdentityService.IdentityManager
