import SdpK8sInjector.IdentityService.Recreation

/-! # A request whose object cannot be created

The user is taken from the pool and bound to the service before the object is
created, and neither is undone when that fails. From then on the service counts
as registered, and every later request for it is ignored.
-/

namespace SdpK8sInjector.IdentityService.IdentityManager

open Lib Common ServiceCredentialsProvider

variable {outcomes : Nat → CallOutcome} {m n : IdentityManager} {candidate : ServiceCandidate} {id : String}
  {user : ServiceUser} {rest : List ServiceUser}

/-- The service is new, and its object with the next user of the pool is not created. -/
structure CreateFails (outcomes : Nat → CallOutcome) (m : IdentityManager) (candidate : ServiceCandidate)
    (id : String)
    (user : ServiceUser) (rest : List ServiceUser) : Prop where
  serviceId : MaybeService.serviceId candidate = .ok id
  unregistered : m.identities.lookup id = none
  pool : m.pool = user :: rest
  create : ∀ lookup, ServiceLookup.tryFromService candidate = .ok lookup →
    ∃ e, (m.serviceIdentityApi.create outcomes (identityFor lookup user)).1 = .error e

theorem requestServiceIdentity_createFails (h : CreateFails outcomes m candidate id user rest) :
    ∃ lookup api, id = formatServiceId lookup.ns lookup.name ∧ m.requestServiceIdentity outcomes candidate =
      { m with
        serviceIdentityApi := api
        serviceCredentialsProvider := ({ m.serviceCredentialsProvider with pool := rest }
          : ServiceCredentialsProvider).registerOrUpdateIdentity (identityFor lookup user) } := by
  obtain ⟨lookup, labels, hLookup, hLabels, hFormat⟩ := ServiceLookup.tryFromService_of_serviceId h.serviceId
  obtain ⟨e, hError⟩ := h.create lookup hLookup
  have hUnregistered : m.serviceCredentialsProvider.services.lookup (formatServiceId lookup.ns lookup.name) = none :=
    hFormat ▸ h.unregistered
  have hNext : m.serviceCredentialsProvider.nextIdentity lookup = (some (identityFor lookup user, true),
      ({ m.serviceCredentialsProvider with pool := rest } : ServiceCredentialsProvider).registerOrUpdateIdentity
        (identityFor lookup user)) := by
    rcases m.serviceCredentialsProvider.nextIdentity_cases lookup with
      ⟨identity, hFound, -⟩ | ⟨-, hPool, -⟩ | ⟨user', rest', -, hPool, hNext⟩
    · cases hUnregistered.symm.trans hFound
    · cases h.pool.symm.trans hPool
    · cases h.pool.symm.trans hPool
      exact hNext
  cases hCreate : m.serviceIdentityApi.create outcomes (identityFor lookup user) with
  | mk result api =>
    rw [hCreate] at hError
    dsimp only at hError
    subst hError
    exact ⟨lookup, api, hFormat, by simp [requestServiceIdentity, h.serviceId, hLookup, hLabels, hNext, hCreate]⟩

theorem requestServiceIdentity_registered (hId : MaybeService.serviceId candidate = .ok id) (h : Registered id m) :
    m.requestServiceIdentity outcomes candidate = m := by
  obtain ⟨i, hFound⟩ := h
  obtain ⟨lookup, labels, hLookup, hLabels, hFormat⟩ := ServiceLookup.tryFromService_of_serviceId hId
  rcases m.serviceCredentialsProvider.nextIdentity_cases lookup with
    ⟨identity, -, hNext⟩ | ⟨hNone, -, -⟩ | ⟨_, _, hNone, -, -⟩
  · simp [requestServiceIdentity, hId, hLookup, hLabels, hNext]
  · rw [← hFormat] at hNone
    cases hNone.symm.trans hFound
  · rw [← hFormat] at hNone
    cases hNone.symm.trans hFound

/-- No deletion of the service and no reconciliation is handled. -/
def Leaves (id : String) (m : IdentityManager) : Event → Prop
  | .arrive _ => True
  | .handle _ => ∀ msg ∈ m.identityManagerQueue.pending.head?, deletes id msg = false ∧
    msg ≠ .identityManagerReady

theorem Registered.steps (h : Registered id m) (hRun : Steps (next outcomes) (Leaves id) m n) : Registered id n := by
  apply hRun.invariant (Registered id) _ h
  intro s event t hRegistered hAllowed hNext
  cases event with
  | arrive msg =>
    cases hNext
    exact hRegistered
  | handle order =>
    obtain ⟨⟨msg, queue⟩, hRecv, rfl⟩ := Option.map_eq_some_iff.mp hNext
    obtain ⟨pending, hPending, -⟩ := Channel.recv_eq_some.mp hRecv
    obtain ⟨hDelete, hReady⟩ := hAllowed msg (by rw [hPending]; rfl)
    have hBefore : Registered id { s with identityManagerQueue := queue } := hRegistered
    exact hBefore.handled hDelete hReady

/-- A failed creation never leaves the pool and the registered identities as they were: the user is lost to the pool
and bound to the service, the creator hears nothing of it, and until the service is deleted every later request for it
is ignored. -/
theorem failed_request_binds (h : CreateFails outcomes m candidate id user rest) :
    (m.requestServiceIdentity outcomes candidate).pool = rest ∧
    (∃ i, (m.requestServiceIdentity outcomes candidate).identities.lookup id = some i ∧ i.credentials = user) ∧
    ¬((m.requestServiceIdentity outcomes candidate).pool = m.pool ∧
      (m.requestServiceIdentity outcomes candidate).identities = m.identities) ∧
    (m.requestServiceIdentity outcomes candidate).identityCreatorQueue = m.identityCreatorQueue ∧
    ∀ (outcomes' : Nat → CallOutcome) (later : IdentityManager), Steps (next outcomes')
    (Leaves id) (m.requestServiceIdentity outcomes candidate) later →
        ∀ candidate', MaybeService.serviceId candidate' = .ok id →
          later.requestServiceIdentity outcomes' candidate' = later := by
  obtain ⟨lookup, api, hFormat, hResult⟩ := requestServiceIdentity_createFails h
  have hBound : (m.requestServiceIdentity outcomes candidate).identities.lookup id =
      some (identityFor lookup user) := by
    rw [hResult]
    change (AList.insert (formatServiceId lookup.ns lookup.name) (identityFor lookup user) m.identities).lookup id = _
    rw [hFormat, AList.lookup_insert]
  refine ⟨?_, ⟨_, hBound, rfl⟩, ?_, ?_, ?_⟩
  · rw [hResult]
    rfl
  · rintro ⟨-, hSame⟩
    rw [hSame, h.unregistered] at hBound
    cases hBound
  · rw [hResult]
  · intro outcomes' later hRun candidate' hId
    have hRegistered : Registered id (m.requestServiceIdentity outcomes candidate) := ⟨_, hBound⟩
    exact requestServiceIdentity_registered hId (hRegistered.steps hRun)

def sampleOneUser : IdentityManager := (new "cluster" ⟨.holding [], 0, []⟩).foundServiceUser (sampleUser "u1") false

theorem failed_request_binds_sample :
    (sampleOneUser.requestServiceIdentity (fun _ => .requestLost) (sampleCandidate "a")).pool = [] := by
  have hCreate : ∀ lookup, ServiceLookup.tryFromService (sampleCandidate "a") = .ok lookup →
      ∃ e, (sampleOneUser.serviceIdentityApi.create (fun _ => .requestLost)
        (identityFor lookup (sampleUser "u1"))).1 = .error e :=
    fun lookup _ => ⟨.transport, rfl⟩
  have hFails : CreateFails (fun _ => .requestLost) sampleOneUser (sampleCandidate "a") "ns_a" (sampleUser "u1") [] :=
    ⟨by decide, by decide, rfl, hCreate⟩
  exact (failed_request_binds hFails).1

/-- The request fails, and the next one for the same service is ignored although the calls succeed again. -/
theorem user_lost_to_failed_request : ¬∀ (outcomes : Nat → CallOutcome) (m : IdentityManager)
    (candidate : ServiceCandidate)
    (id : String) (user : ServiceUser) (rest : List ServiceUser), CreateFails outcomes m candidate id user rest →
      (m.requestServiceIdentity outcomes candidate).pool = m.pool ∧
        (m.requestServiceIdentity outcomes candidate).identities = m.identities := by
  intro h
  have hFails : CreateFails (fun _ => .requestLost) sampleOneUser (sampleCandidate "a") "ns_a" (sampleUser "u1") [] :=
    ⟨by decide, by decide, rfl, fun lookup _ => ⟨.transport, rfl⟩⟩
  have hPool := (h _ _ _ _ _ _ hFails).1
  revert hPool
  decide

end SdpK8sInjector.IdentityService.IdentityManager
