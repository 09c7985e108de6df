import SdpK8sInjector.IdentityService.Writes

/-! # The registered identities and their objects

While the calls succeed, every registered identity has its object in the API. A
deletion taken from the queue is the one exception: it may name the object of
another service, since names are not injective where ids are.
-/

namespace SdpK8sInjector.IdentityService.IdentityManager

open Lib Common ServiceCredentialsProvider

variable {outcomes : Nat → CallOutcome} {order : IterationOrder}

/-- Every registered identity has an object of its service, under the name of the service. -/
def Mirrored (m : IdentityManager) : Prop :=
  ∀ i ∈ m.serviceCredentialsProvider.identities,
    ∃ o, m.objects.lookup (Service.serviceName i) = some o ∧ Service.serviceId o = Service.serviceId i

instance : DecidablePred Mirrored := fun m =>
  decidable_of_iff (∀ i ∈ m.serviceCredentialsProvider.identities,
    (m.objects.lookup (Service.serviceName i)).any (Service.serviceId · = Service.serviceId i) = true) (by
      simp [Mirrored, Option.any_eq_true])

/-- Two registered identities never share an object. -/
theorem Mirrored.serviceId_eq {m : IdentityManager} (h : Mirrored m) {i j : ServiceIdentity}
    (hi : i ∈ m.serviceCredentialsProvider.identities) (hj : j ∈ m.serviceCredentialsProvider.identities)
    (hName : Service.serviceName i = Service.serviceName j) : Service.serviceId i = Service.serviceId j := by
  obtain ⟨o, ho, hoId⟩ := h i hi
  obtain ⟨o', ho', hoId'⟩ := h j hj
  rw [hName, ho'] at ho
  cases ho
  exact hoId.symm.trans hoId'

theorem Mirrored.eraseAll {m m' : IdentityManager} (h : Mirrored m) {deleted : List ServiceIdentity}
    (hIdentities : m'.identities = HashMap.eraseAll m.identities (deleted.map Service.serviceId))
    (hObjects : m'.objects = HashMap.eraseAll m.objects (deleted.map Service.serviceName))
    (hOthers : ∀ x ∈ deleted, ∀ i ∈ m.serviceCredentialsProvider.identities,
      Service.serviceName i = Service.serviceName x → Service.serviceId i = Service.serviceId x) :
    Mirrored m' := by
  intro i hi
  have hLookup : m'.identities.lookup (Service.serviceId i) = some i := (mem_identities _).mp hi
  rw [hIdentities, HashMap.lookup_eraseAll] at hLookup
  split at hLookup
  · cases hLookup
  · have hMem : i ∈ m.serviceCredentialsProvider.identities := (mem_identities _).mpr hLookup
    obtain ⟨o, ho, hoId⟩ := h i hMem
    refine ⟨o, ?_, hoId⟩
    rw [hObjects, HashMap.lookup_eraseAll, if_neg, ho]
    intro hName
    obtain ⟨x, hx, hEq⟩ := List.mem_map.mp hName
    exact ‹_ ∉ _› (List.mem_map.mpr ⟨x, hx, (hOthers x hx i hMem hEq.symm).symm⟩)

/-- An identity and its object are written together. -/
theorem Mirrored.insert {m m' : IdentityManager} (h : Mirrored m) (identity o : ServiceIdentity)
    (hIdentities : m'.identities = AList.insert (Service.serviceId identity) identity m.identities)
    (hObjects : m'.objects = AList.insert (Service.serviceName identity) o m.objects)
    (hId : Service.serviceId o = Service.serviceId identity)
    (hOthers : ∀ i ∈ m.serviceCredentialsProvider.identities,
      Service.serviceName i = Service.serviceName identity → Service.serviceId i = Service.serviceId identity) :
    Mirrored m' := by
  intro i hi
  have hLookup : m'.identities.lookup (Service.serviceId i) = some i := (mem_identities _).mp hi
  rw [hIdentities, HashMap.lookup_insert_eq_ite] at hLookup
  rw [hObjects]
  split at hLookup
  · cases hLookup
    exact ⟨o, AList.lookup_insert _, hId⟩
  · have hMem : i ∈ m.serviceCredentialsProvider.identities := (mem_identities _).mpr hLookup
    obtain ⟨o', ho', hoId'⟩ := h i hMem
    refine ⟨o', ?_, hoId'⟩
    rw [HashMap.lookup_insert_eq_ite, if_neg, ho']
    exact fun hName => ‹¬_› (hOthers i hMem hName)

theorem Mirrored.write {requested : ServiceCandidate → Prop} {m m' : IdentityManager} (h : Mirrored m)
    (hWrite : Write requested m m') : Mirrored m' := by
  cases hWrite with
  | keep hIdentities hObjects =>
    intro i hi
    have hLookup : m.identities.lookup (Service.serviceId i) = some i := hIdentities ▸ (mem_identities _).mp hi
    rw [hObjects]
    exact h i ((mem_identities _).mpr hLookup)
  | create c identity _ _ hFresh hIdentities hObjects =>
    refine h.insert identity identity hIdentities hObjects rfl fun i hi hName => ?_
    obtain ⟨o, ho, _⟩ := h i hi
    rw [hName] at ho
    exact absurd (HashMap.mem_iff_exists_lookup.mpr ⟨o, ho⟩) hFresh
  | replace i identity hi hNs hName hIdentities hObjects =>
    have hId : Service.serviceId identity = Service.serviceId i := by rw [Service.serviceId, hNs, hName]; rfl
    have hKey : Service.serviceName identity = Service.serviceName i := by rw [Service.serviceName, hNs, hName]; rfl
    rcases hObjects with hNone | ⟨o, hObjects, hSpec⟩
    · obtain ⟨o, ho, _⟩ := h i hi
      rw [hKey] at hNone
      cases ho.symm.trans hNone
    · have hObjectId : Service.serviceId o = Service.serviceId identity := congrArg
        (fun spec : ServiceIdentitySpec => formatServiceId spec.serviceNamespace spec.serviceName) hSpec
      refine h.insert identity o hIdentities hObjects hObjectId fun j hj hEq => ?_
      exact (h.serviceId_eq hj hi (hEq.trans hKey)).trans hId.symm
  | erase deleted hDeleted hIdentities hObjects =>
    exact h.eraseAll hIdentities hObjects fun x hx i hi hName => h.serviceId_eq hi (hDeleted x hx) hName

theorem Mirrored.writes {requested : ServiceCandidate → Prop} {m m' : IdentityManager} (h : Mirrored m)
    (hWrites : Writes requested m m') : Mirrored m' := by
  induction hWrites with
  | refl => exact h
  | tail _ hWrite ih => exact ih.write hWrite

/-- A deletion in the message does not name the object of another registered service. -/
def Spares (m : IdentityManager) : IdentityManagerProtocol → Prop
  | .deleteServiceIdentity x => ∀ i ∈ m.serviceCredentialsProvider.identities,
      Service.serviceName i = Service.serviceName x → Service.serviceId i = Service.serviceId x
  | _ => True

instance (m : IdentityManager) : DecidablePred m.Spares := fun msg => by
  unfold Spares
  split <;> infer_instance

theorem Mirrored.handled {m : IdentityManager} (h : Mirrored m) {msg : IdentityManagerProtocol}
    (hSpares : m.Spares msg) (hCalls : (handle outcomes order msg m).failures = m.failures) :
    Mirrored (handle outcomes order msg m) := by
  by_cases hMsg : ∀ x, msg ≠ .deleteServiceIdentity x
  · exact h.writes (handle_writes hMsg hCalls)
  · obtain ⟨x, rfl⟩ := not_forall_not.mp hMsg
    obtain ⟨deleted, _, hDeleted, hAll⟩ := deleteServiceIdentity_deleted outcomes x m
    cases hAll hCalls
    refine h.eraseAll hDeleted.identities (hDeleted.objects hCalls) fun y hy i hi hName => ?_
    cases List.mem_singleton.mp hy
    exact hSpares i hi hName

end SdpK8sInjector.IdentityService.IdentityManager
