import SdpK8sInjector.Injector.Registrations
import SdpK8sInjector.Common.Watcher
import SdpK8sInjector.IdentityService.ManagerSpec

/-! # The id of a service as a key

The first underscore of a service id ends the namespace, since a namespace has
none. So what is kept under the id of one service is never that of another.
-/

namespace SdpK8sInjector.Injector

open Lib Common IdentityService

/-- The names of services may have underscores, their namespaces may not. -/
theorem formatServiceId_inj {ns name ns' name' : String} (hNs : '_' ∉ ns.toList) (hNs' : '_' ∉ ns'.toList)
    (h : formatServiceId ns name = formatServiceId ns' name') : ns = ns' ∧ name = name' := by
  have hLists : ns.toList ++ '_' :: name.toList = ns'.toList ++ '_' :: name'.toList := by
    simpa [formatServiceId] using congrArg String.toList h
  have hSplit := congrArg (List.splitOn '_') hLists
  have hTake : ns.toList = ns'.toList := by
    rw [List.splitOn_append_cons_self_of_not_mem hNs, List.splitOn_append_cons_self_of_not_mem hNs'] at hSplit
    exact (List.cons.inj hSplit).1
  rw [hTake] at hLists
  have hDrop : name.toList = name'.toList := (List.cons.inj (List.append_cancel_left hLists)).2
  exact ⟨String.toList_inj.mp hTake, String.toList_inj.mp hDrop⟩

def IdentityOf (ns name : String) (identity : ServiceIdentity) : Prop :=
  Namespaced.ns identity = ns ∧ Named.name identity = name

theorem IdentityOf.serviceId {ns name : String} {identity : ServiceIdentity} (h : IdentityOf ns name identity) :
    Service.serviceId identity = formatServiceId ns name := by
  obtain ⟨rfl, rfl⟩ := h
  rfl

/-- The maps that are keyed by the ids of services, as the first service has them, and the second one. -/
structure KeptApart (ns name ns' name' : String) : Prop where
  /-- The manager finds no identity of the second service for the first. -/
  found : ∀ (p : ServiceCredentialsProvider) labels identity,
    p.identity (.new ns name labels) = some identity → ¬IdentityOf ns' name' identity
  /-- What it finds does not depend on what becomes of the identity of the second. -/
  registered : ∀ (p : ServiceCredentialsProvider) labels identity, IdentityOf ns' name' identity →
    (p.registerOrUpdateIdentity identity).identity (.new ns name labels) = p.identity (.new ns name labels) ∧
      (p.unregisterIdentity identity).identity (.new ns name labels) = p.identity (.new ns name labels)
  candidates : ∀ (m : IdentityManager) (c : ServiceCandidate), MaybeNamespaced.ns c = some ns' →
    Named.name c = name' → (formatServiceId ns name ∈ (m.foundServiceCandidate c).existingServiceCandidates ↔
        formatServiceId ns name ∈ m.existingServiceCandidates) ∧
      (m.foundServiceCandidate c).missingServiceCandidates.lookup (formatServiceId ns name) =
        m.missingServiceCandidates.lookup (formatServiceId ns name)
  /-- The injector hands out no identity of the second service for the first. -/
  handedOut : ∀ parseStr (calls : List InMemoryIdentityStore.Call) newV4 identity d,
    ((calls.foldl (InMemoryIdentityStore.perform parseStr) .new).popDeviceId newV4 (formatServiceId ns name)).1 =
      .ok (identity, d) → ¬IdentityOf ns' name' identity
  stored : ∀ parseStr (store : InMemoryIdentityStore) identity used, IdentityOf ns' name' identity →
    let id := formatServiceId ns name
    let updated := (store.registerOrUpdate parseStr identity used).2
    let removed := (store.unregisterService (formatServiceId ns' name')).2
    updated.identities.lookup id = store.identities.lookup id ∧ updated.pool id = store.pool id ∧
      removed.identities.lookup id = store.identities.lookup id ∧ removed.pool id = store.pool id
  /-- A watcher does not take an object of the second service for one of the first. -/
  watched : ∀ {E P : Type} [SimpleWatchingProtocol E P] (w : Watching P) (e : Entity E) (found : Option Namespace),
    SimpleWatchingProtocol.key e.object = some (formatServiceId ns' name') →
      (formatServiceId ns name ∈ (w.initialTurn e found).applied ↔ formatServiceId ns name ∈ w.applied) ∧
      (formatServiceId ns name ∈ (w.eventTurn (.apply e) found).applied ↔ formatServiceId ns name ∈ w.applied) ∧
      (formatServiceId ns name ∈ (w.eventTurn (.delete e) found).applied ↔ formatServiceId ns name ∈ w.applied)

section Apart

variable {ns name ns' name' : String} (hIds : formatServiceId ns name ≠ formatServiceId ns' name')
include hIds

theorem identity_apart (p : ServiceCredentialsProvider) (labels : Option Labels) {identity : ServiceIdentity}
    (h : IdentityOf ns' name' identity) :
    (p.registerOrUpdateIdentity identity).identity (.new ns name labels) = p.identity (.new ns name labels) ∧
      (p.unregisterIdentity identity).identity (.new ns name labels) = p.identity (.new ns name labels) := by
  have hOther : formatServiceId ns name ≠ Service.serviceId identity := fun hSame => hIds (hSame.trans h.serviceId)
  constructor
  · exact AList.lookup_insert_ne hOther
  · exact AList.lookup_erase_ne hOther

theorem candidates_apart (m : IdentityManager) {c : ServiceCandidate} (hNs : MaybeNamespaced.ns c = some ns')
    (hName : Named.name c = name') :
    (formatServiceId ns name ∈ (m.foundServiceCandidate c).existingServiceCandidates ↔
        formatServiceId ns name ∈ m.existingServiceCandidates) ∧
      (m.foundServiceCandidate c).missingServiceCandidates.lookup (formatServiceId ns name) =
        m.missingServiceCandidates.lookup (formatServiceId ns name) := by
  subst hName
  rcases m.foundServiceCandidate_cases c with ⟨-, hSame⟩ | ⟨id, identity, hId, -, hFound⟩ |
    ⟨id, hId, -, hFound⟩
  · rw [hSame]
    exact ⟨Iff.rfl, rfl⟩
  all_goals
    obtain ⟨other, hOther, rfl⟩ := MaybeService.serviceId_eq_ok.mp hId
    cases hNs.symm.trans hOther
    rw [hFound]
  · exact ⟨(AList.mem_insert _).trans (or_iff_right hIds), rfl⟩
  · exact ⟨Iff.rfl, AList.lookup_insert_ne hIds⟩

theorem store_apart (parseStr : String → Option Uuid) (store : InMemoryIdentityStore) {identity : ServiceIdentity}
    (used : Option (List String)) (h : IdentityOf ns' name' identity) :
    let id := formatServiceId ns name
    let updated := (store.registerOrUpdate parseStr identity used).2
    let removed := (store.unregisterService (formatServiceId ns' name')).2
    updated.identities.lookup id = store.identities.lookup id ∧ updated.pool id = store.pool id ∧
      removed.identities.lookup id = store.identities.lookup id ∧ removed.pool id = store.pool id := by
  intro id updated removed
  have hOther : id ≠ Service.serviceId identity := fun hSame => hIds (hSame.trans h.serviceId)
  refine ⟨?_, ?_, AList.lookup_erase_ne hIds, ?_⟩
  · exact (InMemoryIdentityStore.lookup_registerOrUpdate identity used id).trans (if_neg hOther)
  · exact (InMemoryIdentityStore.pool_registerOrUpdate identity used id).trans (if_neg hOther)
  · exact (InMemoryIdentityStore.pool_unregisterService _ id).trans (if_neg hIds)

theorem watcher_apart {E P : Type} [SimpleWatchingProtocol E P] (w : Watching P)
    {e : Entity E} (found : Option Namespace)
    (hKey : SimpleWatchingProtocol.key e.object = some (formatServiceId ns' name')) :
    (formatServiceId ns name ∈ (w.initialTurn e found).applied ↔ formatServiceId ns name ∈ w.applied) ∧
      (formatServiceId ns name ∈ (w.eventTurn (.apply e) found).applied ↔ formatServiceId ns name ∈ w.applied) ∧
      (formatServiceId ns name ∈ (w.eventTurn (.delete e) found).applied ↔
        formatServiceId ns name ∈ w.applied) := by
  have hOther : SimpleWatchingProtocol.key e.object ≠ some (formatServiceId ns name) := by
    rw [hKey]
    exact fun hSame => hIds (Option.some.inj hSame).symm
  refine ⟨?_, ?_, ?_⟩
  · rw [Watching.mem_applied_initialTurn, or_iff_right hOther]
  · rw [Watching.mem_applied_apply, or_iff_left fun h => hOther h.1]
  · rw [Watching.mem_applied_delete, and_iff_left fun h => hOther h.1]

theorem keptApart : KeptApart ns name ns' name' where
  found p labels identity hFound hOther := hIds ((p.keyed _ _ hFound).symm.trans hOther.serviceId)
  registered p labels _ hOther := identity_apart hIds p labels hOther
  candidates m _ hNs hName := candidates_apart hIds m hNs hName
  handedOut parseStr calls newV4 identity d hOk hOther := by
    have hWellFormed := InMemoryIdentityStore.wellFormed_new.foldl_perform parseStr calls
    rcases hWellFormed.lookup_cases (formatServiceId ns name) with ⟨-, hFound, hPool⟩ |
      ⟨stored, r, -, hFound, hPool⟩
    · rw [InMemoryIdentityStore.popDeviceId, hFound, hPool] at hOk
      cases hOk
    · cases (InMemoryIdentityStore.popDeviceId_registered newV4 hFound hPool).1.symm.trans hOk
      exact hIds ((hWellFormed.named _ identity hFound).symm.trans hOther.serviceId)
  stored parseStr store _ used hOther := store_apart hIds parseStr store used hOther
  watched w _ found hKey := watcher_apart hIds w found hKey

end Apart

/-- Services of namespaces without an underscore have the same id only if they are the same, and what is kept under the
ids of two others is kept apart. -/
theorem service_id_injective (ns name ns' name' : String) (hNs : '_' ∉ ns.toList) (hNs' : '_' ∉ ns'.toList) :
    (formatServiceId ns name = formatServiceId ns' name' → ns = ns' ∧ name = name') ∧
      ((ns, name) ≠ (ns', name') → KeptApart ns name ns' name') := by
  have hInj : formatServiceId ns name = formatServiceId ns' name' → ns = ns' ∧ name = name' :=
    formatServiceId_inj hNs hNs'
  refine ⟨hInj, fun hDifferent => keptApart fun hIds => hDifferent ?_⟩
  obtain ⟨rfl, rfl⟩ := hInj hIds
  rfl

theorem service_id_injective_sample :
    formatServiceId "ns" "a_b" ≠ formatServiceId "ns-a" "b" ∧ KeptApart "ns" "a_b" "ns-a" "b" := by
  obtain ⟨hSame, hApart⟩ := service_id_injective "ns" "a_b" "ns-a" "b" (by decide) (by decide)
  refine ⟨fun hIds => ?_, hApart (by decide)⟩
  exact absurd (hSame hIds).2 (by decide)

end SdpK8sInjector.Injector
