import SdpK8sInjector.IdentityService.Api

/-! # Creating an object that is stored already

The existence check of `create` asks for the service id, under which the API
never has an object. What is stored under the name of the object is not seen.
-/

namespace SdpK8sInjector.IdentityService

open Lib Common

namespace ServiceIdentityAPI

def delivered : Nat → CallOutcome := fun _ => .delivered

variable {api : ServiceIdentityAPI} {identity : ServiceIdentity}

theorem create_delivered : create delivered api identity =
    Remote.call delivered .transport { api with calls := api.calls + 1 } (ObjectStore.create identity) := by
  apply create_eq
  rw [Remote.call_delivered rfl rfl]

/-- The stored object is returned, and the identity is stored where there is none. -/
def Creates (api : ServiceIdentityAPI) (identity : ServiceIdentity) : Prop :=
  (create delivered api identity).1 = .ok ((api.store.objects.lookup identity.metadataName).getD identity) ∧
    (create delivered api identity).2.store.objects =
      if identity.metadataName ∈ api.store.objects then api.store.objects
      else AList.insert identity.metadataName identity api.store.objects

/-- Of two calls both return, and the second leaves the store as the first does. -/
def Repeats (first second : ServiceIdentityAPI → Except ApiError ServiceIdentity × ServiceIdentityAPI)
    (api : ServiceIdentityAPI) : Prop :=
  (∃ o, (first api).1 = .ok o) ∧ (∃ o, (second (first api).2).1 = .ok o) ∧
    (second (first api).2).2.store = (first api).2.store

theorem create_fresh (hValid : '_' ∉ identity.metadataName.toList)
    (hFresh : identity.metadataName ∉ api.store.objects) :
    create delivered api identity =
      (.ok identity, { api with store := api.store.put identity hValid, calls := api.calls + 1 + 1 }) := by
  rw [create_delivered]
  exact Remote.call_delivered rfl (ObjectStore.create_eq_ok.mpr ⟨rfl, hFresh, hValid, rfl⟩)

theorem creates_iff (api : ServiceIdentityAPI) (identity : ServiceIdentity) :
    Creates api identity ↔ '_' ∉ identity.metadataName.toList ∧ identity.metadataName ∉ api.store.objects := by
  constructor
  · rintro ⟨hOk, -⟩
    rw [create_delivered] at hOk
    obtain ⟨store, hOp, -⟩ := Remote.call_ok hOk
    obtain ⟨-, hFresh, hValid, -⟩ := ObjectStore.create_eq_ok.mp hOp
    exact ⟨hValid, hFresh⟩
  · rintro ⟨hValid, hFresh⟩
    rw [Creates, create_fresh hValid hFresh, if_neg hFresh, AList.lookup_eq_none.mpr hFresh]
    exact ⟨rfl, rfl⟩

/-- A create that returns has put its object where there was none. -/
theorem create_changes {o : ServiceIdentity} (h : (create delivered api identity).1 = .ok o) :
    (create delivered api identity).2.store ≠ api.store := by
  obtain ⟨-, hFresh, -, hObjects⟩ := create_ok h
  intro hSame
  rw [hSame] at hObjects
  apply hFresh
  rw [hObjects]
  exact (AList.mem_insert _).mpr (.inl rfl)

/-- An identity is created as it should be exactly if none is stored under its name, and after any first call a create
of it fails or changes the store again. -/
theorem create_idempotent_never (api : ServiceIdentityAPI) (identity : ServiceIdentity) :
    (Creates api identity ↔ '_' ∉ identity.metadataName.toList ∧ identity.metadataName ∉ api.store.objects) ∧
      ¬Repeats (create delivered · identity) (create delivered · identity) api ∧
      ¬Repeats (update delivered · identity) (create delivered · identity) api := by
  refine ⟨creates_iff api identity, ?_, ?_⟩
  · rintro ⟨-, ⟨o, hSecond⟩, hSame⟩
    exact create_changes hSecond hSame
  · rintro ⟨-, ⟨o, hSecond⟩, hSame⟩
    exact create_changes hSecond hSame

/-- The object of a service is created twice. -/
theorem created_twice_conflicts : ¬∀ (api : ServiceIdentityAPI) (identity : ServiceIdentity),
    Creates api identity ∧ Repeats (create delivered · identity) (create delivered · identity) api ∧
      Repeats (update delivered · identity) (create delivered · identity) api := by
  intro h
  let identity : ServiceIdentity :=
    .new "ns-a" ⟨⟨"u", "cluster_ns_a_abcde", "pw", "", none⟩, "a", "ns", ∅, false⟩
  have hTwice := (h ⟨.holding [identity], 0, []⟩ identity).1.1
  revert hTwice
  decide

end ServiceIdentityAPI

end SdpK8sInjector.IdentityService
