import SdpK8sInjector.Common.Service
import SdpK8sInjector.Lib.Remote

/-! # The ServiceIdentity objects in the API and the calls made on them

The API server keys objects by their metadata name, refuses a create on a name
in use and refuses names that are not DNS names, so none has an underscore.
-/

namespace SdpK8sInjector.IdentityService

open Lib Common

inductive ApiError where
  | transport
  | notFound
  | alreadyExists
  | invalid
deriving DecidableEq, Repr

structure ObjectStore where
  objects : HashMap String ServiceIdentity
  named : ∀ name o, objects.lookup name = some o → o.metadataName = name
  valid : ∀ name o, objects.lookup name = some o → '_' ∉ name.toList
deriving DecidableEq

namespace ObjectStore

def empty : ObjectStore := ⟨∅, by simp, by simp⟩

def put (s : ObjectStore) (o : ServiceIdentity) (h : '_' ∉ o.metadataName.toList) : ObjectStore where
  objects := AList.insert o.metadataName o s.objects
  named name o' ho' := by
    rw [HashMap.lookup_insert_eq_ite] at ho'
    split at ho'
    · cases ho'
      exact Eq.symm ‹_›
    · exact s.named name o' ho'
  valid name o' ho' := by
    rw [HashMap.lookup_insert_eq_ite] at ho'
    split at ho'
    · subst name
      exact h
    · exact s.valid name o' ho'

def getOpt (name : String) (s : ObjectStore) : Except ApiError (Option ServiceIdentity × ObjectStore) :=
  .ok (s.objects.lookup name, s)

def create (o : ServiceIdentity) (s : ObjectStore) : Except ApiError (ServiceIdentity × ObjectStore) :=
  if h : '_' ∈ o.metadataName.toList then .error .invalid
  else if o.metadataName ∈ s.objects then .error .alreadyExists
  else .ok (o, s.put o h)

def replace (name : String) (o : ServiceIdentity) (s : ObjectStore) :
    Except ApiError (ServiceIdentity × ObjectStore) :=
  if name ∉ s.objects then .error .notFound
  else if h : '_' ∈ o.metadataName.toList ∨ o.metadataName ≠ name then .error .invalid
  else .ok (o, s.put o (fun hMem => h (.inl hMem)))

def delete (name : String) (s : ObjectStore) : Except ApiError (Unit × ObjectStore) :=
  if name ∈ s.objects then
    .ok ((), {
      objects := s.objects.erase name
      named := fun name' o h => s.named name' o (by
        rw [HashMap.lookup_erase_eq_ite] at h
        split at h
        · cases h
        · exact h)
      valid := fun name' o h => s.valid name' o (by
        rw [HashMap.lookup_erase_eq_ite] at h
        split at h
        · cases h
        · exact h) })
  else .error .notFound

/-- The store after creating the given objects one by one. -/
def holding (objects : List ServiceIdentity) : ObjectStore :=
  objects.foldl (fun s o => (create o s).toOption.elim s Prod.snd) empty

@[simp] theorem objects_put (s : ObjectStore) (o : ServiceIdentity) (h : '_' ∉ o.metadataName.toList) :
    (s.put o h).objects = AList.insert o.metadataName o s.objects := rfl

def Forall (P : ServiceIdentity → Prop) (s : ObjectStore) : Prop := ∀ o ∈ HashMap.values s.objects, P o

theorem forall_put {P : ServiceIdentity → Prop} {s : ObjectStore} {o : ServiceIdentity}
    {hValid : '_' ∉ o.metadataName.toList} (h : s.Forall P) (hNew : P o) : (s.put o hValid).Forall P := by
  intro o' ho'
  obtain ⟨name, hLookup⟩ := HashMap.mem_values.mp ho'
  rw [objects_put, HashMap.lookup_insert_eq_ite] at hLookup
  split at hLookup
  · cases hLookup
    exact hNew
  · exact h o' (HashMap.mem_values.mpr ⟨name, hLookup⟩)

theorem create_eq_ok {s t : ObjectStore} {o o' : ServiceIdentity} :
    create o s = .ok (o', t) ↔
      o' = o ∧ o.metadataName ∉ s.objects ∧ ∃ h : '_' ∉ o.metadataName.toList, t = s.put o h := by
  unfold create
  split
  · simp_all
  · split <;> simp_all [eq_comm]

theorem replace_eq_ok {s t : ObjectStore} {name : String} {o o' : ServiceIdentity} :
    replace name o s = .ok (o', t) ↔
      o' = o ∧ name ∈ s.objects ∧ o.metadataName = name ∧
        ∃ h : '_' ∉ o.metadataName.toList, t = s.put o h := by
  unfold replace
  split
  · simp_all
  · split
    · rename_i h
      simp only [reduceCtorEq, false_iff]
      rintro ⟨_, _, hName, hValid, _⟩
      exact h.elim hValid (fun hNe => hNe hName)
    · rename_i hMem h
      simp only [not_or, not_not] at h
      simp only [Except.ok.injEq, Prod.mk.injEq]
      grind

theorem delete_eq_ok {s t : ObjectStore} {name : String} (h : delete name s = .ok ((), t)) :
    name ∈ s.objects ∧ t.objects = s.objects.erase name := by
  unfold delete at h
  split at h
  · cases h
    exact ⟨‹_›, rfl⟩
  · cases h

theorem lookup_serviceId (s : ObjectStore) (ns name : String) :
    s.objects.lookup (formatServiceId ns name) = none := by
  cases h : s.objects.lookup (formatServiceId ns name) with
  | none => rfl
  | some o => exact absurd (underscore_mem_formatServiceId ns name) (s.valid _ _ h)

end ObjectStore

/-! `IdentityManagerServiceIdentityAPI`: the existence check of `create` asks for
the service id, that of `update` for the service name. -/

abbrev ServiceIdentityAPI := Remote ObjectStore ApiError

namespace ServiceIdentityAPI

variable (outcomes : Nat → CallOutcome)

def create (api : ServiceIdentityAPI) (identity : ServiceIdentity) :
    Except ApiError ServiceIdentity × ServiceIdentityAPI :=
  match api.call outcomes .transport (ObjectStore.getOpt (Service.serviceId identity)) with
  | (.error e, api) => (.error e, api)
  | (.ok none, api) => api.call outcomes .transport (ObjectStore.create identity)
  | (.ok (some stored), api) => (.ok stored, api)

def update (api : ServiceIdentityAPI) (identity : ServiceIdentity) :
    Except ApiError ServiceIdentity × ServiceIdentityAPI :=
  match api.call outcomes .transport (ObjectStore.getOpt (Service.serviceName identity)) with
  | (.error e, api) => (.error e, api)
  | (.ok (some obj), api) =>
    api.call outcomes .transport
      (ObjectStore.replace (Service.serviceName identity) { obj with spec := identity.spec })
  | (.ok none, api) => create outcomes api identity

def delete (api : ServiceIdentityAPI) (identity : ServiceIdentity) :
    Except ApiError Unit × ServiceIdentityAPI :=
  api.call outcomes .transport (ObjectStore.delete (Service.serviceName identity))

variable {outcomes} {api : ServiceIdentityAPI} {identity : ServiceIdentity}

theorem call_getOpt_ok {name : String} {found : Option ServiceIdentity}
    (h : (api.call outcomes .transport (ObjectStore.getOpt name)).1 = .ok found) :
    found = api.store.objects.lookup name ∧
      (api.call outcomes .transport (ObjectStore.getOpt name)).2 = { api with calls := api.calls + 1 } := by
  obtain ⟨store, hOp, hRemote⟩ := Remote.call_ok h
  cases hOp
  exact ⟨rfl, hRemote⟩

/-- The existence check never finds anything, so `create` creates or fails. -/
theorem create_eq (hChecked : (api.call outcomes .transport
      (ObjectStore.getOpt (Service.serviceId identity))).1 =
      .ok (api.store.objects.lookup (Service.serviceId identity))) :
    create outcomes api identity =
      Remote.call outcomes .transport { api with calls := api.calls + 1 } (ObjectStore.create identity) := by
  have hNone : api.store.objects.lookup (Service.serviceId identity) = none :=
    ObjectStore.lookup_serviceId _ _ _
  obtain ⟨-, hRemote⟩ := call_getOpt_ok hChecked
  rw [hNone] at hChecked
  rw [create, ← hRemote, ← Prod.mk.eta (p := Remote.call _ _ _ (ObjectStore.getOpt _)), hChecked]

theorem create_ok {created : ServiceIdentity} (h : (create outcomes api identity).1 = .ok created) :
    created = identity ∧ identity.metadataName ∉ api.store.objects ∧
      (create outcomes api identity).2.failed = api.failed ∧
      (create outcomes api identity).2.store.objects =
        AList.insert identity.metadataName identity api.store.objects := by
  cases hChecked : (api.call outcomes .transport
      (ObjectStore.getOpt (Service.serviceId identity))).1 with
  | error e =>
    rw [create, ← Prod.mk.eta (p := Remote.call _ _ _ (ObjectStore.getOpt _)), hChecked] at h
    cases h
  | ok found =>
    obtain ⟨rfl, -⟩ := call_getOpt_ok hChecked
    rw [create_eq hChecked] at h ⊢
    obtain ⟨store, hOp, hRemote⟩ := Remote.call_ok h
    obtain ⟨rfl, hFresh, _, rfl⟩ := ObjectStore.create_eq_ok.mp hOp
    rw [hRemote]
    exact ⟨rfl, hFresh, rfl, rfl⟩

theorem create_succeeds (h : (create outcomes api identity).2.failed = api.failed) :
    (create outcomes api identity).1 = .ok identity := by
  cases hResult : (create outcomes api identity).1 with
  | ok created => rw [(create_ok hResult).1]
  | error e =>
    cases hChecked : (api.call outcomes .transport
        (ObjectStore.getOpt (Service.serviceId identity))).1 with
    | error e =>
      have hFailed := (Remote.call_error hChecked).1
      rw [create, ← Prod.mk.eta (p := Remote.call _ _ _ (ObjectStore.getOpt _)), hChecked] at h
      simp [hFailed] at h
    | ok found =>
      obtain ⟨rfl, -⟩ := call_getOpt_ok hChecked
      rw [create_eq hChecked] at h hResult
      have hFailed := (Remote.call_error hResult).1
      simp [hFailed] at h

variable (outcomes) in
theorem failed_prefix_create (api : ServiceIdentityAPI) (identity : ServiceIdentity) :
    api.failed <+: (create outcomes api identity).2.failed := by
  have hCheck : api.failed <+: (api.call outcomes .transport
      (ObjectStore.getOpt (Service.serviceId identity))).2.failed := Remote.failed_prefix_call
  unfold create
  cases hChecked : api.call outcomes .transport (ObjectStore.getOpt (Service.serviceId identity)) with
  | mk result checked =>
    rw [hChecked] at hCheck
    cases result with
    | error e => exact hCheck
    | ok found =>
      cases found with
      | none => exact hCheck.trans Remote.failed_prefix_call
      | some stored => exact hCheck

variable (outcomes) in
theorem failed_prefix_update (api : ServiceIdentityAPI) (identity : ServiceIdentity) :
    api.failed <+: (update outcomes api identity).2.failed := by
  have hCheck : api.failed <+: (api.call outcomes .transport
      (ObjectStore.getOpt (Service.serviceName identity))).2.failed := Remote.failed_prefix_call
  unfold update
  cases hChecked : api.call outcomes .transport (ObjectStore.getOpt (Service.serviceName identity)) with
  | mk result checked =>
    rw [hChecked] at hCheck
    cases result with
    | error e => exact hCheck
    | ok found =>
      cases found with
      | none => exact hCheck.trans (failed_prefix_create _ checked identity)
      | some stored => exact hCheck.trans Remote.failed_prefix_call

variable (outcomes) in
theorem forall_getOpt {P : ServiceIdentity → Prop} (h : api.store.Forall P) (name : String) :
    (api.call outcomes .transport (ObjectStore.getOpt name)).2.store.Forall P := by
  refine Remote.call_invariant (ObjectStore.Forall P) h fun _ _ hOp => ?_
  cases hOp
  exact h

/-- Whatever becomes of a creation, an object that it wrote has the spec of the identity. -/
theorem forall_create {P : ServiceIdentity → Prop} (h : api.store.Forall P)
    (hNew : ∀ o, o.spec = identity.spec → P o) :
    (create outcomes api identity).2.store.Forall P := by
  have hCheck := forall_getOpt outcomes h (Service.serviceId identity)
  unfold create
  cases hChecked : api.call outcomes .transport (ObjectStore.getOpt (Service.serviceId identity)) with
  | mk result checked =>
    rw [hChecked] at hCheck
    cases result with
    | error e => exact hCheck
    | ok found =>
      cases found with
      | none =>
        refine Remote.call_invariant (ObjectStore.Forall P) hCheck fun _ _ hOp => ?_
        obtain ⟨_, _, hValid, rfl⟩ := ObjectStore.create_eq_ok.mp hOp
        exact ObjectStore.forall_put hCheck (hNew identity rfl)
      | some stored => exact hCheck

theorem forall_update {P : ServiceIdentity → Prop} (h : api.store.Forall P)
    (hNew : ∀ o, o.spec = identity.spec → P o) :
    (update outcomes api identity).2.store.Forall P := by
  have hCheck := forall_getOpt outcomes h (Service.serviceName identity)
  unfold update
  cases hChecked : api.call outcomes .transport (ObjectStore.getOpt (Service.serviceName identity)) with
  | mk result checked =>
    rw [hChecked] at hCheck
    cases result with
    | error e => exact hCheck
    | ok found =>
      cases found with
      | none => exact forall_create hCheck hNew
      | some obj =>
        refine Remote.call_invariant (ObjectStore.Forall P) hCheck fun _ _ hOp => ?_
        obtain ⟨_, _, _, hValid, rfl⟩ := ObjectStore.replace_eq_ok.mp hOp
        exact ObjectStore.forall_put hCheck (hNew _ rfl)

theorem delete_ok (h : (delete outcomes api identity).1 = .ok ()) :
    Service.serviceName identity ∈ api.store.objects ∧
      (delete outcomes api identity).2.failed = api.failed ∧
      (delete outcomes api identity).2.store.objects =
        api.store.objects.erase (Service.serviceName identity) := by
  obtain ⟨store, hOp, hRemote⟩ := Remote.call_ok h
  obtain ⟨hMem, hObjects⟩ := ObjectStore.delete_eq_ok hOp
  rw [delete, hRemote]
  exact ⟨hMem, rfl, hObjects⟩

/-- An update that succeeds has replaced the object of the service, or created it. -/
theorem update_succeeds (h : (update outcomes api identity).2.failed = api.failed) :
    (∃ obj, api.store.objects.lookup (Service.serviceName identity) = some obj ∧
      (update outcomes api identity).1 = .ok { obj with spec := identity.spec } ∧
      (update outcomes api identity).2.store.objects =
        AList.insert (Service.serviceName identity) { obj with spec := identity.spec } api.store.objects) ∨
    (api.store.objects.lookup (Service.serviceName identity) = none ∧
      (update outcomes api identity).1 = .ok identity ∧ identity.metadataName ∉ api.store.objects ∧
      (update outcomes api identity).2.store.objects =
        AList.insert identity.metadataName identity api.store.objects) := by
  cases hChecked : (api.call outcomes .transport
      (ObjectStore.getOpt (Service.serviceName identity))).1 with
  | error e =>
    have hFailed := (Remote.call_error hChecked).1
    rw [update, ← Prod.mk.eta (p := Remote.call _ _ _ (ObjectStore.getOpt _)), hChecked] at h
    simp [hFailed] at h
  | ok found =>
    obtain ⟨hFound, hRemote⟩ := call_getOpt_ok hChecked
    rw [update, ← Prod.mk.eta (p := Remote.call _ _ _ (ObjectStore.getOpt _)), hChecked, hRemote] at h ⊢
    cases found with
    | some obj =>
      left
      obtain ⟨stored, store, hOp, hCall⟩ := Remote.call_succeeds h
      obtain ⟨rfl, -, hName, _, rfl⟩ := ObjectStore.replace_eq_ok.mp hOp
      dsimp only
      rw [hCall]
      exact ⟨obj, hFound.symm, rfl, by rw [ObjectStore.objects_put, hName]⟩
    | none =>
      right
      have hResult : (create outcomes { api with calls := api.calls + 1 } identity).1 = .ok identity :=
        create_succeeds h
      exact ⟨hFound.symm, hResult, (create_ok hResult).2.1, (create_ok hResult).2.2.2⟩

end ServiceIdentityAPI

end SdpK8sInjector.IdentityService
