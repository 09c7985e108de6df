import SdpK8sInjector.IdentityService.Reconciliation

/-! # Calls made for one service and the object of another

Every call reads and writes the object stored under the name of its service, and
no other. Two services are therefore kept apart exactly where their names differ.
-/

namespace SdpK8sInjector.IdentityService

open Lib Common ServiceCredentialsProvider

namespace ServiceIdentityAPI

variable {outcomes : Nat → CallOutcome} {api : ServiceIdentityAPI}

variable (outcomes api) in
theorem store_getOpt (name : String) :
    (api.call outcomes .transport (ObjectStore.getOpt name)).2.store = api.store := by
  refine Remote.call_invariant (fun s : ObjectStore => s = api.store) rfl fun found store hOp => ?_
  cases hOp
  rfl

theorem create_keeps (identity : ServiceIdentity) {name : String} {o : ServiceIdentity}
    (h : api.store.objects.lookup name = some o) :
    (api.create outcomes identity).2.store.objects.lookup name = some o := by
  have hChecked := store_getOpt outcomes api (Service.serviceId identity)
  unfold create
  generalize api.call outcomes .transport (ObjectStore.getOpt (Service.serviceId identity)) = checked at hChecked
  obtain ⟨result, checked⟩ := checked
  rw [← hChecked] at h
  cases result with
  | error e => exact h
  | ok found =>
    cases found with
    | some stored => exact h
    | none =>
      refine Remote.call_invariant (fun s : ObjectStore => s.objects.lookup name = some o) h fun created store hOp => ?_
      obtain ⟨_, hFresh, _, rfl⟩ := ObjectStore.create_eq_ok.mp hOp
      rw [ObjectStore.objects_put, HashMap.lookup_insert_eq_ite, if_neg, h]
      rintro rfl
      exact hFresh (HashMap.mem_iff_exists_lookup.mpr ⟨o, h⟩)

theorem update_keeps (identity : ServiceIdentity) {name : String} (hName : name ≠ Service.serviceName identity)
    {o : ServiceIdentity} (h : api.store.objects.lookup name = some o) :
    (api.update outcomes identity).2.store.objects.lookup name = some o := by
  have hChecked := store_getOpt outcomes api (Service.serviceName identity)
  unfold update
  generalize api.call outcomes .transport (ObjectStore.getOpt (Service.serviceName identity)) = checked at hChecked
  obtain ⟨result, checked⟩ := checked
  rw [← hChecked] at h
  cases result with
  | error e => exact h
  | ok found =>
    cases found with
    | none => exact create_keeps identity h
    | some stored =>
      refine Remote.call_invariant (fun s : ObjectStore => s.objects.lookup name = some o)
        h fun replaced store hOp => ?_
      obtain ⟨_, _, hStored, _, rfl⟩ := ObjectStore.replace_eq_ok.mp hOp
      rw [ObjectStore.objects_put, HashMap.lookup_insert_eq_ite, if_neg, h]
      exact fun hEq => hName (hEq.trans hStored)

theorem delete_keeps (identity : ServiceIdentity) {name : String} (hName : name ≠ Service.serviceName identity)
    {o : ServiceIdentity} (h : api.store.objects.lookup name = some o) :
    (api.delete outcomes identity).2.store.objects.lookup name = some o := by
  unfold delete
  refine Remote.call_invariant (fun s : ObjectStore => s.objects.lookup name = some o) h fun deleted store hOp => ?_
  rw [(ObjectStore.delete_eq_ok hOp).2, HashMap.lookup_erase_eq_ite, if_neg hName, h]

/-- What an update returns carries what it was given. -/
theorem spec_of_update {identity updated : ServiceIdentity} (h : (api.update outcomes identity).1 = .ok updated) :
    updated.spec = identity.spec := by
  unfold update at h
  cases hChecked : api.call outcomes .transport (ObjectStore.getOpt (Service.serviceName identity)) with
  | mk result checked =>
    rw [hChecked] at h
    cases result with
    | error e => cases h
    | ok found =>
      cases found with
      | none => rw [(create_ok h).1]
      | some stored =>
        obtain ⟨_, hOp, _⟩ := Remote.call_ok h
        rw [(ObjectStore.replace_eq_ok.mp hOp).1]

theorem delete_delivered (hDelivered : ∀ n, outcomes n = .delivered) {identity : ServiceIdentity}
    (hMem : Service.serviceName identity ∈ api.store.objects) : (api.delete outcomes identity).1 = .ok () := by
  simp [delete, Remote.call, hDelivered, ObjectStore.delete, hMem]

end ServiceIdentityAPI

/-- The calls of `IdentityManagerServiceIdentityAPI` that are made for one identity. -/
inductive ApiCall where
  | create (identity : ServiceIdentity)
  | update (identity : ServiceIdentity)
  | delete (identity : ServiceIdentity)
deriving DecidableEq

namespace ApiCall

def identity : ApiCall → ServiceIdentity
  | .create identity | .update identity | .delete identity => identity

variable (outcomes : Nat → CallOutcome)

/-- The object that the call returns, if it returns one, and what it leaves. -/
def perform (api : ServiceIdentityAPI) : ApiCall → Option ServiceIdentity × ServiceIdentityAPI
  | .create identity => ((api.create outcomes identity).1.toOption, (api.create outcomes identity).2)
  | .update identity => ((api.update outcomes identity).1.toOption, (api.update outcomes identity).2)
  | .delete identity => (none, (api.delete outcomes identity).2)

/-- The objects that the calls return one after the other, and what they leave. -/
def performAll (api : ServiceIdentityAPI) : List ApiCall → List ServiceIdentity × ServiceIdentityAPI
  | [] => ([], api)
  | call :: rest =>
    let (returned, api) := call.perform outcomes api
    let (others, api) := performAll api rest
    (returned.toList ++ others, api)

variable {outcomes}

theorem perform_keeps (call : ApiCall) {api : ServiceIdentityAPI} {name : String}
    (hName : name ≠ Service.serviceName call.identity) {o : ServiceIdentity}
    (h : api.store.objects.lookup name = some o) :
    (call.perform outcomes api).2.store.objects.lookup name = some o := by
  cases call with
  | create identity => exact ServiceIdentityAPI.create_keeps identity h
  | update identity => exact ServiceIdentityAPI.update_keeps identity hName h
  | delete identity => exact ServiceIdentityAPI.delete_keeps identity hName h

theorem spec_of_perform (call : ApiCall) {api : ServiceIdentityAPI} {returned : ServiceIdentity}
    (h : (call.perform outcomes api).1 = some returned) : returned.spec = call.identity.spec := by
  cases call with
  | create identity =>
    have hResult : (api.create outcomes identity).1 = .ok returned := by
      cases hCreate : (api.create outcomes identity).1 <;> simp_all [perform, Except.toOption]
    rw [(ServiceIdentityAPI.create_ok hResult).1]
    rfl
  | update identity =>
    have hResult : (api.update outcomes identity).1 = .ok returned := by
      cases hUpdate : (api.update outcomes identity).1 <;> simp_all [perform, Except.toOption]
    exact ServiceIdentityAPI.spec_of_update hResult
  | delete identity => cases h

/-- The calls are made for the service with the given namespace and name. -/
def MadeFor (ns name : String) (calls : List ApiCall) : Prop :=
  ∀ call ∈ calls, Namespaced.ns call.identity = ns ∧ Named.name call.identity = name

variable (outcomes) in
theorem performAll_spec {ns name : String} {calls : List ApiCall} (hCalls : MadeFor ns name calls)
    (api : ServiceIdentityAPI) :
    (∀ key o, key ≠ formatServiceName ns name → api.store.objects.lookup key = some o →
      (performAll outcomes api calls).2.store.objects.lookup key = some o) ∧
    ∀ returned ∈ (performAll outcomes api calls).1,
      Namespaced.ns returned = ns ∧ Named.name returned = name := by
  induction calls generalizing api with
  | nil => exact ⟨fun _ _ _ h => h, by simp [performAll]⟩
  | cons call rest ih =>
    obtain ⟨hNs, hName⟩ := hCalls call List.mem_cons_self
    obtain ⟨hKeeps, hReturned⟩ := ih (fun c hc => hCalls c (List.mem_cons_of_mem call hc))
      (call.perform outcomes api).2
    have hKey : Service.serviceName call.identity = formatServiceName ns name := by
      rw [Service.serviceName, hNs, hName]
    constructor
    · intro key o hNe h
      exact hKeeps key o hNe (perform_keeps call (hKey ▸ hNe) h)
    · intro returned hMem
      rcases List.mem_append.mp hMem with hFirst | hRest
      · have hSpec := spec_of_perform call (Option.mem_toList.mp hFirst)
        constructor
        · exact (congrArg ServiceIdentitySpec.serviceNamespace hSpec).trans hNs
        · exact (congrArg ServiceIdentitySpec.serviceName hSpec).trans hName
      · exact hReturned returned hRest

/-- Whatever calls are made for the first service, and whichever of them fail, the object of the second
is not returned by any of them and is there afterwards as it was. -/
def Isolates (ns name ns' name' : String) : Prop :=
  ∀ (outcomes : Nat → CallOutcome) (api : ServiceIdentityAPI) (calls : List ApiCall) (object : ServiceIdentity),
    MadeFor ns name calls → Namespaced.ns object = ns' → Named.name object = name' →
    api.store.objects.lookup (Service.serviceName object) = some object →
      object ∉ (performAll outcomes api calls).1 ∧
      (performAll outcomes api calls).2.store.objects.lookup (Service.serviceName object) = some object

theorem isolates_of_ne {ns name ns' name' : String}
    (hNames : formatServiceName ns name ≠ formatServiceName ns' name') : Isolates ns name ns' name' := by
  intro outcomes api calls object hCalls hNs hName hObject
  obtain ⟨hKeeps, hReturned⟩ := performAll_spec outcomes hCalls api
  have hKey : Service.serviceName object = formatServiceName ns' name' := by
    rw [Service.serviceName, hNs, hName]
  refine ⟨fun hMem => hNames ?_, hKeeps _ object (hKey ▸ hNames.symm) hObject⟩
  obtain ⟨hNsReturned, hNameReturned⟩ := hReturned object hMem
  rw [← hNs, ← hName, hNsReturned, hNameReturned]

/-- Deleting the identity of the first service deletes the object of the second. -/
theorem not_isolates_of_eq {ns name ns' name' : String} (hNs : '_' ∉ ns'.toList) (hName : '_' ∉ name'.toList)
    (hNames : formatServiceName ns name = formatServiceName ns' name') : ¬Isolates ns name ns' name' := by
  intro hIsolates
  let user : ServiceUser := ⟨"user", "user", "password", "profile", none⟩
  let object : ServiceIdentity := identityFor (.new ns' name' none) user
  have hValid : '_' ∉ object.metadataName.toList := by
    change '_' ∉ (formatServiceName ns' name').toList
    simp [toList_formatServiceName, hNs, hName]
  let api : ServiceIdentityAPI := ⟨ObjectStore.empty.put object hValid, 0, []⟩
  have hStored : api.store.objects.lookup (formatServiceName ns' name') = some object := AList.lookup_insert _
  let calls : List ApiCall := [.delete (identityFor (.new ns name none) user)]
  have hMadeFor : MadeFor ns name calls := by
    intro call hCall
    rw [List.mem_singleton.mp hCall]
    exact ⟨rfl, rfl⟩
  obtain ⟨_, hKept⟩ := hIsolates (fun _ => .delivered) api calls object hMadeFor rfl rfl hStored
  let identity : ServiceIdentity := identityFor (.new ns name none) user
  have hMem : Service.serviceName identity ∈ api.store.objects := by
    refine HashMap.mem_iff_exists_lookup.mpr ⟨object, ?_⟩
    exact (congrArg api.store.objects.lookup hNames).trans hStored
  have hResult : (api.delete (fun _ => .delivered) identity).1 = .ok () :=
    ServiceIdentityAPI.delete_delivered (fun _ => rfl) hMem
  have hDeleted := (ServiceIdentityAPI.delete_ok hResult).2.2
  have hGone : (api.delete (fun _ => .delivered) identity).2.store.objects.lookup (formatServiceName ns' name') =
      none := by
    rw [hDeleted, HashMap.lookup_erase_eq_ite]
    exact if_pos hNames.symm
  cases hGone.symm.trans hKept

/-- The second namespace begins with the first and the first name ends with the second, around the same text. -/
def Overlaps (ns name ns' name' : String) : Prop :=
  ∃ mid, ns' = formatServiceName ns mid ∧ name = formatServiceName mid name'

/-- A service whose namespace and name are labels is kept apart from every other one, unless a hyphen of one of
the two falls where the other has its own. -/
theorem isolates_iff {ns name ns' name' : String} (hNs' : isDnsLabel ns' = true) (hName' : isDnsLabel name' = true)
    (hIds : formatServiceId ns name ≠ formatServiceId ns' name') :
    Isolates ns name ns' name' ↔ ¬Overlaps ns name ns' name' ∧ ¬Overlaps ns' name' ns name := by
  have hNames : formatServiceName ns name = formatServiceName ns' name' ↔
      Overlaps ns name ns' name' ∨ Overlaps ns' name' ns name := by
    rw [formatServiceName_eq_iff, Overlaps, Overlaps, or_iff_right]
    rintro ⟨rfl, rfl⟩
    exact hIds rfl
  rw [← not_or, ← hNames]
  constructor
  · intro hIsolates hEq
    exact not_isolates_of_eq (underscore_notMem_of_isDnsLabel hNs') (underscore_notMem_of_isDnsLabel hName') hEq
      hIsolates
  · exact isolates_of_ne

theorem not_overlaps_of_ne {ns name ns' name' : String}
    (hNames : formatServiceName ns name ≠ formatServiceName ns' name') : ¬Overlaps ns name ns' name' :=
  fun h => hNames (formatServiceName_eq_iff.mpr (.inr (.inl h)))

theorem isolates_sample : Isolates "shop" "web" "shop" "web-api" :=
  (isolates_iff (by decide) (by decide) (by decide)).mpr
    ⟨not_overlaps_of_ne (by decide), not_overlaps_of_ne (by decide)⟩

/-- Service `a-b` of namespace `team` and service `b` of namespace `team-a` have one object between them. -/
theorem hyphens_collide :
    (isDnsLabel "team" && isDnsLabel "a-b" && isDnsLabel "team-a" && isDnsLabel "b") = true ∧
      formatServiceId "team" "a-b" ≠ formatServiceId "team-a" "b" ∧ ¬Isolates "team" "a-b" "team-a" "b" :=
  ⟨by decide, by decide, not_isolates_of_eq (by decide) (by decide) (by decide)⟩

end ApiCall

end SdpK8sInjector.IdentityService
