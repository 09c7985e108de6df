import SdpK8sInjector.Common.Service

/-! # The device ids that the injector hands out

For each service the injector remembers the identity that it saw first, with the
device ids of all that it saw since, and has a pool of device ids that are free.
-/

namespace SdpK8sInjector.Injector

open Lib Common

inductive ReleasedDeviceId where
  | fromPool (uuid : Uuid)
  | fresh (uuid : Uuid)
deriving DecidableEq

/-- The first id is the next one handed out. Every id is in the queue once. -/
structure RegisteredDeviceId where
  ids : List Uuid
  nodup : ids.Nodup
deriving DecidableEq

namespace RegisteredDeviceId

def empty : RegisteredDeviceId := ⟨[], List.nodup_nil⟩

def push (uuid : Uuid) (r : RegisteredDeviceId) : Option Uuid × RegisteredDeviceId :=
  if h : uuid ∉ r.ids then (some uuid, ⟨uuid :: r.ids, List.nodup_cons.mpr ⟨h, r.nodup⟩⟩) else (none, r)

/-- `newV4` is what `Uuid::new_v4` returns where the pool is empty. -/
def pop (newV4 : Uuid) (r : RegisteredDeviceId) : ReleasedDeviceId × RegisteredDeviceId :=
  match h : r.ids with
  | uuid :: rest => (.fromPool uuid, ⟨rest, (List.nodup_cons.mp (h ▸ r.nodup)).2⟩)
  | [] => (.fresh newV4, r)

theorem mem_push {uuid d : Uuid} {r : RegisteredDeviceId} : d ∈ (r.push uuid).2.ids ↔ d = uuid ∨ d ∈ r.ids := by
  unfold push
  split
  · exact List.mem_cons
  · rename_i h
    constructor
    · exact .inr
    · rintro (rfl | hMem)
      · exact not_not.mp h
      · exact hMem

theorem pop_cases (newV4 : Uuid) (r : RegisteredDeviceId) :
    (r.ids = [] ∧ r.pop newV4 = (.fresh newV4, r)) ∨
      ∃ uuid rest, r.ids = uuid :: rest ∧ (r.pop newV4).1 = .fromPool uuid ∧ (r.pop newV4).2.ids = rest := by
  unfold pop
  split
  · rename_i uuid rest h
    exact .inr ⟨uuid, rest, h, rfl, rfl⟩
  · exact .inl ⟨‹_›, rfl⟩

end RegisteredDeviceId

structure InMemoryIdentityStore where
  identities : HashMap String ServiceIdentity
  registeredDeviceIds : HashMap String RegisteredDeviceId
deriving DecidableEq

/-- Ids that are used are not taken over. -/
def mergeDeviceIds (deviceIdsDest : Option (List String)) (deviceIdsSrc usedDeviceIds : List String) :
    Option (List String) :=
  deviceIdsSrc.foldl (fun dest deviceId =>
    match dest with
    | some ids => if deviceId ∉ ids ∧ deviceId ∉ usedDeviceIds then some (ids ++ [deviceId]) else some ids
    | none => none) deviceIdsDest

/-- The ids of an identity that were not known before go to the pool. `parseStr` is `Uuid::parse_str`. -/
def releaseNew (parseStr : String → Option Uuid) (current deviceIds : List String) (r : RegisteredDeviceId) :
    RegisteredDeviceId :=
  deviceIds.foldl (fun r deviceId =>
    if deviceId ∉ current then
      match parseStr deviceId with
      | some uuid => (r.push uuid).2
      | none => r
    else r) r

namespace InMemoryIdentityStore

def new : InMemoryIdentityStore := ⟨∅, ∅⟩

def registerOrUpdate (parseStr : String → Option Uuid) (service : ServiceIdentity)
    (usedDeviceIds : Option (List String)) (store : InMemoryIdentityStore) : ServiceIdentity × InMemoryIdentityStore :=
  let serviceId := Service.serviceId service
  let beforeRegisteredService := store.identities.lookup serviceId
  let currentDeviceIds := (beforeRegisteredService.bind fun s => s.spec.serviceUser.deviceIds).getD []
  let registered := beforeRegisteredService.getD service
  let afterRegisteredService := registered.withUser { registered.spec.serviceUser with
    deviceIds := mergeDeviceIds registered.spec.serviceUser.deviceIds (deviceIdList service.credentials)
      (usedDeviceIds.getD []) }
  let registeredDeviceId := (store.registeredDeviceIds.lookup serviceId).getD .empty
  (afterRegisteredService,
    { identities := AList.insert serviceId afterRegisteredService store.identities
      registeredDeviceIds := AList.insert serviceId
        (releaseNew parseStr currentDeviceIds (deviceIdList service.credentials) registeredDeviceId)
        store.registeredDeviceIds })

def unregisterService (serviceId : String) (store : InMemoryIdentityStore) :
    Option (ServiceIdentity × RegisteredDeviceId) × InMemoryIdentityStore :=
  ((store.identities.lookup serviceId).bind fun sid =>
      (store.registeredDeviceIds.lookup serviceId).map fun did => (sid, did),
    ⟨store.identities.erase serviceId, store.registeredDeviceIds.erase serviceId⟩)

def popDeviceId (newV4 : Uuid) (serviceId : String) (store : InMemoryIdentityStore) :
    Except SDPServiceError (ServiceIdentity × Uuid) × InMemoryIdentityStore :=
  match store.identities.lookup serviceId, store.registeredDeviceIds.lookup serviceId with
  | some sid, some registeredDeviceId =>
    let (released, registeredDeviceId) := registeredDeviceId.pop newV4
    let store := { store with
      registeredDeviceIds := AList.insert serviceId registeredDeviceId store.registeredDeviceIds }
    match released with
    | .fresh uuid => (.ok (sid, uuid), store)
    | .fromPool uuid => (.ok (sid, uuid), store)
  | _, _ => (.error ("ServiceIdentity is missing for service " ++ serviceId), store)

/-- The ids that are free for the service. -/
def pool (store : InMemoryIdentityStore) (serviceId : String) : List Uuid :=
  ((store.registeredDeviceIds.lookup serviceId).getD .empty).ids

/-- The ids that were seen in an identity of the service. -/
def remembered (store : InMemoryIdentityStore) (serviceId : String) : List String :=
  ((store.identities.lookup serviceId).map fun s => deviceIdList s.credentials).getD []

theorem nodup_pool (store : InMemoryIdentityStore) (serviceId : String) : (store.pool serviceId).Nodup :=
  RegisteredDeviceId.nodup _

@[simp] theorem pool_new (serviceId : String) : new.pool serviceId = [] := rfl

@[simp] theorem remembered_new (serviceId : String) : new.remembered serviceId = [] := rfl

end InMemoryIdentityStore

theorem mem_releaseNew {parseStr : String → Option Uuid} {current deviceIds : List String} {r : RegisteredDeviceId}
    {d : Uuid} : d ∈ (releaseNew parseStr current deviceIds r).ids ↔
      d ∈ r.ids ∨ ∃ deviceId ∈ deviceIds, deviceId ∉ current ∧ parseStr deviceId = some d := by
  induction deviceIds generalizing r with
  | nil => simp [releaseNew]
  | cons deviceId rest ih =>
    simp only [releaseNew, List.foldl_cons] at ih ⊢
    rw [ih]
    by_cases hKnown : deviceId ∈ current
    · simp [hKnown]
    · cases hParse : parseStr deviceId with
      | none => simp [hKnown, hParse]
      | some uuid => simp [hKnown, hParse, RegisteredDeviceId.mem_push, or_assoc, or_left_comm, eq_comm]

/-- The list keeps what it has and takes over what is neither there nor used. -/
theorem mem_mergeDeviceIds {ids src used : List String} {x : String} :
    x ∈ (mergeDeviceIds (some ids) src used).getD [] ↔ x ∈ ids ∨ x ∈ src ∧ x ∉ used := by
  induction src generalizing ids with
  | nil => simp [mergeDeviceIds]
  | cons deviceId rest ih =>
    simp only [mergeDeviceIds, List.foldl_cons] at ih ⊢
    split
    · rename_i hNew
      rw [ih]
      grind
    · rename_i hOld
      rw [ih]
      grind

theorem isSome_mergeDeviceIds (dest : Option (List String)) (src used : List String) :
    (mergeDeviceIds dest src used).isSome = dest.isSome := by
  induction src generalizing dest with
  | nil => rfl
  | cons deviceId rest ih =>
    rw [mergeDeviceIds, List.foldl_cons]
    refine (ih _).trans ?_
    cases dest with
    | none => rfl
    | some ids =>
      dsimp only
      split <;> rfl

namespace InMemoryIdentityStore

variable {store : InMemoryIdentityStore} {parseStr : String → Option Uuid}

theorem pool_registerOrUpdate (service : ServiceIdentity) (used : Option (List String)) (serviceId : String) :
    (store.registerOrUpdate parseStr service used).2.pool serviceId =
      if serviceId = Service.serviceId service then
        (releaseNew parseStr (store.remembered serviceId) (deviceIdList service.credentials)
          ((store.registeredDeviceIds.lookup serviceId).getD .empty)).ids
      else store.pool serviceId := by
  simp only [pool, registerOrUpdate, HashMap.lookup_insert_eq_ite]
  split
  · rename_i hKey
    subst hKey
    cases hFound : store.identities.lookup (Service.serviceId service) <;>
      simp [remembered, hFound, deviceIdList, ServiceIdentity.credentials]
  · rfl

/-- A token of the pool was there before, or it is new in the identity. -/
theorem mem_pool_registerOrUpdate {service : ServiceIdentity} {used : Option (List String)}
    {serviceId : String} {d : Uuid} :
    d ∈ (store.registerOrUpdate parseStr service used).2.pool serviceId ↔
      d ∈ store.pool serviceId ∨ serviceId = Service.serviceId service ∧
        ∃ deviceId ∈ deviceIdList service.credentials, deviceId ∉ store.remembered serviceId ∧
          parseStr deviceId = some d := by
  rw [pool_registerOrUpdate]
  split
  · rename_i hKey
    simp [mem_releaseNew, pool, hKey]
  · rename_i hKey
    simp [hKey]

/-- The identity that is remembered for the service has a list of device ids. -/
def KeepsList (store : InMemoryIdentityStore) (serviceId : String) : Prop :=
  ∀ i, store.identities.lookup serviceId = some i → i.credentials.deviceIds.isSome = true

theorem lookup_registerOrUpdate (service : ServiceIdentity) (used : Option (List String)) (serviceId : String) :
    (store.registerOrUpdate parseStr service used).2.identities.lookup serviceId =
      if serviceId = Service.serviceId service then some (store.registerOrUpdate parseStr service used).1
      else store.identities.lookup serviceId := by
  rw [registerOrUpdate, HashMap.lookup_insert_eq_ite]

theorem remembered_registerOrUpdate_of_ne {service : ServiceIdentity} {serviceId : String} (used : Option (List String))
    (hKey : serviceId ≠ Service.serviceId service) :
    (store.registerOrUpdate parseStr service used).2.remembered serviceId = store.remembered serviceId := by
  rw [remembered, lookup_registerOrUpdate, if_neg hKey, remembered]

/-- The ids of the identity are remembered from now on, those that are used only with the first identity. -/
theorem mem_remembered_registerOrUpdate {service : ServiceIdentity} {used : Option (List String)} {x : String}
    (h : store.KeepsList (Service.serviceId service)) :
    x ∈ (store.registerOrUpdate parseStr service used).2.remembered (Service.serviceId service) ↔
      x ∈ store.remembered (Service.serviceId service) ∨ x ∈ deviceIdList service.credentials ∧
        (store.identities.lookup (Service.serviceId service) = none ∨ x ∉ used.getD []) := by
  rw [remembered, lookup_registerOrUpdate, if_pos rfl]
  cases hFound : store.identities.lookup (Service.serviceId service) with
  | none =>
    cases hList : service.spec.serviceUser.deviceIds with
    | none =>
      have hNone : mergeDeviceIds none [] (used.getD []) = none := rfl
      simp [registerOrUpdate, remembered, hFound, deviceIdList, ServiceIdentity.credentials,
        ServiceIdentity.withUser, hList,
        hNone]
    | some ids =>
      have hMerged : x ∈ (mergeDeviceIds (some ids) ids (used.getD [])).getD [] ↔
          x ∈ ids ∨ x ∈ ids ∧ x ∉ used.getD [] :=
        mem_mergeDeviceIds
      simp only [registerOrUpdate, hFound, Option.getD_none, Option.map_some, Option.getD_some, deviceIdList,
        ServiceIdentity.credentials, ServiceIdentity.withUser, hList, remembered, hMerged, true_or, and_true]
      exact ⟨fun hx => .inr (hx.elim id And.left), fun hx => .inl (hx.elim (fun h => absurd h (by simp)) id)⟩
  | some i =>
    obtain ⟨ids, hList⟩ := Option.isSome_iff_exists.mp (h i hFound)
    have hIds : i.spec.serviceUser.deviceIds = some ids := hList
    simp [registerOrUpdate, remembered, hFound, deviceIdList, ServiceIdentity.credentials,
      ServiceIdentity.withUser, hIds,
      mem_mergeDeviceIds]

/-- What is remembered stays so until the service is unregistered. -/
theorem remembered_registerOrUpdate_mono (service : ServiceIdentity) (used : Option (List String))
    {serviceId x : String}
    (hx : x ∈ store.remembered serviceId) :
    x ∈ (store.registerOrUpdate parseStr service used).2.remembered serviceId := by
  by_cases hKey : serviceId = Service.serviceId service
  · subst hKey
    cases hFound : store.identities.lookup (Service.serviceId service) with
    | none => simp [remembered, hFound] at hx
    | some i =>
      have hKeeps : store.KeepsList (Service.serviceId service) := by
        intro j hj
        cases hFound.symm.trans hj
        cases hList : i.credentials.deviceIds with
        | none => simp [remembered, hFound, deviceIdList, hList] at hx
        | some ids => rfl
      exact (mem_remembered_registerOrUpdate hKeeps).mpr (.inl hx)
  · rwa [remembered_registerOrUpdate_of_ne used hKey]

theorem remembered_registerOrUpdate_subset {service : ServiceIdentity} {used : Option (List String)} {x : String}
    (hx : x ∈ (store.registerOrUpdate parseStr service used).2.remembered (Service.serviceId service)) :
    x ∈ store.remembered (Service.serviceId service) ∨ x ∈ deviceIdList service.credentials := by
  by_cases hKeeps : store.KeepsList (Service.serviceId service)
  · exact ((mem_remembered_registerOrUpdate hKeeps).mp hx).imp_right And.left
  · -- a list that is missing is never made up
    simp only [KeepsList, not_forall] at hKeeps
    obtain ⟨i, hFound, hNone⟩ := hKeeps
    have hList : i.spec.serviceUser.deviceIds = none := Option.not_isSome_iff_eq_none.mp hNone
    rw [remembered, lookup_registerOrUpdate, if_pos rfl, registerOrUpdate, hFound] at hx
    have hMissing : mergeDeviceIds none (deviceIdList service.credentials) (used.getD []) = none := by
      rw [← Option.not_isSome_iff_eq_none, isSome_mergeDeviceIds]
      exact Bool.false_ne_true
    have hMerged : x ∈ (mergeDeviceIds i.spec.serviceUser.deviceIds (deviceIdList service.credentials)
        (used.getD [])).getD [] := hx
    rw [hList, hMissing] at hMerged
    cases hMerged

theorem KeepsList.registerOrUpdate {serviceId : String} (h : store.KeepsList serviceId) {service : ServiceIdentity}
    (used : Option (List String)) (hList : service.credentials.deviceIds.isSome = true) :
    (store.registerOrUpdate parseStr service used).2.KeepsList serviceId := by
  intro i hi
  rw [lookup_registerOrUpdate] at hi
  split at hi
  · rename_i hKey
    subst hKey
    cases hi
    rw [InMemoryIdentityStore.registerOrUpdate, ServiceIdentity.credentials_withUser, isSome_mergeDeviceIds]
    cases hFound : store.identities.lookup (Service.serviceId service) with
    | none => exact hList
    | some j => exact h j hFound
  · exact h i hi

/-- The id that is handed out leaves the pool, or it is fresh and the pool is empty. -/
theorem popDeviceId_ok {newV4 : Uuid} {serviceId : String} {identity : ServiceIdentity} {d : Uuid}
    (h : (store.popDeviceId newV4 serviceId).1 = .ok (identity, d)) :
    (store.popDeviceId newV4 serviceId).2.identities = store.identities ∧
      (∀ key, key ≠ serviceId → (store.popDeviceId newV4 serviceId).2.pool key = store.pool key) ∧
      ((d = newV4 ∧ store.pool serviceId = [] ∧ (store.popDeviceId newV4 serviceId).2.pool serviceId = []) ∨
        store.pool serviceId = d :: (store.popDeviceId newV4 serviceId).2.pool serviceId) := by
  unfold popDeviceId at h ⊢
  split at h
  · rename_i sid r hSid hIds
    have hOther : ∀ r' : RegisteredDeviceId, ∀ key, key ≠ serviceId →
        (InMemoryIdentityStore.mk store.identities (AList.insert serviceId r' store.registeredDeviceIds)).pool key =
          store.pool key := by
      intro r' key hKey
      simp only [pool, HashMap.lookup_insert_eq_ite, if_neg hKey]
    have hHere : ∀ r' : RegisteredDeviceId,
        (InMemoryIdentityStore.mk store.identities (AList.insert serviceId r' store.registeredDeviceIds)).pool
        serviceId = r'.ids := by
      intro r'
      simp only [pool, AList.lookup_insert, Option.getD_some]
    have hBefore : store.pool serviceId = r.ids := by simp only [pool, hIds, Option.getD_some]
    rcases RegisteredDeviceId.pop_cases newV4 r with ⟨hEmpty, hPop⟩ | ⟨uuid, rest, hIds', hReleased, hRest⟩
    · rw [hPop] at h ⊢
      cases h
      exact ⟨rfl, hOther _, .inl ⟨rfl, hBefore.trans hEmpty, (hHere _).trans hEmpty⟩⟩
    · cases hPop : r.pop newV4 with
      | mk released r' =>
        rw [hPop] at hReleased hRest
        dsimp only at hReleased hRest
        subst hReleased
        rw [hPop] at h
        cases h
        exact ⟨rfl, hOther _, .inr (by rw [hBefore, hIds', ← hRest]; exact congrArg _ (hHere r').symm)⟩
  · cases h

theorem pool_unregisterService (serviceId key : String) :
    (store.unregisterService serviceId).2.pool key = if key = serviceId then [] else store.pool key := by
  simp only [pool, unregisterService, HashMap.lookup_erase_eq_ite]
  split <;> rfl

theorem remembered_unregisterService (serviceId key : String) :
    (store.unregisterService serviceId).2.remembered key = if key = serviceId then [] else store.remembered key := by
  simp only [remembered, unregisterService, HashMap.lookup_erase_eq_ite]
  split <;> rfl

end InMemoryIdentityStore

end SdpK8sInjector.Injector
