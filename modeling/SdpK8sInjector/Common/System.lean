import SdpK8sInjector.Common.Service
import SdpK8sInjector.Lib.Remote

/-! # The SDP system: service users and on-boarded devices

The controller is remote. Its users never carry a password, whatever was posted,
and it remembers which users it has deleted.
-/

namespace SdpK8sInjector.Common

open Lib

inductive SDPClientError where
  | request
  | notFound
  | conflict
deriving DecidableEq, Repr

structure OnBoardedUser where
  distinguishedName : String
  deviceId : String
  username : String
  /-- In seconds from the epoch. -/
  lastSeenAt : Int
deriving DecidableEq, Repr

structure Controller where
  users : List SDPUser
  devices : List OnBoardedUser
  deletedUsers : List String
deriving DecidableEq

namespace Controller

def getUsers (s : Controller) : Except SDPClientError (List SDPUser × Controller) :=
  .ok (s.users.map fun u => { u with password := none }, s)

def getUser (id : String) (s : Controller) : Except SDPClientError (SDPUser × Controller) :=
  match s.users.find? fun u => u.id == id with
  | some u => .ok ({ u with password := none }, s)
  | none => .error .notFound

def createUser (u : SDPUser) (s : Controller) : Except SDPClientError (SDPUser × Controller) :=
  if s.users.any fun v => v.id == u.id then .error .conflict
  else .ok ({ u with password := none }, { s with users := s.users ++ [u] })

def modifyUser (u : SDPUser) (s : Controller) : Except SDPClientError (SDPUser × Controller) :=
  if s.users.any fun v => v.id == u.id then
    .ok ({ u with password := none },
      { s with users := s.users.map fun v => if v.id == u.id then u else v })
  else .error .notFound

def deleteUser (id : String) (s : Controller) : Except SDPClientError (Unit × Controller) :=
  if s.users.any fun v => v.id == id then
    .ok ((), { s with
      users := s.users.filter fun v => v.id != id
      deletedUsers := s.deletedUsers ++ [id] })
  else .error .notFound

/-- `matchesUsername` is how the controller compares the name asked for with that of a device. -/
def getRegisteredDeviceIds (matchesUsername : String → String → Bool) (username : String) (s : Controller) :
    Except SDPClientError (List OnBoardedUser × Controller) :=
  .ok (s.devices.filter fun d => matchesUsername username d.username, s)

def deleteDevice (distinguishedName : String) (s : Controller) : Except SDPClientError (Unit × Controller) :=
  if s.devices.any fun d => d.distinguishedName == distinguishedName then
    .ok ((), { s with devices := s.devices.filter fun d => d.distinguishedName != distinguishedName })
  else .error .notFound

end Controller

abbrev System := Remote Controller SDPClientError

namespace System

variable (outcomes : Nat → CallOutcome) (matchesUsername : String → String → Bool)

def getUsers (system : System) : Except SDPClientError (List SDPUser) × System :=
  system.call outcomes .request Controller.getUsers

def getUser (system : System) (serviceUserId : String) : Except SDPClientError SDPUser × System :=
  system.call outcomes .request (Controller.getUser serviceUserId)

/-- The password of the created user is the one that was posted. -/
def createUser (system : System) (sdpUser : SDPUser) : Except SDPClientError SDPUser × System :=
  match system.call outcomes .request (Controller.createUser sdpUser) with
  | (.ok created, system) => (.ok { created with password := sdpUser.password }, system)
  | (.error e, system) => (.error e, system)

def modifyUser (system : System) (serviceUser : SDPUser) : Except SDPClientError SDPUser × System :=
  system.call outcomes .request (Controller.modifyUser serviceUser)

def deleteUser (system : System) (serviceUserId : String) : Except SDPClientError Unit × System :=
  system.call outcomes .request (Controller.deleteUser serviceUserId)

def getRegisteredDeviceIds (system : System) (username : String) :
    Except SDPClientError (List OnBoardedUser) × System :=
  system.call outcomes .request (Controller.getRegisteredDeviceIds matchesUsername username)

def getRegisteredDeviceIdsForUser (system : System) (sdpUser : SDPUser) :
    Except SDPClientError (List OnBoardedUser) × System :=
  system.getRegisteredDeviceIds outcomes matchesUsername sdpUser.name

def unregisterDeviceId (system : System) (distinguishedName : String) (dryRun : Bool) :
    Except SDPClientError Unit × System :=
  if !dryRun then system.call outcomes .request (Controller.deleteDevice distinguishedName)
  else (.ok (), system)

def unregisterDeviceIdForUser (system : System) (sdpUser : SDPUser) (deviceId : Uuid) (dryRun : Bool) :
    Except SDPClientError Unit × System :=
  system.unregisterDeviceId outcomes
    ("CN=" ++ String.ofList (deviceId.toString.toList.filter (· != '-')) ++ ",CN=" ++ sdpUser.name ++ ",OU=service")
    dryRun

/-- `as_secs() as i64`, which is negative from half of the range on. -/
def secondsAsI64 (since : UInt64) : Int := since.toInt64.toInt

def filterOnBoardedUser (filterOutNames filterInNames : Option (HashSet String)) (since : Option UInt64)
    (onBoardedUser : OnBoardedUser) : Bool :=
  since.all (fun t => onBoardedUser.lastSeenAt ≤ secondsAsI64 t) &&
    filterInNames.all (fun names => onBoardedUser.username ∈ names) &&
    filterOutNames.all (fun names => onBoardedUser.username ∉ names)

/-- The devices are released one by one, up to the first failure. -/
def unregisterAll (dryRun : Bool) : List OnBoardedUser → System → Except SDPClientError Unit × System
  | [], system => (.ok (), system)
  | device :: rest, system =>
    match system.unregisterDeviceId outcomes device.distinguishedName dryRun with
    | (.ok (), system) => unregisterAll dryRun rest system
    | (.error e, system) => (.error e, system)

def unregisterDeviceIdsForUsername (system : System) (username : String)
    (filterOutNames filterInNames : Option (HashSet String)) (since : Option UInt64) (dryRun : Bool) :
    Except SDPClientError Unit × System :=
  match system.getRegisteredDeviceIds outcomes matchesUsername username with
  | (.ok devices, system) =>
    unregisterAll outcomes dryRun (devices.filter (filterOnBoardedUser filterOutNames filterInNames since)) system
  | (.error e, system) => (.error e, system)

/-- No user comes, goes or changes. -/
structure SameUsers (s s' : System) : Prop where
  users : s'.store.users = s.store.users
  deletedUsers : s'.store.deletedUsers = s.store.deletedUsers

namespace SameUsers

variable {s s' s'' : System}

theorem refl (s : System) : SameUsers s s := ⟨rfl, rfl⟩

theorem trans (h : SameUsers s s') (h' : SameUsers s' s'') : SameUsers s s'' :=
  ⟨h'.users.trans h.users, h'.deletedUsers.trans h.deletedUsers⟩

theorem call {α : Type} {op : Controller → Except SDPClientError (α × Controller)} (s : System)
    (hOp : ∀ a store, op s.store = .ok (a, store) →
      store.users = s.store.users ∧ store.deletedUsers = s.store.deletedUsers) :
    SameUsers s (s.call outcomes .request op).2 := by
  rcases Remote.call_store with hSame | ⟨a, hStore⟩
  · exact ⟨congrArg Controller.users hSame, congrArg Controller.deletedUsers hSame⟩
  · obtain ⟨hUsers, hDeleted⟩ := hOp a _ hStore
    exact ⟨hUsers, hDeleted⟩

end SameUsers

theorem getUser_sameUsers (system : System) (id : String) : SameUsers system (system.getUser outcomes id).2 := by
  apply SameUsers.call
  intro a store h
  unfold Controller.getUser at h
  split at h <;> cases h
  exact ⟨rfl, rfl⟩

theorem getRegisteredDeviceIds_sameUsers (system : System) (username : String) :
    SameUsers system (system.getRegisteredDeviceIds outcomes matchesUsername username).2 := by
  apply SameUsers.call
  intro a store h
  cases h
  exact ⟨rfl, rfl⟩

theorem unregisterDeviceId_sameUsers (system : System) (distinguishedName : String) (dryRun : Bool) :
    SameUsers system (system.unregisterDeviceId outcomes distinguishedName dryRun).2 := by
  unfold unregisterDeviceId
  split
  · apply SameUsers.call
    intro a store h
    unfold Controller.deleteDevice at h
    split at h <;> cases h
    exact ⟨rfl, rfl⟩
  · exact SameUsers.refl system

theorem unregisterAll_sameUsers (dryRun : Bool) (devices : List OnBoardedUser) (system : System) :
    SameUsers system (unregisterAll outcomes dryRun devices system).2 := by
  induction devices generalizing system with
  | nil => exact SameUsers.refl system
  | cons device rest ih =>
    have hOne := unregisterDeviceId_sameUsers outcomes system device.distinguishedName dryRun
    unfold unregisterAll
    split
    · rename_i system' hCall
      rw [hCall] at hOne
      exact hOne.trans (ih system')
    · rename_i e system' hCall
      rw [hCall] at hOne
      exact hOne

theorem unregisterDeviceIdsForUsername_sameUsers (system : System) (username : String)
    (filterOut filterIn : Option (HashSet String)) (since : Option UInt64) (dryRun : Bool) :
    SameUsers system (system.unregisterDeviceIdsForUsername outcomes matchesUsername username filterOut filterIn
      since dryRun).2 := by
  have hQuery := getRegisteredDeviceIds_sameUsers outcomes matchesUsername system username
  unfold unregisterDeviceIdsForUsername
  split
  · rename_i devices system' hCall
    rw [hCall] at hQuery
    exact hQuery.trans (unregisterAll_sameUsers outcomes dryRun _ system')
  · rename_i e system' hCall
    rw [hCall] at hQuery
    exact hQuery

/-- A created user is what was posted, password included. -/
theorem createUser_spec (system : System) (sdpUser : SDPUser) :
    (system.createUser outcomes sdpUser).2.store.deletedUsers = system.store.deletedUsers ∧
      ∀ created, (system.createUser outcomes sdpUser).1 = .ok created → created = sdpUser := by
  have hOp : ∀ created store, Controller.createUser sdpUser system.store = .ok (created, store) →
      created = { sdpUser with password := none } ∧ store.deletedUsers = system.store.deletedUsers := by
    intro created store h
    unfold Controller.createUser at h
    split at h <;> cases h
    exact ⟨rfl, rfl⟩
  have hDeleted : (system.call outcomes .request (Controller.createUser sdpUser)).2.store.deletedUsers =
      system.store.deletedUsers := by
    rcases Remote.call_store with hSame | ⟨created, hStore⟩
    · rw [hSame]
    · exact (hOp created _ hStore).2
  unfold createUser
  cases hCall : system.call outcomes .request (Controller.createUser sdpUser) with
  | mk result system' =>
    rw [hCall] at hDeleted
    cases result with
    | error e => exact ⟨hDeleted, fun created h => by cases h⟩
    | ok created =>
      refine ⟨hDeleted, fun created' h => ?_⟩
      obtain ⟨store, hStore, -⟩ := Remote.call_ok (congrArg Prod.fst hCall)
      cases h
      rw [(hOp created store hStore).1]

/-- A deletion that fails may still have reached the controller. -/
theorem deleteUser_spec (system : System) (id : String) :
    ∃ gone, gone.Sublist [id] ∧
      (system.deleteUser outcomes id).2.store.deletedUsers = system.store.deletedUsers ++ gone ∧
      (∀ u ∈ system.store.users, u ∈ (system.deleteUser outcomes id).2.store.users ∨ u.id ∈ gone) ∧
      ((∀ n, outcomes n = .delivered) → (∃ u ∈ system.store.users, u.id = id) → gone = [id]) := by
  have hOp : ∀ a store, Controller.deleteUser id system.store = .ok (a, store) →
      store.deletedUsers = system.store.deletedUsers ++ [id] ∧
        ∀ u ∈ system.store.users, u ∈ store.users ∨ u.id ∈ [id] := by
    intro a store h
    unfold Controller.deleteUser at h
    split at h <;> cases h
    refine ⟨rfl, fun u hu => ?_⟩
    by_cases hId : u.id = id
    · exact .inr (List.mem_singleton.mpr hId)
    · exact .inl (List.mem_filter.mpr ⟨hu, by simp [hId]⟩)
  unfold deleteUser
  by_cases hDone : (system.call outcomes .request (Controller.deleteUser id)).2.store = system.store
  · refine ⟨[], List.nil_sublist _, by rw [hDone, List.append_nil], fun u hu => .inl (hDone ▸ hu), ?_⟩
    rintro hDelivered ⟨u, hu, hId⟩
    have hFound : Controller.deleteUser id system.store = .ok ((), { system.store with
        users := system.store.users.filter fun v => v.id != id
        deletedUsers := system.store.deletedUsers ++ [id] }) :=
      if_pos (List.any_eq_true.mpr ⟨u, hu, by simp [hId]⟩)
    rw [Remote.call_delivered (hDelivered _) hFound] at hDone
    simpa using congrArg Controller.deletedUsers hDone
  · obtain ⟨a, hStore⟩ := Remote.call_store.resolve_left hDone
    obtain ⟨hDeleted, hOthers⟩ := hOp a _ hStore
    exact ⟨[id], List.Sublist.refl _, hDeleted, hOthers, fun _ _ => rfl⟩

end System

/-- The name without its random part: `cluster_ns_service_random` or the older `cluster_ns_service`. -/
def SDPUser.prefixName (sdpUser : SDPUser) : String :=
  let parts := (sdpUser.name.toList.splitOn '_').map String.ofList
  "_".intercalate (if parts.length = 4 ∨ parts.length = 3 then parts.take 3 else parts)

end SdpK8sInjector.Common
