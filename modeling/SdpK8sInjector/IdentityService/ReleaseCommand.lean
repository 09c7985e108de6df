import SdpK8sInjector.Common.System

/-! # The command that releases the device ids of a user

It asks for the devices of the user and releases those that it selects one by one,
up to the first failure. The age that it is given is compared with the time at which
a device was last seen as if it was a time itself.
-/

namespace SdpK8sInjector.IdentityService

open Lib Common

variable (outcomes : Nat → CallOutcome) (matchesUsername : String → String → Bool)

structure DeviceIdsArgs where
  userName : String
  since : UInt64
  dryRun : Bool
  exactMatch : Bool

namespace DeviceIdsArgs

variable (args : DeviceIdsArgs)

def filterInNames : Option (HashSet String) := if args.exactMatch then some (AList.singleton args.userName ()) else none

/-- `release_device_ids` -/
def releaseDeviceIds (system : System) : Except SDPClientError Unit × System :=
  system.unregisterDeviceIdsForUsername outcomes matchesUsername args.userName none args.filterInNames (some args.since)
    args.dryRun

def rerun : Nat → System → List (Except SDPClientError Unit) × System
  | 0, system => ([], system)
  | n + 1, system =>
    let (result, system) := args.releaseDeviceIds outcomes matchesUsername system
    let (results, system) := rerun n system
    (result :: results, system)

def selects (d : OnBoardedUser) : Bool :=
  matchesUsername args.userName d.username && decide (d.lastSeenAt ≤ System.secondsAsI64 args.since) &&
    (!args.exactMatch || d.username == args.userName)

end DeviceIdsArgs

/-- The devices that are left when those are gone that have the name of one that was released. -/
def without (released devices : List OnBoardedUser) : List OnBoardedUser :=
  devices.filter fun d => d.distinguishedName ∉ released.map OnBoardedUser.distinguishedName

theorem without_nil (devices : List OnBoardedUser) : without [] devices = devices := by
  simp [without]

theorem without_without (a b devices : List OnBoardedUser) :
    without b (without a devices) = without (a ++ b) devices := by
  rw [without, without, without, List.filter_filter]
  refine List.filter_congr fun d _ => ?_
  rw [Bool.eq_iff_iff]
  simp [not_or, and_comm]

section Loop

theorem getRegisteredDeviceIds_store (userName : String) (system : System) :
    (system.getRegisteredDeviceIds outcomes matchesUsername userName).2.store = system.store := by
  rcases Remote.call_store with hSame | ⟨devices, hOp⟩
  · exact hSame
  · exact (congrArg Prod.snd (Except.ok.inj hOp)).symm

theorem devices_deleteDevice {name : String} {u : Unit} {store store' : Controller} {device : OnBoardedUser}
    (hName : device.distinguishedName = name) (h : Controller.deleteDevice name store = .ok (u, store')) :
    store'.devices = without [device] store.devices ∧ store'.users = store.users := by
  unfold Controller.deleteDevice at h
  split at h <;> cases h
  refine ⟨?_, rfl⟩
  simp only [without, List.map_cons, List.map_nil, List.mem_singleton, hName]
  exact List.filter_congr fun d _ => by simp [bne, beq_eq_decide]

/-- The first devices were released, and all of them if there was no failure. -/
theorem unregisterAll_prefix (devices : List OnBoardedUser) (system : System) :
    ∃ k, (System.unregisterAll outcomes false devices system).2.store.devices =
        without (devices.take k) system.store.devices ∧
      ((System.unregisterAll outcomes false devices system).1 = .ok () → devices.length ≤ k) := by
  induction devices generalizing system with
  | nil => exact ⟨0, (without_nil _).symm, fun _ => le_rfl⟩
  | cons device rest ih =>
    unfold System.unregisterAll System.unregisterDeviceId
    simp only [Bool.not_false, if_true]
    cases hCall : system.call outcomes .request (Controller.deleteDevice device.distinguishedName) with
    | mk result system' =>
      cases result with
      | ok u =>
        obtain ⟨store, hOp, hAfter⟩ := Remote.call_ok (congrArg Prod.fst hCall)
        have hDevices : system'.store.devices = without [device] system.store.devices := by
          rw [← show _ = system' from congrArg Prod.snd hCall, hAfter]
          exact (devices_deleteDevice rfl hOp).1
        obtain ⟨k, hRest, hOk⟩ := ih system'
        refine ⟨k + 1, ?_, fun h => Nat.succ_le_succ (hOk h)⟩
        dsimp only
        rw [hRest, hDevices, without_without]
        rfl
      | error e =>
        rcases (Remote.call_error (congrArg Prod.fst hCall)).2 with hSame | ⟨u, hOp⟩
        · refine ⟨0, ?_, fun h => by cases h⟩
          rw [hCall] at hSame
          dsimp only at hSame ⊢
          rw [hSame, List.take_zero, without_nil]
        · refine ⟨1, ?_, fun h => by cases h⟩
          rw [hCall] at hOp
          exact (devices_deleteDevice rfl hOp).1

end Loop

namespace DeviceIdsArgs

variable {matchesUsername} {args : DeviceIdsArgs} {system : System}

theorem filter_selects (devices : List OnBoardedUser) :
    (devices.filter fun d => matchesUsername args.userName d.username).filter
        (System.filterOnBoardedUser none args.filterInNames (some args.since)) =
        devices.filter (args.selects matchesUsername) := by
  rw [List.filter_filter]
  refine List.filter_congr fun d _ => ?_
  rw [Bool.eq_iff_iff]
  cases hExact : args.exactMatch <;>
    simp [System.filterOnBoardedUser, filterInNames, selects, hExact, AList.mem_keys, AList.keys_singleton, and_comm,
      and_left_comm]

variable (matchesUsername args) in
/-- Some of the devices that the command selects are released, and all of them if it reports no failure. -/
theorem releaseDeviceIds_effect (hWet : args.dryRun = false) (system : System) :
    ∃ released, released <+: system.store.devices.filter (args.selects matchesUsername) ∧
      (args.releaseDeviceIds outcomes matchesUsername system).2.store.devices =
      without released system.store.devices ∧
      ((args.releaseDeviceIds outcomes matchesUsername system).1 = .ok () →
        released = system.store.devices.filter (args.selects matchesUsername)) := by
  have hStore := getRegisteredDeviceIds_store outcomes matchesUsername args.userName system
  unfold releaseDeviceIds System.unregisterDeviceIdsForUsername
  cases hCall : system.getRegisteredDeviceIds outcomes matchesUsername args.userName with
  | mk result system' =>
    rw [hCall] at hStore
    dsimp only at hStore
    cases result with
    | error e =>
      refine ⟨[], List.nil_prefix, ?_, fun h => by cases h⟩
      rw [without_nil, ← hStore]
    | ok devices =>
      obtain ⟨store, hOp, -⟩ := Remote.call_ok (congrArg Prod.fst hCall)
      have hDevices : devices = system.store.devices.filter fun d => matchesUsername args.userName d.username :=
        (congrArg Prod.fst (Except.ok.inj hOp)).symm
      have hSelected : devices.filter (System.filterOnBoardedUser none args.filterInNames (some args.since)) =
          system.store.devices.filter (args.selects matchesUsername) := hDevices ▸ filter_selects _
      obtain ⟨k, hLeft, hOk⟩ := unregisterAll_prefix outcomes
        (devices.filter (System.filterOnBoardedUser none args.filterInNames (some args.since))) system'
      rw [hSelected] at hLeft hOk
      dsimp only
      rw [hWet, hSelected]
      refine ⟨_, List.take_prefix k _, hStore ▸ hLeft, fun h => List.take_of_length_le (hOk h)⟩

theorem unregisterAll_dryRun (devices : List OnBoardedUser) (system : System) :
    System.unregisterAll outcomes true devices system = (.ok (), system) := by
  induction devices with
  | nil => rfl
  | cons device rest ih => exact ih

theorem releaseDeviceIds_dryRun (hDry : args.dryRun = true) (system : System) :
    (args.releaseDeviceIds outcomes matchesUsername system).2.store = system.store := by
  have hStore := getRegisteredDeviceIds_store outcomes matchesUsername args.userName system
  unfold releaseDeviceIds System.unregisterDeviceIdsForUsername
  cases hCall : system.getRegisteredDeviceIds outcomes matchesUsername args.userName with
  | mk result system' =>
    rw [hCall] at hStore
    cases result with
    | error e => exact hStore
    | ok devices =>
      dsimp only
      rw [hDry, unregisterAll_dryRun]
      exact hStore

/-- What the command can leave: no device is new, and those that it does not select are there. -/
structure Leaves (matchesUsername : String → String → Bool) (args : DeviceIdsArgs)
    (before after : List OnBoardedUser) :
    Prop where
  sublist : after.Sublist before
  unselected : ∀ d ∈ before, args.selects matchesUsername d = false → d ∈ after

theorem Leaves.trans {a b c : List OnBoardedUser} (h : Leaves matchesUsername args a b)
    (h' : Leaves matchesUsername args b c) : Leaves matchesUsername args a c where
  sublist := h'.sublist.trans h.sublist
  unselected d hd hOut := h'.unselected d (h.unselected d hd hOut) hOut

/-- Devices are released by their names, which have to tell them apart. -/
theorem leaves_without {devices released : List OnBoardedUser}
    (hNames : (devices.map OnBoardedUser.distinguishedName).Nodup)
    (hReleased : released <+: devices.filter (args.selects matchesUsername)) :
    Leaves matchesUsername args devices (without released devices) where
  sublist := List.filter_sublist
  unselected d hd hOut := by
    refine List.mem_filter.mpr ⟨hd, decide_eq_true fun hName => ?_⟩
    obtain ⟨d', hd', hSame⟩ := List.mem_map.mp hName
    obtain ⟨hMem, hSelected⟩ := List.mem_filter.mp (hReleased.subset hd')
    cases List.inj_on_of_nodup_map hNames hMem hd hSame
    rw [hOut] at hSelected
    cases hSelected

theorem without_selected (devices : List OnBoardedUser) :
    ∀ d ∈ without (devices.filter (args.selects matchesUsername)) devices,
    args.selects matchesUsername d = false := by
  intro d hd
  obtain ⟨hMem, hLeft⟩ := List.mem_filter.mp hd
  by_contra hSelected
  refine of_decide_eq_true hLeft (List.mem_map_of_mem (List.mem_filter.mpr ⟨hMem, ?_⟩))
  simpa using hSelected

theorem Leaves.eq_filter {before after : List OnBoardedUser} (h : Leaves matchesUsername args before after)
    (hNodup : before.Nodup) (hClean : ∀ d ∈ after, args.selects matchesUsername d = false) :
    after = before.filter fun d => !args.selects matchesUsername d := by
  have hAll : after.filter (fun d => !args.selects matchesUsername d) = after :=
    List.filter_eq_self.mpr fun d hd => by simp [hClean d hd]
  have hSublist := h.sublist.filter fun d => !args.selects matchesUsername d
  rw [hAll] at hSublist
  refine hSublist.eq_of_length_le (List.subperm_of_subset (hNodup.filter _) fun d hd => ?_).length_le
  obtain ⟨hMem, hOut⟩ := List.mem_filter.mp hd
  exact h.unselected d hMem (by simpa using hOut)

variable (matchesUsername args) in
theorem releaseDeviceIds_leaves {system : System}
    (hNames : (system.store.devices.map OnBoardedUser.distinguishedName).Nodup) :
    Leaves matchesUsername args system.store.devices
        (args.releaseDeviceIds outcomes matchesUsername system).2.store.devices ∧
      (args.dryRun = false → (args.releaseDeviceIds outcomes matchesUsername system).1 = .ok () →
        ∀ d ∈ (args.releaseDeviceIds outcomes matchesUsername system).2.store.devices,
          args.selects matchesUsername d = false) := by
  cases hDry : args.dryRun with
  | true =>
    rw [releaseDeviceIds_dryRun outcomes hDry]
    exact ⟨⟨.refl _, fun d hd _ => hd⟩, fun h => by cases h⟩
  | false =>
    obtain ⟨released, hReleased, hLeft, hOk⟩ := releaseDeviceIds_effect outcomes matchesUsername args hDry system
    rw [hLeft]
    refine ⟨leaves_without hNames hReleased, fun _ h => ?_⟩
    rw [hOk h]
    exact without_selected _

variable (matchesUsername args) in
/-- The names that are left still tell the devices apart, and what no device left is selected for stays so. -/
theorem rerun_leaves (n : Nat) {system : System}
    (hNames : (system.store.devices.map OnBoardedUser.distinguishedName).Nodup) :
    Leaves matchesUsername args system.store.devices (args.rerun outcomes matchesUsername n system).2.store.devices ∧
      (args.dryRun = false → .ok () ∈ (args.rerun outcomes matchesUsername n system).1 →
        ∀ d ∈ (args.rerun outcomes matchesUsername n system).2.store.devices,
          args.selects matchesUsername d = false) := by
  induction n generalizing system with
  | zero => exact ⟨⟨.refl _, fun d hd _ => hd⟩, fun _ h => by cases h⟩
  | succ n ih =>
    obtain ⟨hFirst, hFirstOk⟩ := releaseDeviceIds_leaves outcomes matchesUsername args hNames
    obtain ⟨hRest, hRestOk⟩ := ih (hNames.sublist (hFirst.sublist.map _))
    refine ⟨hFirst.trans hRest, fun hWet hOk d hd => ?_⟩
    rcases List.mem_cons.mp hOk with hNow | hLater
    · exact hFirstOk hWet hNow.symm d (hRest.sublist.subset hd)
    · exact hRestOk hWet hLater d hd

theorem rerun_dryRun (hDry : args.dryRun = true) (n : Nat) (system : System) :
    (args.rerun outcomes matchesUsername n system).2.store = system.store := by
  induction n generalizing system with
  | zero => rfl
  | succ n ih => exact (ih _).trans (releaseDeviceIds_dryRun outcomes hDry system)

variable (matchesUsername args) in
/-- However often the command is given, and whatever it loses, it leaves the devices that it does not select. A dry run
leaves all of them, and where the command has once reported no failure, no others are left. -/
theorem rerun_releases (n : Nat) {system : System}
    (hNames : (system.store.devices.map OnBoardedUser.distinguishedName).Nodup) :
    let run := args.rerun outcomes matchesUsername n system
    (args.dryRun = true → run.2.store.devices = system.store.devices) ∧
      Leaves matchesUsername args system.store.devices run.2.store.devices ∧
      (args.dryRun = false → .ok () ∈ run.1 →
        run.2.store.devices = system.store.devices.filter fun d => !args.selects matchesUsername d) := by
  obtain ⟨hLeaves, hClean⟩ := rerun_leaves outcomes matchesUsername args n hNames
  refine ⟨fun hDry => congrArg Controller.devices (rerun_dryRun outcomes hDry n system),
    hLeaves, fun hWet hOk => ?_⟩
  exact hLeaves.eq_filter hNames.of_map (hClean hWet hOk)

def sampleArgs : DeviceIdsArgs := ⟨"user", 100, false, true⟩

def sampleRegistered : System :=
  ⟨⟨[], [⟨"CN=a", "a", "user", 10⟩, ⟨"CN=b", "b", "user", 20⟩, ⟨"CN=c", "c", "user", 200⟩,
    ⟨"CN=d", "d", "user2", 5⟩], []⟩,
    0, []⟩

/-- The reply to the first release is lost. The command stops, and finishes when it is given again. -/
theorem rerun_releases_sample :
    let run := sampleArgs.rerun (fun n => if n = 1 then .replyLost else .delivered)
      (fun a b => a.toList.isPrefixOf b.toList) 2 sampleRegistered
    run.1 = [.error .request, .ok ()] ∧ run.2.store.devices = sampleRegistered.store.devices.drop 2 := by
  intro run
  have hResults : run.1 = [.error .request, .ok ()] := by decide +kernel
  obtain ⟨-, -, hLeft⟩ := rerun_releases (fun n => if n = 1 then .replyLost else .delivered)
    (fun a b => a.toList.isPrefixOf b.toList) sampleArgs 2 (by decide : (sampleRegistered.store.devices.map _).Nodup)
  exact ⟨hResults, (hLeft rfl (hResults ▸ by decide)).trans (by decide)⟩

end DeviceIdsArgs

end SdpK8sInjector.IdentityService
