import SdpK8sInjector.IdentityService.DeviceRemovals
import SdpK8sInjector.Lib.Words

/-! # Devices that go with a user

With a user of a service go the devices that are registered under the name of the
user, its random part cut off, and under every name that starts like this.
-/

namespace SdpK8sInjector.IdentityService

open Lib Common

structure ServiceNames where
  ns : String
  name : String
deriving DecidableEq

/-- The names of the users of the service, without their random part. -/
def ServiceNames.stem (clusterId : String) (service : ServiceNames) : Option String :=
  truncate 122 (clusterId ++ "_" ++ service.ns ++ "_" ++ service.name)

def ServiceNames.CreatedFor (clusterId : String) (service : ServiceNames) (username : String) : Prop :=
  ∃ suffix : RandomSuffix 5, getServiceUsername suffix.val clusterId service.ns service.name = some username

theorem ServiceNames.createdFor_iff {clusterId username : String} {service : ServiceNames} :
    service.CreatedFor clusterId username ↔ ∃ stem, service.stem clusterId = some stem ∧
      ∃ suffix : RandomSuffix 5, username = stem ++ "_" ++ suffix.val := by
  unfold CreatedFor stem getServiceUsername
  cases truncate 122 (clusterId ++ "_" ++ service.ns ++ "_" ++ service.name) <;> simp [eq_comm]

section Names

theorem underscore_notMem (suffix : RandomSuffix 5) : '_' ∉ suffix.val.toList := by
  intro h
  have hChar := List.all_eq_true.mp suffix.property.2 '_' h
  exact absurd hChar (by decide)

/-- The random part is cut off where the rest has three parts, and nothing is cut off elsewhere. -/
theorem prefixName_eq_ite {u : SDPUser} {stem : String} {suffix : RandomSuffix 5}
    (hName : u.name = stem ++ "_" ++ suffix.val) :
    u.prefixName = if (stem.toList.splitOn '_').length = 3 then stem else u.name := by
  have hParts : u.name.toList.splitOn '_' = stem.toList.splitOn '_' ++ [suffix.val.toList] := by
    have hList : u.name.toList = stem.toList ++ '_' :: suffix.val.toList := by simp [hName]
    rw [hList, List.splitOn_append_cons_self, List.splitOn_eq_singleton (underscore_notMem suffix)]
  have hJoin : ∀ cs : List Char, "_".intercalate ((cs.splitOn '_').map String.ofList) = .ofList cs := by
    intro cs
    rw [intercalate_ofList]
    exact congrArg String.ofList (List.intercalate_splitOn '_')
  simp only [SDPUser.prefixName, List.length_map]
  by_cases hLength : (stem.toList.splitOn '_').length = 3
  · have hTake : (u.name.toList.splitOn '_').take 3 = stem.toList.splitOn '_' := by
      rw [hParts, List.take_left' hLength]
    rw [if_pos (by simp [hParts, hLength]), if_pos hLength, ← List.map_take, hTake, hJoin, String.ofList_toList]
  · rw [if_neg hLength]
    split
    · rename_i hCount
      have hThree : (u.name.toList.splitOn '_').length = 3 := by
        rw [hParts, List.length_append, List.length_singleton] at hCount ⊢
        omega
      rw [← List.map_take, List.take_of_length_le hThree.le, hJoin, String.ofList_toList]
    · rw [hJoin, String.ofList_toList]

theorem prefixName_cases {u : SDPUser} {stem : String} {suffix : RandomSuffix 5}
    (hName : u.name = stem ++ "_" ++ suffix.val) :
    u.prefixName = u.name ∨ u.prefixName = stem ∧ (stem.toList.splitOn '_').length = 3 := by
  rw [prefixName_eq_ite hName]
  split
  · exact .inr ⟨rfl, ‹_›⟩
  · exact .inl rfl

/-- A name of a service has the parts of the cluster, the namespace and the service, as far as it is not cut. -/
theorem splitOn_stem {clusterId stem : String} {service : ServiceNames} (hStem : service.stem clusterId = some stem) :
    3 ≤ (stem.toList.splitOn '_').length ∨ String.utf8Len stem.toList = 122 := by
  obtain ⟨taken, hTaken, rfl⟩ := Option.map_eq_some_iff.mp hStem
  rw [String.toList_ofList]
  refine (takeBytes_spec hTaken).2.imp_left fun hAll => ?_
  have hList : taken = clusterId.toList ++ '_' :: (service.ns.toList ++ '_' :: service.name.toList) := by simp [hAll]
  have hNonempty : ∀ cs : List Char, 0 < (cs.splitOn '_').length :=
    fun cs => List.length_pos_iff.mpr (List.splitOn_ne_nil '_' cs)
  rw [hList, List.splitOn_append_cons_self, List.splitOn_append_cons_self, List.length_append, List.length_append]
  have hCluster := hNonempty clusterId.toList
  have hNs := hNonempty service.ns.toList
  have hName := hNonempty service.name.toList
  omega

/-- What begins the whole text, and not only its first part, reaches beyond the separator. -/
theorem exists_of_prefix_cons {α : Type} {x a b : List α} {c : α} (h : x <+: a ++ c :: b) (hNot : ¬x <+: a) :
    ∃ r, x = a ++ c :: r ∧ r <+: b := by
  obtain ⟨rest, hRest⟩ := h
  rcases List.append_eq_append_iff.mp hRest with ⟨as, hA, -⟩ | ⟨bs, hX, hB⟩
  · exact absurd ⟨as, hA.symm⟩ hNot
  · cases bs with
    | nil => exact absurd (hX ▸ (List.append_nil a).symm ▸ List.prefix_refl a) hNot
    | cons c' r =>
      obtain ⟨rfl, hB'⟩ := List.cons.inj hB
      exact ⟨r, hX, rest, hB'.symm⟩

/-- The part that is drawn does not make a name start with what is asked for, except for the user itself. -/
theorem startsWith_stem {clusterId stem other : String} {service : ServiceNames}
    {u : SDPUser} {suffix suffix' : RandomSuffix 5}
    (hName : u.name = stem ++ "_" ++ suffix.val) (hBound : String.utf8Len stem.toList ≤ 122)
    (hOther : service.stem clusterId = some other)
    (hStarts : startsWith (other ++ "_" ++ suffix'.val) u.prefixName = true) :
    other ++ "_" ++ suffix'.val = u.name ∨ startsWith other u.prefixName = true := by
  by_cases hInside : startsWith other u.prefixName = true
  · exact .inr hInside
  rw [startsWith_iff] at hInside hStarts
  have hOtherName : (other ++ "_" ++ suffix'.val).toList = other.toList ++ '_' :: suffix'.val.toList := by simp
  rw [hOtherName] at hStarts
  obtain ⟨r, hBeyond, hRest⟩ := exists_of_prefix_cons hStarts hInside
  have hParts : u.prefixName.toList.splitOn '_' = other.toList.splitOn '_' ++ r.splitOn '_' := by
    rw [hBeyond, List.splitOn_append_cons_self]
  rcases prefixName_cases hName with hWhole | ⟨hStem, hLength⟩
  · left
    have hUser : u.name.toList = stem.toList ++ '_' :: suffix.val.toList := by simp [hName]
    have hDrawn : '_' ∉ r := fun h => underscore_notMem suffix' (hRest.subset h)
    rw [hWhole, hUser, List.splitOn_append_cons_self, List.splitOn_eq_singleton (underscore_notMem suffix),
      List.splitOn_eq_singleton hDrawn] at hParts
    obtain rfl : suffix.val.toList = r := List.singleton_inj.mp (List.append_inj_right' hParts rfl)
    have hSame : suffix.val.toList = suffix'.val.toList :=
      hRest.eq_of_length (suffix.property.1.trans suffix'.property.1.symm)
    apply String.toList_inj.mp
    rw [hOtherName, ← hSame, ← hBeyond, hWhole]
  · -- the other name has fewer parts, so it was cut, and then it is as long as any
    rw [hStem] at hParts hBeyond
    have hFew : (other.toList.splitOn '_').length < 3 := by
      have hPositive : 0 < (r.splitOn '_').length := List.length_pos_iff.mpr (List.splitOn_ne_nil '_' r)
      rw [← hLength, hParts, List.length_append]
      omega
    have hFull := (splitOn_stem hOther).resolve_left (by omega)
    rw [hBeyond, String.utf8Len_append, String.utf8Len_cons, hFull] at hBound
    have hUnderscore : Char.utf8Size '_' = 1 := rfl
    omega

end Names

/-- Each device is registered under a name that was created for its service, and has a distinguished name of its own. -/
structure Registered (clusterId : String) (services : List ServiceNames) (owner : String → ServiceNames)
    (devices : List OnBoardedUser) : Prop where
  services : ∀ d ∈ devices, owner d.username ∈ services
  created : ∀ d ∈ devices, (owner d.username).CreatedFor clusterId d.username
  nodup : (devices.map OnBoardedUser.distinguishedName).Nodup

/-- Where the controller looks for the beginnings of names, only devices of the service go with its user. -/
def SparesOthers (clusterId : String) (services : List ServiceNames) (s : ServiceNames) (u : SDPUser) : Prop :=
  ∀ (env : Surroundings) (c : IdentityCreator) (owner : String → ServiceNames),
    (∀ asked name, env.matchesUsername asked name = startsWith name asked) →
    Registered clusterId services owner c.system.store.devices → owner u.name = s →
    ∀ d ∈ c.system.store.devices, d ∉ (c.deleteSdpUser env u).2.system.store.devices → owner d.username = s

section Spared

variable {clusterId : String} {services : List ServiceNames} {s : ServiceNames} {u : SDPUser}

theorem spares_of_stems (hUser : s.CreatedFor clusterId u.name)
    (hStems : ∀ other ∈ services, ∀ stem, other.stem clusterId = some stem →
      startsWith stem u.prefixName = true → other = s) :
    SparesOthers clusterId services s u := by
  intro env c owner hMatches hRegistered hOwner d hd hGone
  have hFound : startsWith d.username u.prefixName = true := by
    obtain ⟨d', hd', hAsked, hSame⟩ :=
      ((IdentityCreator.deleteSdpUser_unregisters u c).spared d hd).resolve_left hGone
    obtain rfl := List.inj_on_of_nodup_map hRegistered.nodup hd' hd hSame
    rwa [hMatches] at hAsked
  obtain ⟨stem, hStem, suffix, hName⟩ := ServiceNames.createdFor_iff.mp hUser
  obtain ⟨other, hOther, suffix', hOtherName⟩ := ServiceNames.createdFor_iff.mp (hRegistered.created d hd)
  have hBound : String.utf8Len stem.toList ≤ 122 := by
    obtain ⟨taken, hTaken, rfl⟩ := Option.map_eq_some_iff.mp hStem
    rw [String.toList_ofList]
    exact (takeBytes_spec hTaken).1
  rw [hOtherName] at hFound
  rcases startsWith_stem hName hBound hOther hFound with hSame | hInside
  · rw [hOtherName, hSame, hOwner]
  · exact hStems _ (hRegistered.services d hd) other hOther hInside

/-- A creator that reaches the controller, where one device is registered. -/
def creatorWith (d : OnBoardedUser) : IdentityCreator :=
  .new ⟨⟨[], [d], []⟩, 0, []⟩ ⟨some ⟨none⟩, 0, []⟩ 0

theorem devices_creatorWith {env : Surroundings} {d : OnBoardedUser}
    (hSystem : ∀ n, env.systemOutcomes n = .delivered)
    (hSecret : ∀ n, env.secretOutcomes n = .delivered)
    (hMatches : env.matchesUsername u.prefixName d.username = true) :
    ((creatorWith d).deleteSdpUser env u).2.system.store.devices = [] := by
  have hReleased : (((creatorWith d).system.unregisterDeviceIdsForUsername env.systemOutcomes env.matchesUsername
      u.prefixName none none none false).2.deleteUser env.systemOutcomes u.id).2.store.devices = [] := by
    simp [creatorWith, IdentityCreator.new, System.unregisterDeviceIdsForUsername, System.getRegisteredDeviceIds,
      Controller.getRegisteredDeviceIds, Remote.call, hSystem, hMatches, System.unregisterAll,
      System.unregisterDeviceId,
      Controller.deleteDevice, System.filterOnBoardedUser, System.deleteUser, Controller.deleteUser, Remote.failWith]
  unfold IdentityCreator.deleteSdpUser
  cases ServiceUser.fromSdpUser u "" none (some []) with
  | none => exact hReleased
  | some serviceUser =>
    have hCleared : (serviceUser.deleteSecretsFields env.secretOutcomes (creatorWith d).secret
        IDENTITY_MANAGER_SECRET_NAME).1 = .ok () := by
      simp [ServiceUser.deleteSecretsFields, creatorWith, IdentityCreator.new, Remote.call, hSecret, Secret.get]
    dsimp only
    rw [hCleared]
    exact hReleased

theorem stems_of_spares (hSpares : SparesOthers clusterId services s u) {other : ServiceNames} {stem : String}
    (hMem : other ∈ services) (hStem : other.stem clusterId = some stem)
    (hStarts : startsWith stem u.prefixName = true) :
    other = s := by
  -- two suffixes, so that one makes a name that is not that of the user
  obtain ⟨suffix, hNew⟩ : ∃ suffix : RandomSuffix 5, stem ++ "_" ++ suffix.val ≠ u.name := by
    by_cases hFirst : stem ++ "_" ++ "aaaaa" = u.name
    · refine ⟨⟨"bbbbb", by decide⟩, fun hSecond => ?_⟩
      have hLists := congrArg String.toList (hFirst.trans hSecond.symm)
      simp at hLists
    · exact ⟨⟨"aaaaa", by decide⟩, hFirst⟩
  let name := stem ++ "_" ++ suffix.val
  let device : OnBoardedUser := ⟨"CN=device,CN=" ++ name ++ ",OU=service", "device", name, 0⟩
  let owner : String → ServiceNames := fun n => if n = name then other else s
  let env : Surroundings :=
    ⟨fun _ => .delivered, fun _ => .delivered, fun _ => .ok "",
      fun _ => ⟨"00000000-0000-0000-0000-000000000000", by decide⟩,
    fun _ => "", fun _ => none, fun asked name => startsWith name asked⟩
  have hOwner : owner name = other := if_pos rfl
  have hRegistered : Registered clusterId services owner [device] := by
    constructor
    · intro d hd
      obtain rfl := List.mem_singleton.mp hd
      rw [show owner device.username = other from hOwner]
      exact hMem
    · intro d hd
      obtain rfl := List.mem_singleton.mp hd
      rw [show owner device.username = other from hOwner]
      exact ServiceNames.createdFor_iff.mpr ⟨stem, hStem, suffix, rfl⟩
    · exact List.nodup_singleton _
  have hFound : env.matchesUsername u.prefixName device.username = true := by
    change startsWith (stem ++ "_" ++ suffix.val) u.prefixName = true
    rw [startsWith_iff] at hStarts ⊢
    simp only [String.toList_append, List.append_assoc]
    exact hStarts.trans (List.prefix_append _ _)
  have hGone : ((creatorWith device).deleteSdpUser env u).2.system.store.devices = [] :=
    devices_creatorWith (fun _ => rfl) (fun _ => rfl) hFound
  have hNone := hSpares env (creatorWith device) owner (fun _ _ => rfl) hRegistered (if_neg (Ne.symm hNew)) device
    List.mem_cons_self (by rw [hGone]; exact List.not_mem_nil)
  exact hOwner.symm.trans hNone

/-- Only devices of the service go with its user if no other service has names that start with what is asked for. -/
theorem spares_others_iff (hUser : s.CreatedFor clusterId u.name) : SparesOthers clusterId services s u ↔
    ∀ other ∈ services, ∀ stem, other.stem clusterId = some stem → startsWith stem u.prefixName = true →
      other = s :=
  ⟨fun hSpares _ hMem _ hStem hStarts => stems_of_spares hSpares hMem hStem hStarts, spares_of_stems hUser⟩

end Spared

section Samples

def sampleWeb : ServiceNames := ⟨"ns", "web"⟩

def sampleWebUser : SDPUser := ⟨"u", "cluster_ns_web_abcde", ∅, [], none, true⟩

theorem sampleWebUser_created : sampleWeb.CreatedFor "cluster" sampleWebUser.name :=
  ⟨⟨"abcde", by decide⟩, by decide⟩

theorem spares_others_sample : SparesOthers "cluster" [sampleWeb, ⟨"ns", "db"⟩] sampleWeb sampleWebUser := by
  refine (spares_others_iff sampleWebUser_created).mpr fun other hMem stem hStem hStarts => ?_
  rcases List.mem_cons.mp hMem with rfl | hMem
  · rfl
  · obtain rfl := List.mem_singleton.mp hMem
    obtain rfl :=
      Option.some.inj ((by decide : ServiceNames.stem "cluster" ⟨"ns", "db"⟩ = some "cluster_ns_db").symm.trans
        hStem)
    exact absurd hStarts (by decide)

/-- With a user of `web` go the devices of `web-2`. -/
theorem longer_name_not_spared : ¬SparesOthers "cluster" [sampleWeb, ⟨"ns", "web-2"⟩] sampleWeb sampleWebUser := by
  intro h
  have hSame : (⟨"ns", "web-2"⟩ : ServiceNames) = sampleWeb :=
    stems_of_spares h (by decide) (by decide : _ = some "cluster_ns_web-2") (by decide)
  exact absurd hSame (by decide)

end Samples

end SdpK8sInjector.IdentityService
