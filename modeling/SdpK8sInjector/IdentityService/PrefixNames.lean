import SdpK8sInjector.IdentityService.UserDeletion
import SdpK8sInjector.Common.NameLimits

/-! # Names of users without their random part

A name is made by joining the cluster, the namespace and the service with
underscores, cutting the text and adding a random part. That part is recognised
by the number of underscores.
-/

namespace SdpK8sInjector.IdentityService

open Lib Common

/-- The text that identifies the users of the service. -/
def ServiceNames.text (clusterId : String) (service : ServiceNames) : String :=
  clusterId ++ "_" ++ service.ns ++ "_" ++ service.name

/-- As much of the text as goes into 122 bytes is what is left of each name of the service, and so of any two. -/
structure PrefixUndone (clusterId : String) (service : ServiceNames) : Prop where
  undone : ∀ suffix : RandomSuffix 5, ∃ username,
    getServiceUsername suffix.val clusterId service.ns service.name = some username ∧
      ∀ u : SDPUser, u.name = username → LongestPrefix 122 (service.text clusterId) u.prefixName
  same : ∀ u u' : SDPUser, service.CreatedFor clusterId u.name → service.CreatedFor clusterId u'.name →
    u.prefixName = u'.prefixName

theorem longestPrefix_iff {n : Nat} {text pre : String} :
    LongestPrefix n text pre ↔ pre = .ofList (fitting n text.toList) := by
  constructor
  · rintro ⟨hPrefix, hFits, hLongest⟩
    obtain ⟨hPrefix', hFits', -⟩ := longestPrefix_fitting n text
    have hWithin := (hLongest _ hPrefix' hFits').length_le
    rw [String.toList_ofList] at hWithin
    apply String.toList_inj.mp
    rw [String.toList_ofList]
    exact (prefix_fitting hPrefix ((String.utf8Len_toList pre).le.trans hFits)).eq_of_length_le hWithin
  · rintro rfl
    exact longestPrefix_fitting n text

theorem length_splitOn (cs : List Char) (sep : Char) : (cs.splitOn sep).length = cs.count sep + 1 := by
  induction cs with
  | nil => rfl
  | cons c cs ih =>
    rw [List.splitOn_cons_eq_if_modifyHead, List.count_cons]
    split <;> simp [ih]

/-- The random part is cut off a name exactly if the part of the text that goes into 122 bytes has two underscores. -/
theorem prefixName_undoes_iff (clusterId : String) (service : ServiceNames) :
    PrefixUndone clusterId service ↔ CutsBetweenChars 122 (service.text clusterId).toList ∧
      (fitting 122 (service.text clusterId).toList).count '_' = 2 := by
  let stem : String := .ofList (fitting 122 (service.text clusterId).toList)
  have hThree : (stem.toList.splitOn '_').length = 3 ↔
      (fitting 122 (service.text clusterId).toList).count '_' = 2 := by
    rw [length_splitOn, String.toList_ofList]
    omega
  have hStem : ∀ t, service.stem clusterId = some t ↔
      CutsBetweenChars 122 (service.text clusterId).toList ∧ t = stem :=
    fun t => truncate_eq_some_iff
  constructor
  · rintro ⟨hUndone, -⟩
    obtain ⟨username, hUsername, hPrefix⟩ := hUndone ⟨"abcde", by decide⟩
    obtain ⟨t, hCut, hName⟩ := Option.map_eq_some_iff.mp hUsername
    obtain ⟨hCuts, rfl⟩ := (hStem t).mp hCut
    refine ⟨hCuts, hThree.mp ?_⟩
    by_contra hOther
    have hWhole := longestPrefix_iff.mp (hPrefix (.new "" username none none) rfl)
    rw [prefixName_eq_ite hName.symm, if_neg hOther] at hWhole
    have hLong : (stem ++ "_" ++ "abcde").length = stem.length := congrArg String.length (hName.trans hWhole)
    rw [String.length_append, String.length_append] at hLong
    have hShort : "_".length = 1 := rfl
    omega
  · rintro ⟨hCuts, hCount⟩
    have hStripped : ∀ u : SDPUser, service.CreatedFor clusterId u.name → u.prefixName = stem := by
      intro u hCreated
      obtain ⟨t, hCut, suffix, hName⟩ := ServiceNames.createdFor_iff.mp hCreated
      obtain ⟨-, rfl⟩ := (hStem t).mp hCut
      rw [prefixName_eq_ite hName, if_pos (hThree.mpr hCount)]
    constructor
    · intro suffix
      have hUsername : getServiceUsername suffix.val clusterId service.ns service.name =
          some (stem ++ "_" ++ suffix.val) :=
        Option.map_eq_some_iff.mpr ⟨stem, (hStem stem).mpr ⟨hCuts, rfl⟩, rfl⟩
      refine ⟨_, hUsername, fun u hName => longestPrefix_iff.mpr (hStripped u ⟨suffix, ?_⟩)⟩
      rw [hName, hUsername]
    · intro u u' h h'
      rw [hStripped u h, hStripped u' h']

/-- The cluster has an underscore, so that the names of its users have one more. -/
theorem underscore_in_cluster : ¬∀ (clusterId : String) (service : ServiceNames), isDnsLabel service.ns = true →
    PrefixUndone clusterId service := by
  intro h
  obtain ⟨username, hUsername, hPrefix⟩ :=
    (h "my_cluster" ⟨"ns", "a"⟩ (by decide)).undone ⟨"abcde", by decide⟩
  have hName : getServiceUsername "abcde" "my_cluster" "ns" "a" = some "my_cluster_ns_a_abcde" := by decide
  cases hName.symm.trans hUsername
  have hBegins := (hPrefix (.new "" "my_cluster_ns_a_abcde" none none) rfl).1
  revert hBegins
  decide

end SdpK8sInjector.IdentityService
