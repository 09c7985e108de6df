import SdpK8sInjector.Common.Names
import SdpK8sInjector.Common.Injection

/-! # Whose a client profile is

Several clusters share the client profiles of one system. A profile is taken for one
of the cluster by its name, which starts with the cluster id, or what is left of it
after 14 bytes.
-/

namespace SdpK8sInjector.IdentityService

open Common

structure ClientProfile where
  id : String
  name : String
  spaKeyName : String
  identityProviderName : String
  tags : List String
deriving DecidableEq

def SDP_IDP_NAME : String := "service"

inductive ClientProfileType where
  | freshClientProfile (p : ClientProfile)
  | existingClientProfile (p : ClientProfile)
deriving DecidableEq

def ClientProfileType.profile : ClientProfileType → ClientProfile
  | .freshClientProfile p | .existingClientProfile p => p

namespace ClientProfile

-- `str::to_lowercase` is given by the caller, and so is what is drawn.
variable (lowercase : String → String) (id : Uuid) (suffix : RandomSuffix 5)

def fresh (profileName : String) : ClientProfile where
  id := id.toString
  name := profileName
  spaKeyName := lowercase (.ofList (profileName.toList.filter fun c => c != ' '))
  identityProviderName := SDP_IDP_NAME
  tags := []

/-- `none` where the id cannot be truncated. -/
def getOrCreateClientProfileUrl (clusterId : String) (ps : List ClientProfile) :
    Option (ClientProfileType × Option (List ClientProfile)) :=
  (getProfileClientUrlName suffix clusterId).map fun (profileName, prefixName) =>
    match ps.filter fun p => startsWith p.name prefixName with
    | [] => (.freshClientProfile (fresh lowercase id profileName), none)
    | [p] => (.existingClientProfile p, none)
    | p :: rest => (.existingClientProfile p, some rest)

/-- The profile is one that this function made for the cluster. -/
def CreatedFor (clusterId : String) (p : ClientProfile) : Prop :=
  ∃ id suffix names, getProfileClientUrlName suffix clusterId = some names ∧ p = fresh lowercase id names.1

/-- The selected profile and the leftovers are those of cluster `a`, whichever profiles cluster `b` has. -/
structure Isolated (a b : String) (ps : List ClientProfile) : Prop where
  returns : (getOrCreateClientProfileUrl lowercase id suffix a ps).isSome = true
  own : ∀ t leftovers, getOrCreateClientProfileUrl lowercase id suffix a ps = some (t, leftovers) →
    ∀ p ∈ t.profile :: leftovers.getD [], CreatedFor lowercase a p
  new : (∀ p ∈ ps, CreatedFor lowercase b p) →
    ∀ r, getOrCreateClientProfileUrl lowercase id suffix a ps = some r → ∃ p, r = (.freshClientProfile p, none)
  found : (∃ p ∈ ps, CreatedFor lowercase a p) →
    ∀ r, getOrCreateClientProfileUrl lowercase id suffix a ps = some r → ∃ p, r.1 = .existingClientProfile p

/-- Among the profiles, the short name of cluster `a` tells its own. -/
def ToldApart (a b : String) (ps : List ClientProfile) : Prop :=
  ∃ shortName, truncate 14 a = some shortName ∧
    (∀ p ∈ ps, startsWith p.name shortName = true → CreatedFor lowercase a p) ∧
    (truncate 14 b = some shortName → (∃ p ∈ ps, ¬CreatedFor lowercase b p) ∨ ps = [])

/-- No name of a profile of cluster `b` starts with the short name of cluster `a`. -/
def Apart (a b : String) : Prop :=
  ∃ shortName, truncate 14 a = some shortName ∧ ∀ other, truncate 14 b = some other →
    ∀ suffix : RandomSuffix 5, startsWith (other ++ "-" ++ suffix.val) shortName = false

variable {lowercase id suffix} {a b clusterId shortName : String} {p : ClientProfile} {ps : List ClientProfile}

theorem createdFor_iff : CreatedFor lowercase clusterId p ↔
    ∃ (id : Uuid) (suffix : RandomSuffix 5) (shortName : String), truncate 14 clusterId = some shortName ∧
      p = fresh lowercase id (shortName ++ "-" ++ suffix.val) := by
  refine exists_congr fun id => exists_congr fun suffix => ?_
  cases h : truncate 14 clusterId <;> simp [getProfileClientUrlName, h]

theorem startsWith_append (pre rest : String) : startsWith (pre ++ rest) pre = true := by
  rw [startsWith_iff, String.toList_append]
  exact List.prefix_append _ _

theorem CreatedFor.startsWith (h : CreatedFor lowercase clusterId p) (hShort : truncate 14 clusterId = some shortName) :
    startsWith p.name shortName = true := by
  obtain ⟨id, suffix, short, hEq, rfl⟩ := createdFor_iff.mp h
  obtain rfl := Option.some.inj (hShort.symm.trans hEq)
  rw [fresh, String.append_assoc]
  exact startsWith_append _ _

/-- Clusters that have a profile in common have the same short name, since the random parts are of one length. -/
theorem CreatedFor.shortName_eq (ha : CreatedFor lowercase a p) (hb : CreatedFor lowercase b p) :
    truncate 14 a = truncate 14 b := by
  obtain ⟨_, s, short, hShort, rfl⟩ := createdFor_iff.mp ha
  obtain ⟨_, s', short', hShort', hSame⟩ := createdFor_iff.mp hb
  have hNames : short.toList ++ ('-' :: s.val.toList) = short'.toList ++ ('-' :: s'.val.toList) := by
    simpa [fresh] using congrArg (fun p => p.name.toList) hSame
  have hLength : ('-' :: s.val.toList).length = ('-' :: s'.val.toList).length := by simp [s.property.1, s'.property.1]
  rw [hShort, hShort', String.toList_inj.mp (List.append_inj_left' hNames hLength)]

/-- What is returned depends on the profiles whose name starts with the short name. -/
theorem getOrCreate_cases (hShort : truncate 14 a = some shortName) {t : ClientProfileType}
    {leftovers : Option (List ClientProfile)}
    (hResult : getOrCreateClientProfileUrl lowercase id suffix a ps = some (t, leftovers)) :
    (t = .freshClientProfile (fresh lowercase id (shortName ++ "-" ++ suffix.val)) ∧ leftovers = none ∧
      ∀ p ∈ ps, startsWith p.name shortName = false) ∨
    ∃ p, t = .existingClientProfile p ∧ ∀ q, q ∈ p :: leftovers.getD [] ↔
      q ∈ ps ∧ startsWith q.name shortName = true := by
  simp only [getOrCreateClientProfileUrl, getProfileClientUrlName, hShort, Option.map_some,
    Option.some.injEq] at hResult
  cases hFound : ps.filter fun p => startsWith p.name shortName with
  | nil =>
    rw [hFound] at hResult
    cases hResult
    refine .inl ⟨rfl, rfl, fun p hp => ?_⟩
    simpa using List.filter_eq_nil_iff.mp hFound p hp
  | cons p rest =>
    have hMem : ∀ q, q ∈ p :: rest ↔ q ∈ ps ∧ startsWith q.name shortName = true := fun q => by
      rw [← hFound, List.mem_filter]
    rw [hFound] at hResult
    cases rest <;> cases hResult <;> exact .inr ⟨p, rfl, hMem⟩

theorem returns_iff : (getOrCreateClientProfileUrl lowercase id suffix a ps).isSome = true ↔
    ∃ shortName, truncate 14 a = some shortName := by
  rw [getOrCreateClientProfileUrl, Option.isSome_map, getProfileClientUrlName, Option.isSome_map,
    Option.isSome_iff_exists]

theorem Isolated.toldApart (h : Isolated lowercase id suffix a b ps) : ToldApart lowercase a b ps := by
  obtain ⟨shortName, hShort⟩ := returns_iff.mp h.returns
  obtain ⟨⟨t, leftovers⟩, hResult⟩ := Option.isSome_iff_exists.mp h.returns
  have hCases := getOrCreate_cases hShort hResult
  refine ⟨shortName, hShort, fun p hp hStarts => ?_, fun hSame => ?_⟩
  · rcases hCases with ⟨-, -, hNone⟩ | ⟨q, rfl, hFound⟩
    · exact absurd hStarts (by simp [hNone p hp])
    · exact h.own _ _ hResult p ((hFound p).mpr ⟨hp, hStarts⟩)
  · by_contra hNot
    push Not at hNot
    obtain ⟨hAll, hSome⟩ := hNot
    obtain ⟨p, hp⟩ := List.exists_mem_of_ne_nil ps hSome
    obtain ⟨q, hNew⟩ := h.new hAll _ hResult
    rcases hCases with ⟨-, -, hNone⟩ | ⟨q, rfl, -⟩
    · exact absurd ((hAll p hp).startsWith hSame) (by simp [hNone p hp])
    · cases hNew

theorem ToldApart.isolated (h : ToldApart lowercase a b ps) : Isolated lowercase id suffix a b ps := by
  obtain ⟨shortName, hShort, hOwn, hSame⟩ := h
  refine ⟨returns_iff.mpr ⟨shortName, hShort⟩, fun t leftovers hResult => ?_, fun hAll => ?_, fun hSome => ?_⟩
  · rcases getOrCreate_cases hShort hResult with ⟨rfl, rfl, -⟩ | ⟨q, rfl, hFound⟩
    · intro p hp
      obtain rfl := List.mem_singleton.mp hp
      exact createdFor_iff.mpr ⟨id, suffix, shortName, hShort, rfl⟩
    · intro p hp
      obtain ⟨hp, hStarts⟩ := (hFound p).mp hp
      exact hOwn p hp hStarts
  · rintro ⟨t, leftovers⟩ hResult
    rcases getOrCreate_cases hShort hResult with ⟨rfl, rfl, -⟩ | ⟨q, rfl, hFound⟩
    · exact ⟨_, rfl⟩
    · obtain ⟨hq, hStarts⟩ := (hFound q).mp List.mem_cons_self
      have hBoth : truncate 14 a = truncate 14 b := (hOwn q hq hStarts).shortName_eq (hAll q hq)
      rcases hSame (hBoth.symm.trans hShort) with ⟨p, hp, hNot⟩ | rfl
      · exact absurd (hAll p hp) hNot
      · cases hq
  · rintro ⟨t, leftovers⟩ hResult
    obtain ⟨p, hp, hCreated⟩ := hSome
    rcases getOrCreate_cases hShort hResult with ⟨-, -, hNone⟩ | ⟨q, rfl, -⟩
    · exact absurd (hCreated.startsWith hShort) (by simp [hNone p hp])
    · exact ⟨q, rfl⟩

/-- Clusters that are apart are told apart by any profiles they make, and only those are. -/
theorem toldApart_iff_apart (id : Uuid) (suffix : RandomSuffix 5) :
    (∀ ps, (∀ p ∈ ps, CreatedFor lowercase a p ∨ CreatedFor lowercase b p) → ToldApart lowercase a b ps) ↔
    Apart a b := by
  constructor
  · intro h
    obtain ⟨shortName, hShort, -⟩ := h [] nofun
    refine ⟨shortName, hShort, fun other hOther s => Bool.not_eq_true _ ▸ fun hOverlap => ?_⟩
    -- a list of one profile, which cluster `b` made
    let p : ClientProfile := fresh lowercase id (other ++ "-" ++ s.val)
    have hCreated : CreatedFor lowercase b p := createdFor_iff.mpr ⟨id, s, other, hOther, rfl⟩
    obtain ⟨shortName', hShort', hOwn, hSame⟩ := h [p] fun q hq => .inr (List.mem_singleton.mp hq ▸ hCreated)
    obtain rfl := Option.some.inj (hShort.symm.trans hShort')
    have hBoth : truncate 14 a = truncate 14 b := (hOwn p List.mem_cons_self hOverlap).shortName_eq hCreated
    rcases hSame (hBoth.symm.trans hShort) with ⟨q, hq, hNot⟩ | hNil
    · exact hNot (List.mem_singleton.mp hq ▸ hCreated)
    · cases hNil
  · rintro ⟨shortName, hShort, hApart⟩ ps hAll
    refine ⟨shortName, hShort, fun p hp hStarts => ?_, fun hSame => ?_⟩
    · rcases hAll p hp with hOwn | hOther
      · exact hOwn
      · obtain ⟨_, s, other, hShort', rfl⟩ := createdFor_iff.mp hOther
        exact absurd hStarts (by simp [fresh, hApart other hShort' s])
    · have hStarts := startsWith_append shortName ("-" ++ suffix.val)
      rw [← String.append_assoc, hApart shortName hSame suffix] at hStarts
      cases hStarts

/-- The clusters are told apart by the short name. The profiles that clusters make are told apart by it if none of those
of the other cluster starts with it. -/
theorem client_profiles_isolated_iff (lowercase : String → String) (id : Uuid)
    (suffix : RandomSuffix 5) (a b : String) :
    (∀ ps, Isolated lowercase id suffix a b ps ↔ ToldApart lowercase a b ps) ∧
      ((∀ ps, (∀ p ∈ ps, CreatedFor lowercase a p ∨ CreatedFor lowercase b p) →
        Isolated lowercase id suffix a b ps) ↔
        Apart a b) := by
  have hEach : ∀ ps, Isolated lowercase id suffix a b ps ↔ ToldApart lowercase a b ps := fun ps =>
    ⟨Isolated.toldApart, ToldApart.isolated⟩
  refine ⟨hEach, ?_⟩
  simp only [hEach]
  exact toldApart_iff_apart id suffix

section Samples

def sampleSuffix : RandomSuffix 5 := ⟨"a1b2c", by decide⟩

def sampleProfileId : Uuid := ⟨"00000000-0000-4000-8000-000000000000", by decide⟩

def sampleProfile : ClientProfile := fresh toLowercase sampleProfileId "my-cluster-10-a1b2c"

/-- One id is the beginning of the other, so the profile of the second cluster is taken for one of the first. -/
theorem profile_of_longer_id_taken : CreatedFor toLowercase "my-cluster-10" sampleProfile ∧
    ¬Isolated toLowercase sampleProfileId sampleSuffix "my-cluster-1" "my-cluster-10" [sampleProfile] := by
  have hCreated : CreatedFor toLowercase "my-cluster-10" sampleProfile :=
    createdFor_iff.mpr ⟨sampleProfileId, sampleSuffix, "my-cluster-10", by decide, rfl⟩
  have hTaken : getOrCreateClientProfileUrl toLowercase sampleProfileId sampleSuffix "my-cluster-1" [sampleProfile] =
      some (.existingClientProfile sampleProfile, none) := by decide
  refine ⟨hCreated, fun h => ?_⟩
  obtain ⟨p, hNew⟩ := h.new (fun p hp => List.mem_singleton.mp hp ▸ hCreated) _ hTaken
  cases hNew

end Samples

end ClientProfile

end SdpK8sInjector.IdentityService
