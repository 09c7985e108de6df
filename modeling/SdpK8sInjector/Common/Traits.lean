import Mathlib.Data.String.Basic

/-! # Named and namespaced objects, and the two keys of a service

Memory is keyed by `namespace_name`, the objects in the API by `namespace-name`.
-/

namespace SdpK8sInjector.Common

abbrev SDPServiceError := String

class Named (α : Type) where
  name : α → String

class Namespaced (α : Type) where
  ns : α → String

class MaybeNamespaced (α : Type) where
  ns : α → Option String

def formatServiceId (ns name : String) : String := ns ++ "_" ++ name

def formatServiceName (ns name : String) : String := ns ++ "-" ++ name

namespace Service

variable {α : Type} [Named α] [Namespaced α]

def serviceName (x : α) : String := formatServiceName (Namespaced.ns x) (Named.name x)

def serviceId (x : α) : String := formatServiceId (Namespaced.ns x) (Named.name x)

end Service

namespace MaybeService

variable {α : Type} [Named α] [MaybeNamespaced α]

def namespaceNotFound : SDPServiceError := "Namespace not found in resource"

def serviceName (x : α) : Except SDPServiceError String :=
  match MaybeNamespaced.ns x with
  | some ns => .ok (formatServiceName ns (Named.name x))
  | none => .error namespaceNotFound

def serviceId (x : α) : Except SDPServiceError String :=
  match MaybeNamespaced.ns x with
  | some ns => .ok (formatServiceId ns (Named.name x))
  | none => .error namespaceNotFound

theorem serviceId_eq_ok {x : α} {id : String} :
    serviceId x = .ok id ↔ ∃ ns, MaybeNamespaced.ns x = some ns ∧ id = formatServiceId ns (Named.name x) := by
  cases h : MaybeNamespaced.ns x <;> simp [serviceId, h, eq_comm]

end MaybeService

/-- A service id is never an object name: the API server rejects names with an underscore. -/
theorem underscore_mem_formatServiceId (ns name : String) : '_' ∈ (formatServiceId ns name).toList := by
  simp [formatServiceId]

/-- The names that Kubernetes accepts for namespaces and for most objects. -/
def isDnsLabel (s : String) : Bool :=
  s.toList.length ≠ 0 && s.toList.length ≤ 63 &&
    s.toList.all (fun c => c.isLower || c.isDigit || c == '-') &&
    s.toList.head? != some '-' && s.toList.getLast? != some '-'

theorem underscore_notMem_of_isDnsLabel {s : String} (h : isDnsLabel s = true) : '_' ∉ s.toList := by
  intro hMem
  simp only [isDnsLabel, Bool.and_eq_true, List.all_eq_true] at h
  exact absurd (h.1.1.2 _ hMem) (by decide)

/-- The underscore separates the namespace from the name, since neither has one. -/
theorem formatServiceId_injective {ns name ns' name' : String} (hNs : '_' ∉ ns.toList) (hName : '_' ∉ name.toList)
    (h : formatServiceId ns name = formatServiceId ns' name') : ns = ns' ∧ name = name' := by
  have hLists : ns.toList ++ '_' :: name.toList = ns'.toList ++ '_' :: name'.toList := by
    simpa [formatServiceId] using congrArg String.toList h
  obtain ⟨hFirst, _, hLast⟩ := (List.append_cons_inj_of_notMem hNs hName).mp hLists
  exact ⟨String.toList_inj.mp hFirst, String.toList_inj.mp hLast⟩

theorem toList_formatServiceName (ns name : String) :
    (formatServiceName ns name).toList = ns.toList ++ '-' :: name.toList := by
  simp [formatServiceName]

theorem hyphen_split {xs ys xs' ys' : List Char} (h : xs ++ '-' :: ys = xs' ++ '-' :: ys') :
    (xs = xs' ∧ ys = ys') ∨ (∃ mid, xs' = xs ++ '-' :: mid ∧ ys = mid ++ '-' :: ys') ∨
      ∃ mid, xs = xs' ++ '-' :: mid ∧ ys' = mid ++ '-' :: ys := by
  rcases List.append_eq_append_iff.mp h with ⟨as, rfl, hRest⟩ | ⟨as, rfl, hRest⟩
  · cases as with
    | nil => exact .inl ⟨by simp, by simpa using hRest⟩
    | cons c as =>
      obtain ⟨rfl, rfl⟩ := List.cons.inj hRest
      exact .inr (.inl ⟨as, rfl, rfl⟩)
  · cases as with
    | nil => exact .inl ⟨by simp, by simpa using hRest.symm⟩
    | cons c as =>
      obtain ⟨rfl, rfl⟩ := List.cons.inj hRest
      exact .inr (.inr ⟨as, rfl, rfl⟩)

/-- Two services share a name where the hyphen of one falls inside the namespace or the name of the other. -/
theorem formatServiceName_eq_iff {ns name ns' name' : String} :
    formatServiceName ns name = formatServiceName ns' name' ↔
      (ns = ns' ∧ name = name') ∨
      (∃ mid, ns' = formatServiceName ns mid ∧ name = formatServiceName mid name') ∨
        ∃ mid, ns = formatServiceName ns' mid ∧ name' = formatServiceName mid name := by
  constructor
  · intro h
    rw [← String.toList_inj, toList_formatServiceName, toList_formatServiceName] at h
    rcases hyphen_split h with ⟨hNs, hName⟩ | ⟨mid, hNs, hName⟩ | ⟨mid, hNs, hName⟩
    · exact .inl ⟨String.toList_inj.mp hNs, String.toList_inj.mp hName⟩
    · refine .inr (.inl ⟨.ofList mid, ?_, ?_⟩) <;> rw [← String.toList_inj, toList_formatServiceName] <;> simpa
    · refine .inr (.inr ⟨.ofList mid, ?_, ?_⟩) <;> rw [← String.toList_inj, toList_formatServiceName] <;> simpa
  · rintro (⟨rfl, rfl⟩ | ⟨mid, rfl, rfl⟩ | ⟨mid, rfl, rfl⟩)
    · rfl
    · simp [formatServiceName, String.append_assoc]
    · simp [formatServiceName, String.append_assoc]

end SdpK8sInjector.Common
