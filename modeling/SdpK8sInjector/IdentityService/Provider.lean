import SdpK8sInjector.Common.Service

/-! # The credentials provider: the pool of users and the registered identities

Only `registerOrUpdateIdentity` writes `services`, under the id of what it
writes, so every identity is stored under its own service id by construction.
-/

namespace SdpK8sInjector.IdentityService

open Lib Common

structure ServiceCredentialsProvider where
  pool : List ServiceUser
  services : HashMap String ServiceIdentity
  keyed : ∀ id identity, services.lookup id = some identity → Service.serviceId identity = id
deriving DecidableEq

namespace ServiceCredentialsProvider

def default : ServiceCredentialsProvider := ⟨[], ∅, by simp⟩

def pop (p : ServiceCredentialsProvider) : Option ServiceUser × ServiceCredentialsProvider :=
  match p.pool with
  | [] => (none, p)
  | user :: rest => (some user, { p with pool := rest })

def push (p : ServiceCredentialsProvider) (user : ServiceUser) : ServiceCredentialsProvider :=
  { p with pool := p.pool ++ [user] }

def needsNewCredentials (p : ServiceCredentialsProvider) : Bool := p.pool.length < 10

def registerOrUpdateIdentity (p : ServiceCredentialsProvider) (identity : ServiceIdentity) :
    ServiceCredentialsProvider where
  pool := p.pool
  services := AList.insert (Service.serviceId identity) identity p.services
  keyed id other h := by
    rw [HashMap.lookup_insert_eq_ite] at h
    split at h
    · cases h
      exact Eq.symm ‹_›
    · exact p.keyed id other h

def unregisterIdentity (p : ServiceCredentialsProvider) (identity : ServiceIdentity) :
    ServiceCredentialsProvider where
  pool := p.pool
  services := p.services.erase (Service.serviceId identity)
  keyed id other h := by
    rw [HashMap.lookup_erase_eq_ite] at h
    split at h
    · cases h
    · exact p.keyed id other h

/-- The identity that binds a user taken from the pool to the service. -/
def identityFor (lookup : ServiceLookup) (serviceUser : ServiceUser) : ServiceIdentity :=
  .new (formatServiceName lookup.ns lookup.name) {
    serviceUser := serviceUser
    serviceName := Named.name lookup
    serviceNamespace := lookup.ns
    labels := lookup.getLabels
    disabled := false }

/-- The identity of the service, and whether it is newly created. -/
def nextIdentity (p : ServiceCredentialsProvider) (lookup : ServiceLookup) :
    Option (ServiceIdentity × Bool) × ServiceCredentialsProvider :=
  match MaybeService.serviceId lookup with
  | .ok serviceId =>
    match p.services.lookup serviceId with
    | some id => (some (id, false), p)
    | none =>
      match p.pop with
      | (some serviceUser, p) =>
        let id := identityFor lookup serviceUser
        (some (id, true), p.registerOrUpdateIdentity id)
      | (none, p) => (none, p)
  | .error _ => (none, p)

def identity (p : ServiceCredentialsProvider) (lookup : ServiceLookup) : Option ServiceIdentity :=
  match MaybeService.serviceId lookup with
  | .ok serviceId => p.services.lookup serviceId
  | .error _ => none

def identities (p : ServiceCredentialsProvider) : List ServiceIdentity := HashMap.values p.services

def extraServiceIdentities (p : ServiceCredentialsProvider) (candidates : HashSet String) :
    List ServiceIdentity :=
  p.identities.filter fun id => Service.serviceId id ∉ candidates

def orphanServiceUsers (p : ServiceCredentialsProvider) (activated : HashSet String) : List String :=
  HashSet.difference activated (HashSet.ofList (p.identities.map fun i => i.credentials.id))

def orphanServiceIdentities (p : ServiceCredentialsProvider) (deactivated : HashSet String) :
    List ServiceIdentity :=
  p.identities.filter fun i => i.credentials.id ∈ deactivated

@[simp] theorem serviceId_identityFor (lookup : ServiceLookup) (user : ServiceUser) :
    Service.serviceId (identityFor lookup user) = formatServiceId lookup.ns lookup.name := rfl

@[simp] theorem serviceName_identityFor (lookup : ServiceLookup) (user : ServiceUser) :
    Service.serviceName (identityFor lookup user) = formatServiceName lookup.ns lookup.name := rfl

@[simp] theorem metadataName_identityFor (lookup : ServiceLookup) (user : ServiceUser) :
    (identityFor lookup user).metadataName = formatServiceName lookup.ns lookup.name := rfl

@[simp] theorem ns_identityFor (lookup : ServiceLookup) (user : ServiceUser) :
    Namespaced.ns (identityFor lookup user) = lookup.ns := rfl

@[simp] theorem name_identityFor (lookup : ServiceLookup) (user : ServiceUser) :
    Named.name (identityFor lookup user) = lookup.name := rfl

@[simp] theorem credentials_identityFor (lookup : ServiceLookup) (user : ServiceUser) :
    (identityFor lookup user).credentials = user := rfl

section Lemmas

variable (p : ServiceCredentialsProvider)

@[simp] theorem pool_registerOrUpdateIdentity (identity : ServiceIdentity) :
    (p.registerOrUpdateIdentity identity).pool = p.pool := rfl

@[simp] theorem services_registerOrUpdateIdentity (identity : ServiceIdentity) :
    (p.registerOrUpdateIdentity identity).services = AList.insert (Service.serviceId identity) identity p.services :=
      rfl

@[simp] theorem pool_unregisterIdentity (identity : ServiceIdentity) :
    (p.unregisterIdentity identity).pool = p.pool := rfl

@[simp] theorem services_unregisterIdentity (identity : ServiceIdentity) :
    (p.unregisterIdentity identity).services = p.services.erase (Service.serviceId identity) := rfl

@[simp] theorem pool_push (user : ServiceUser) : (p.push user).pool = p.pool ++ [user] := rfl

@[simp] theorem services_push (user : ServiceUser) : (p.push user).services = p.services := rfl

@[simp] theorem identity_eq_lookup (lookup : ServiceLookup) :
    p.identity lookup = p.services.lookup (formatServiceId lookup.ns lookup.name) := rfl

theorem mem_identities {identity : ServiceIdentity} :
    identity ∈ p.identities ↔ p.services.lookup (Service.serviceId identity) = some identity := by
  rw [identities, HashMap.mem_values]
  constructor
  · rintro ⟨id, h⟩
    rwa [p.keyed id identity h]
  · exact fun h => ⟨_, h⟩

theorem identities_serviceId_nodup : (p.identities.map Service.serviceId).Nodup :=
  HashMap.values_nodup_map p.services Service.serviceId id p.keyed

theorem nextIdentity_cases (lookup : ServiceLookup) :
    (∃ identity, p.services.lookup (formatServiceId lookup.ns lookup.name) = some identity ∧
        p.nextIdentity lookup = (some (identity, false), p)) ∨
      (p.services.lookup (formatServiceId lookup.ns lookup.name) = none ∧ p.pool = [] ∧
        p.nextIdentity lookup = (none, p)) ∨
      ∃ user rest, p.services.lookup (formatServiceId lookup.ns lookup.name) = none ∧
        p.pool = user :: rest ∧
        p.nextIdentity lookup = (some (identityFor lookup user, true),
          ({ p with pool := rest } : ServiceCredentialsProvider).registerOrUpdateIdentity
            (identityFor lookup user)) := by
  cases hLookup : p.services.lookup (formatServiceId lookup.ns lookup.name) with
  | some identity =>
    left
    exact ⟨identity, rfl, by simp [nextIdentity, hLookup]⟩
  | none =>
    right
    cases hPool : p.pool with
    | nil => exact .inl ⟨rfl, rfl, by simp [nextIdentity, hLookup, pop, hPool]⟩
    | cons user rest =>
      exact .inr ⟨user, rest, rfl, rfl, by simp [nextIdentity, hLookup, pop, hPool]⟩

end Lemmas

end ServiceCredentialsProvider

end SdpK8sInjector.IdentityService
