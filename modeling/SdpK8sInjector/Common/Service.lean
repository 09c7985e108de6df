import SdpK8sInjector.Common.Traits
import SdpK8sInjector.Lib.HashMap

/-! # Users, identities and candidates -/

namespace SdpK8sInjector.Common

open Lib

abbrev Labels := HashMap String String

/-- Hyphenated lower-case text: groups of 8, 4, 4, 4 and 12 hexadecimal digits. -/
def isCanonicalUuid (text : String) : Bool :=
  text.toList.length == 36 && text.toList.zipIdx.all fun (c, i) =>
    if i ∈ [8, 13, 18, 23] then c == '-' else c.isDigit || ('a' ≤ c && c ≤ 'f')

/-- A UUID is represented by its canonical text, which is what `to_string` prints. -/
structure Uuid where
  text : String
  canonical : isCanonicalUuid text = true
deriving DecidableEq

def Uuid.toString (uuid : Uuid) : String := uuid.text

theorem Uuid.toString_injective {a b : Uuid} (h : a.toString = b.toString) : a = b := by
  cases a
  cases b
  cases h
  rfl

/-- `Uuid::parse_str` for text in canonical form. -/
def parseCanonical (text : String) : Option Uuid :=
  if h : isCanonicalUuid text = true then some ⟨text, h⟩ else none

theorem parseCanonical_toString (d : Uuid) : parseCanonical d.toString = some d := by
  simp [parseCanonical, Uuid.toString, d.canonical]

structure ServiceUser where
  id : String
  name : String
  password : String
  profileUrl : String
  deviceIds : Option (List String)
deriving DecidableEq

/-- The device ids of a user, none where there is no list of them. -/
def deviceIdList (user : ServiceUser) : List String := user.deviceIds.getD []

structure ServiceIdentitySpec where
  serviceUser : ServiceUser
  serviceName : String
  serviceNamespace : String
  labels : Labels
  disabled : Bool
deriving DecidableEq

/-- The object that stores the credentials of one service. `metadataName` is its API name. -/
structure ServiceIdentity where
  metadataName : String
  spec : ServiceIdentitySpec
deriving DecidableEq

def ServiceIdentity.new (name : String) (spec : ServiceIdentitySpec) : ServiceIdentity :=
  ⟨name, spec⟩

instance : Named ServiceIdentity := ⟨fun s => s.spec.serviceName⟩

instance : Namespaced ServiceIdentity := ⟨fun s => s.spec.serviceNamespace⟩

def ServiceIdentity.credentials (s : ServiceIdentity) : ServiceUser := s.spec.serviceUser

def ServiceIdentity.withUser (s : ServiceIdentity) (user : ServiceUser) : ServiceIdentity :=
  { s with spec := { s.spec with serviceUser := user } }

@[simp] theorem ServiceIdentity.serviceId_withUser (s : ServiceIdentity) (user : ServiceUser) :
    Service.serviceId (s.withUser user) = Service.serviceId s := rfl

@[simp] theorem ServiceIdentity.serviceName_withUser (s : ServiceIdentity) (user : ServiceUser) :
    Service.serviceName (s.withUser user) = Service.serviceName s := rfl

@[simp] theorem ServiceIdentity.credentials_withUser (s : ServiceIdentity) (user : ServiceUser) :
    (s.withUser user).credentials = user := rfl

@[simp] theorem ServiceIdentity.metadataName_withUser (s : ServiceIdentity) (user : ServiceUser) :
    (s.withUser user).metadataName = s.metadataName := rfl

/-- Objects read from the API always carry a name, so the random fallback name is unreachable. -/
structure ObjectMeta where
  name : String
  name_ne : name ≠ ""
  ns : Option String
  labels : Labels
  annotations : HashMap String String
deriving DecidableEq

structure Deployment where
  metadata : ObjectMeta
deriving DecidableEq

structure SDPServiceSpec where
  kind : String
  name : String
deriving DecidableEq

structure SDPService where
  metadata : ObjectMeta
  spec : SDPServiceSpec
deriving DecidableEq

instance : Named Deployment := ⟨fun d => d.metadata.name⟩

instance : Named SDPService := ⟨fun s => s.spec.name⟩

inductive ServiceCandidate where
  | deployment (d : Deployment)
  | sdpService (s : SDPService)
deriving DecidableEq

def ServiceCandidate.metadata : ServiceCandidate → ObjectMeta
  | .deployment d => d.metadata
  | .sdpService s => s.metadata

instance : Named ServiceCandidate where
  name
    | .deployment d => Named.name d
    | .sdpService s => Named.name s

instance : MaybeNamespaced ServiceCandidate := ⟨fun c => c.metadata.ns⟩

/-- `Labeled::labels`, which is the same for both kinds of candidate. -/
def ServiceCandidate.labels (c : ServiceCandidate) : Except SDPServiceError Labels :=
  match MaybeNamespaced.ns c with
  | some ns => .ok (AList.insert "name" (Named.name c) (AList.insert "namespace" ns c.metadata.labels))
  | none => .error ("Unable to find namespace for Deployment " ++ Named.name c)

structure ServiceLookup where
  name : String
  ns : String
  labels : Option Labels
deriving DecidableEq

def ServiceLookup.new (ns name : String) (labels : Option Labels) : ServiceLookup := ⟨name, ns, labels⟩

instance : Named ServiceLookup := ⟨ServiceLookup.name⟩

instance : MaybeNamespaced ServiceLookup := ⟨fun l => some l.ns⟩

def ServiceLookup.getLabels (l : ServiceLookup) : Labels := l.labels.getD ∅

def ServiceLookup.tryFromService (c : ServiceCandidate) : Except SDPServiceError ServiceLookup :=
  match MaybeNamespaced.ns c, c.labels with
  | some ns, labels => .ok (.new ns (Named.name c) (some (labels.toOption.getD ∅)))
  | none, _ => .error ("Unable to get namespace from f " ++ Named.name c)

@[simp] theorem ServiceLookup.serviceId_eq (l : ServiceLookup) :
    MaybeService.serviceId l = .ok (formatServiceId l.ns l.name) := rfl

@[simp] theorem ServiceLookup.serviceName_eq (l : ServiceLookup) :
    MaybeService.serviceName l = .ok (formatServiceName l.ns l.name) := rfl

theorem ServiceLookup.serviceId_of_tryFromService {c : ServiceCandidate} {l : ServiceLookup}
    (h : tryFromService c = .ok l) : MaybeService.serviceId c = .ok (formatServiceId l.ns l.name) := by
  cases hNs : MaybeNamespaced.ns c with
  | none => simp [tryFromService, hNs] at h
  | some ns =>
    simp only [tryFromService, hNs, Except.ok.injEq] at h
    subst h
    exact MaybeService.serviceId_eq_ok.mpr ⟨ns, hNs, rfl⟩

/-- A candidate that has a service id is looked up under that id. -/
theorem ServiceLookup.tryFromService_of_serviceId {c : ServiceCandidate} {id : String}
    (h : MaybeService.serviceId c = .ok id) :
    ∃ l labels, tryFromService c = .ok l ∧ c.labels = .ok labels ∧ id = formatServiceId l.ns l.name := by
  obtain ⟨ns, hNs, rfl⟩ := MaybeService.serviceId_eq_ok.mp h
  simp [tryFromService, ServiceCandidate.labels, hNs, ServiceLookup.new]

structure SDPUser where
  id : String
  name : String
  labels : Labels
  tags : List String
  password : Option String
  disabled : Bool
deriving DecidableEq

/-- `SDPUser::new`; the random password is given by the caller. -/
def SDPUser.new (password id : String) (name : Option String) (disabled : Option Bool) : SDPUser where
  id := id
  name := name.getD id
  labels := ∅
  tags := []
  password := some password
  disabled := disabled.getD true

def SDPUser.ofServiceUser (u : ServiceUser) : SDPUser where
  id := u.name
  name := u.name
  labels := ∅
  tags := []
  password := none
  disabled := true

def ServiceUser.fromSdpUser (sdpUser : SDPUser) (profileUrl : String) (password : Option String)
    (deviceIds : Option (List String)) : Option ServiceUser :=
  (password.or sdpUser.password).map fun pwd =>
    { id := sdpUser.id, name := sdpUser.name, password := pwd, profileUrl := profileUrl,
      deviceIds := deviceIds }

end SdpK8sInjector.Common
