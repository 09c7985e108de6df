import SdpK8sInjector.Common.Pods
import SdpK8sInjector.Lib.Patch

/-! # The objects of an admission request, as they are written in JSON

The fields are those that the injector reads or writes, and those beside them as they are written.
-/

namespace SdpK8sInjector.Common

open Lib Serde

structure ManifestMeta where
  name : Option String
  generateName : Option String
  ns : Option String
  annotations : Option (HashMap String String)
  other : Others ["name", "generateName", "namespace", "annotations"] := ∅

instance : Serde ManifestMeta where
  toJson m := .obj (recordWith [("name", m.name.map toJson), ("generateName", m.generateName.map toJson),
    ("namespace", m.ns.map toJson), ("annotations", m.annotations.map toJson)] m.other)
  ofJson
    | .obj members => do
      let name ← optionalField "name" members
      let generateName ← optionalField "generateName" members
      let ns ← optionalField "namespace" members
      let annotations ← optionalField "annotations" members
      some ⟨name, generateName, ns, annotations, .of _ members⟩
    | _ => none
  ofJson_null := rfl
  ofJson_toJson m := by simp [optionalField, lookup_recordWith, of_recordWith]

/-- `ResourceExt::annotations`: without any, the map is empty. -/
instance : Annotated ManifestMeta := ⟨fun m => some (m.annotations.getD ∅)⟩

/-- Only the annotations are new. -/
def ManifestMeta.withAnnotations (m : ManifestMeta) (annotations : HashMap String String) : ManifestMeta :=
  { m with annotations := some annotations }

/-- `ConfigMapKeySelector` and `SecretKeySelector` -/
structure KeySelector where
  key : String
  name : String
  optional : Option Bool
deriving DecidableEq

instance : Serde KeySelector where
  toJson k := .obj (record [("key", some (toJson k.key)), ("name", some (toJson k.name)),
    ("optional", k.optional.map toJson)])
  ofJson
    | .obj members => do
      let key ← field "key" members
      let name ← field "name" members
      let optional ← optionalField "optional" members
      some ⟨key, name, optional⟩
    | _ => none
  ofJson_null := rfl
  ofJson_toJson k := by simp [field, optionalField]

structure ObjectFieldSelector where
  apiVersion : Option String
  fieldPath : String
deriving DecidableEq

instance : Serde ObjectFieldSelector where
  toJson o := .obj (record [("apiVersion", o.apiVersion.map toJson), ("fieldPath", some (toJson o.fieldPath))])
  ofJson
    | .obj members => do
      let apiVersion ← optionalField "apiVersion" members
      let fieldPath ← field "fieldPath" members
      some ⟨apiVersion, fieldPath⟩
    | _ => none
  ofJson_null := rfl
  ofJson_toJson o := by simp [field, optionalField]

structure EnvVarSource where
  configMapKeyRef : Option KeySelector
  secretKeyRef : Option KeySelector
  fieldRef : Option ObjectFieldSelector
  other : Others ["configMapKeyRef", "secretKeyRef", "fieldRef"] := ∅

instance : Serde EnvVarSource where
  toJson e := .obj (recordWith [("configMapKeyRef", e.configMapKeyRef.map toJson),
    ("secretKeyRef", e.secretKeyRef.map toJson), ("fieldRef", e.fieldRef.map toJson)] e.other)
  ofJson
    | .obj members => do
      let configMapKeyRef ← optionalField "configMapKeyRef" members
      let secretKeyRef ← optionalField "secretKeyRef" members
      let fieldRef ← optionalField "fieldRef" members
      some ⟨configMapKeyRef, secretKeyRef, fieldRef, .of _ members⟩
    | _ => none
  ofJson_null := rfl
  ofJson_toJson e := by simp [optionalField, lookup_recordWith, of_recordWith]

structure EnvVar where
  name : String
  value : Option String
  valueFrom : Option EnvVarSource

instance : Serde EnvVar where
  toJson e := .obj (record [("name", some (toJson e.name)), ("value", e.value.map toJson),
    ("valueFrom", e.valueFrom.map toJson)])
  ofJson
    | .obj members => do
      let name ← field "name" members
      let value ← optionalField "value" members
      let valueFrom ← optionalField "valueFrom" members
      some ⟨name, value, valueFrom⟩
    | _ => none
  ofJson_null := rfl
  ofJson_toJson e := by simp [field, optionalField]

structure Container where
  name : String
  image : Option String
  env : Option (List EnvVar)
  other : Others ["name", "image", "env"] := ∅

instance : Serde Container where
  toJson c :=
    .obj (recordWith [("name", some (toJson c.name)), ("image", c.image.map toJson), ("env", c.env.map toJson)]
    c.other)
  ofJson
    | .obj members => do
      let name ← field "name" members
      let image ← optionalField "image" members
      let env ← optionalField "env" members
      some ⟨name, image, env, .of _ members⟩
    | _ => none
  ofJson_null := rfl
  ofJson_toJson c := by simp [field, optionalField, lookup_recordWith, of_recordWith]

structure Volume where
  name : String
  other : Others ["name"] := ∅

instance : Serde Volume where
  toJson v := .obj (recordWith [("name", some (toJson v.name))] v.other)
  ofJson
    | .obj members => do
      let name ← field "name" members
      some ⟨name, .of _ members⟩
    | _ => none
  ofJson_null := rfl
  ofJson_toJson v := by simp [field, lookup_recordWith, of_recordWith]

structure PodDNSConfigOption where
  name : Option String
  value : Option String
deriving DecidableEq

instance : Serde PodDNSConfigOption where
  toJson p := .obj (record [("name", p.name.map toJson), ("value", p.value.map toJson)])
  ofJson
    | .obj members => do
      let name ← optionalField "name" members
      let value ← optionalField "value" members
      some ⟨name, value⟩
    | _ => none
  ofJson_null := rfl
  ofJson_toJson p := by simp [optionalField]

structure PodDNSConfig where
  nameservers : Option (List String)
  options : Option (List PodDNSConfigOption)
  searches : Option (List String)
deriving DecidableEq

instance : Serde PodDNSConfig where
  toJson p := .obj (record [("nameservers", p.nameservers.map toJson), ("options", p.options.map toJson),
    ("searches", p.searches.map toJson)])
  ofJson
    | .obj members => do
      let nameservers ← optionalField "nameservers" members
      let options ← optionalField "options" members
      let searches ← optionalField "searches" members
      some ⟨nameservers, options, searches⟩
    | _ => none
  ofJson_null := rfl
  ofJson_toJson p := by simp [optionalField]

structure Sysctl where
  name : String
  value : String
deriving DecidableEq

instance : Serde Sysctl where
  toJson s := .obj (record [("name", some (toJson s.name)), ("value", some (toJson s.value))])
  ofJson
    | .obj members => do
      let name ← field "name" members
      let value ← field "value" members
      some ⟨name, value⟩
    | _ => none
  ofJson_null := rfl
  ofJson_toJson s := by simp [field]

structure PodSecurityContext where
  sysctls : Option (List Sysctl)
  other : Others ["sysctls"] := ∅

instance : Serde PodSecurityContext where
  toJson p := .obj (recordWith [("sysctls", p.sysctls.map toJson)] p.other)
  ofJson
    | .obj members => do
      let sysctls ← optionalField "sysctls" members
      some ⟨sysctls, .of _ members⟩
    | _ => none
  ofJson_null := rfl
  ofJson_toJson p := by simp [optionalField, lookup_recordWith, of_recordWith]

structure PodSpec where
  containers : List Container
  initContainers : Option (List Container)
  volumes : Option (List Volume)
  dnsConfig : Option PodDNSConfig
  dnsPolicy : Option String
  securityContext : Option PodSecurityContext
  other : Others ["containers", "initContainers", "volumes", "dnsConfig", "dnsPolicy", "securityContext"] := ∅

instance : Serde PodSpec where
  toJson p := .obj (recordWith [("containers", some (toJson p.containers)),
    ("initContainers", p.initContainers.map toJson), ("volumes", p.volumes.map toJson),
    ("dnsConfig", p.dnsConfig.map toJson), ("dnsPolicy", p.dnsPolicy.map toJson),
    ("securityContext", p.securityContext.map toJson)] p.other)
  ofJson
    | .obj members => do
      let containers ← field "containers" members
      let initContainers ← optionalField "initContainers" members
      let volumes ← optionalField "volumes" members
      let dnsConfig ← optionalField "dnsConfig" members
      let dnsPolicy ← optionalField "dnsPolicy" members
      let securityContext ← optionalField "securityContext" members
      some ⟨containers, initContainers, volumes, dnsConfig, dnsPolicy, securityContext, .of _ members⟩
    | _ => none
  ofJson_null := rfl
  ofJson_toJson p := by simp [field, optionalField, lookup_recordWith, of_recordWith]

instance : Serde PodStatus where
  toJson p := .obj (record [("reason", p.reason.map toJson)])
  ofJson
    | .obj members => do
      let reason ← optionalField "reason" members
      some ⟨reason⟩
    | _ => none
  ofJson_null := rfl
  ofJson_toJson p := by simp [optionalField]

structure PodManifest where
  metadata : ManifestMeta
  spec : Option PodSpec
  status : Option PodStatus

instance : Serde PodManifest where
  toJson p := .obj (record [("metadata", some (toJson p.metadata)), ("spec", p.spec.map toJson),
    ("status", p.status.map toJson)])
  ofJson
    | .obj members => do
      let metadata ← field "metadata" members
      let spec ← optionalField "spec" members
      let status ← optionalField "status" members
      some ⟨metadata, spec, status⟩
    | _ => none
  ofJson_null := rfl
  ofJson_toJson p := by simp [field, optionalField]

instance : Annotated PodManifest := ⟨fun p => Annotated.annotations p.metadata⟩

/-- The pod as the watchers see it. -/
def PodManifest.pod (p : PodManifest) : Pod where
  name := p.metadata.name
  generateName := p.metadata.generateName
  ns := p.metadata.ns
  annotations := p.metadata.annotations.getD ∅
  status := p.status

structure PodTemplateSpec where
  metadata : Option ManifestMeta
  spec : Option PodSpec

instance : Serde PodTemplateSpec where
  toJson p := .obj (record [("metadata", p.metadata.map toJson), ("spec", p.spec.map toJson)])
  ofJson
    | .obj members => do
      let metadata ← optionalField "metadata" members
      let spec ← optionalField "spec" members
      some ⟨metadata, spec⟩
    | _ => none
  ofJson_null := rfl
  ofJson_toJson p := by simp [optionalField]

structure DeploymentSpec where
  template : PodTemplateSpec

instance : Serde DeploymentSpec where
  toJson d := .obj (record [("template", some (toJson d.template))])
  ofJson
    | .obj members => do
      let template ← field "template" members
      some ⟨template⟩
    | _ => none
  ofJson_null := rfl
  ofJson_toJson d := by simp [field]

structure DeploymentManifest where
  metadata : ManifestMeta
  spec : Option DeploymentSpec

instance : Serde DeploymentManifest where
  toJson d := .obj (record [("metadata", some (toJson d.metadata)), ("spec", d.spec.map toJson)])
  ofJson
    | .obj members => do
      let metadata ← field "metadata" members
      let spec ← optionalField "spec" members
      some ⟨metadata, spec⟩
    | _ => none
  ofJson_null := rfl
  ofJson_toJson d := by simp [field, optionalField]

instance : Annotated DeploymentManifest := ⟨fun d => Annotated.annotations d.metadata⟩

/-! ## The fields that patches reach -/

theorem ManifestMeta.ofJson_obj {members : List (String × Json)} {m : ManifestMeta} :
    ofJson (.obj members) = some m ↔
    optionalField "name" members = some m.name ∧ optionalField "generateName" members = some m.generateName ∧
      optionalField "namespace" members = some m.ns ∧ optionalField "annotations" members = some m.annotations ∧
      Others.of _ members = m.other := by
  cases m
  simp [ofJson, Option.bind_eq_some_iff]

def ManifestMeta.annotationsField : RecordField ManifestMeta (HashMap String String) where
  key := "annotations"
  get := annotations
  set annotations m := { m with annotations := some annotations }
  ofObj doc _ h := by cases doc <;> first | exact ⟨_, rfl⟩ | cases h
  read _ _ _ h hGet := ofJson_of_optionalField (hGet ▸ (ofJson_obj.mp h).2.2.2.1)
  write _ _ _ _ h hValue := by
    rw [ofJson_obj] at h ⊢
    simp_all [optionalField_put, readOptional_of_ofJson hValue, Others.of_put]

theorem PodSpec.ofJson_obj {members : List (String × Json)} {s : PodSpec} : ofJson (.obj members) = some s ↔
    field "containers" members = some s.containers ∧
    optionalField "initContainers" members = some s.initContainers ∧
      optionalField "volumes" members = some s.volumes ∧ optionalField "dnsConfig" members = some s.dnsConfig ∧
      optionalField "dnsPolicy" members = some s.dnsPolicy ∧
      optionalField "securityContext" members = some s.securityContext ∧ Others.of _ members = s.other := by
  cases s
  simp [ofJson, Option.bind_eq_some_iff]

def PodSpec.containersField : RecordField PodSpec (List Container) where
  key := "containers"
  get s := some s.containers
  set cs s := { s with containers := cs }
  ofObj doc _ h := by cases doc <;> first | exact ⟨_, rfl⟩ | cases h
  read _ _ _ h hGet := ofJson_of_field (hGet ▸ (ofJson_obj.mp h).1)
  write _ _ _ _ h hValue := by
    rw [ofJson_obj] at h ⊢
    simp_all [optionalField_put, field_put, Others.of_put]

def PodSpec.initContainersField : RecordField PodSpec (List Container) where
  key := "initContainers"
  get := initContainers
  set cs s := { s with initContainers := some cs }
  ofObj doc _ h := by cases doc <;> first | exact ⟨_, rfl⟩ | cases h
  read _ _ _ h hGet := ofJson_of_optionalField (hGet ▸ (ofJson_obj.mp h).2.1)
  write _ _ _ _ h hValue := by
    rw [ofJson_obj] at h ⊢
    simp_all [optionalField_put, field_put, readOptional_of_ofJson hValue, Others.of_put]

def PodSpec.volumesField : RecordField PodSpec (List Volume) where
  key := "volumes"
  get := volumes
  set vs s := { s with volumes := some vs }
  ofObj doc _ h := by cases doc <;> first | exact ⟨_, rfl⟩ | cases h
  read _ _ _ h hGet := ofJson_of_optionalField (hGet ▸ (ofJson_obj.mp h).2.2.1)
  write _ _ _ _ h hValue := by
    rw [ofJson_obj] at h ⊢
    simp_all [optionalField_put, field_put, readOptional_of_ofJson hValue, Others.of_put]

def PodSpec.dnsConfigField : RecordField PodSpec PodDNSConfig where
  key := "dnsConfig"
  get := dnsConfig
  set c s := { s with dnsConfig := some c }
  ofObj doc _ h := by cases doc <;> first | exact ⟨_, rfl⟩ | cases h
  read _ _ _ h hGet := ofJson_of_optionalField (hGet ▸ (ofJson_obj.mp h).2.2.2.1)
  write _ _ _ _ h hValue := by
    rw [ofJson_obj] at h ⊢
    simp_all [optionalField_put, field_put, readOptional_of_ofJson hValue, Others.of_put]

def PodSpec.dnsPolicyField : RecordField PodSpec String where
  key := "dnsPolicy"
  get := dnsPolicy
  set policy s := { s with dnsPolicy := some policy }
  ofObj doc _ h := by cases doc <;> first | exact ⟨_, rfl⟩ | cases h
  read _ _ _ h hGet := ofJson_of_optionalField (hGet ▸ (ofJson_obj.mp h).2.2.2.2.1)
  write _ _ _ _ h hValue := by
    rw [ofJson_obj] at h ⊢
    simp_all [optionalField_put, field_put, readOptional_of_ofJson hValue, Others.of_put]

def PodSpec.securityContextField : RecordField PodSpec PodSecurityContext where
  key := "securityContext"
  get := securityContext
  set c s := { s with securityContext := some c }
  ofObj doc _ h := by cases doc <;> first | exact ⟨_, rfl⟩ | cases h
  read _ _ _ h hGet := ofJson_of_optionalField (hGet ▸ (ofJson_obj.mp h).2.2.2.2.2.1)
  write _ _ _ _ h hValue := by
    rw [ofJson_obj] at h ⊢
    simp_all [optionalField_put, field_put, readOptional_of_ofJson hValue, Others.of_put]

theorem PodManifest.ofJson_obj {members : List (String × Json)} {p : PodManifest} : ofJson (.obj members) = some p ↔
    field "metadata" members = some p.metadata ∧ optionalField "spec" members = some p.spec ∧
      optionalField "status" members = some p.status := by
  cases p
  simp [ofJson, Option.bind_eq_some_iff]

def PodManifest.metadataField : RecordField PodManifest ManifestMeta where
  key := "metadata"
  get p := some p.metadata
  set m p := { p with metadata := m }
  ofObj doc _ h := by cases doc <;> first | exact ⟨_, rfl⟩ | cases h
  read _ _ _ h hGet := ofJson_of_field (hGet ▸ (ofJson_obj.mp h).1)
  write _ _ _ _ h hValue := by
    rw [ofJson_obj] at h ⊢
    simp_all [optionalField_put, field_put]

def PodManifest.specField : RecordField PodManifest PodSpec where
  key := "spec"
  get := spec
  set s p := { p with spec := some s }
  ofObj doc _ h := by cases doc <;> first | exact ⟨_, rfl⟩ | cases h
  read _ _ _ h hGet := ofJson_of_optionalField (hGet ▸ (ofJson_obj.mp h).2.1)
  write _ _ _ _ h hValue := by
    rw [ofJson_obj] at h ⊢
    simp_all [optionalField_put, field_put, readOptional_of_ofJson hValue]

theorem PodTemplateSpec.ofJson_obj {members : List (String × Json)} {t : PodTemplateSpec} :
    ofJson (.obj members) = some t ↔
    optionalField "metadata" members = some t.metadata ∧ optionalField "spec" members = some t.spec := by
  cases t
  simp [ofJson, Option.bind_eq_some_iff]

def PodTemplateSpec.metadataField : RecordField PodTemplateSpec ManifestMeta where
  key := "metadata"
  get := metadata
  set m t := { t with metadata := some m }
  ofObj doc _ h := by cases doc <;> first | exact ⟨_, rfl⟩ | cases h
  read _ _ _ h hGet := ofJson_of_optionalField (hGet ▸ (ofJson_obj.mp h).1)
  write _ _ _ _ h hValue := by
    rw [ofJson_obj] at h ⊢
    simp_all [optionalField_put, readOptional_of_ofJson hValue]

theorem DeploymentSpec.ofJson_obj {members : List (String × Json)} {d : DeploymentSpec} :
    ofJson (.obj members) = some d ↔
    field "template" members = some d.template := by
  cases d
  simp [ofJson, Option.bind_eq_some_iff]

def DeploymentSpec.templateField : RecordField DeploymentSpec PodTemplateSpec where
  key := "template"
  get d := some d.template
  set t d := { d with template := t }
  ofObj doc _ h := by cases doc <;> first | exact ⟨_, rfl⟩ | cases h
  read _ _ _ h hGet := ofJson_of_field (hGet ▸ (ofJson_obj.mp h))
  write _ _ _ _ h hValue := by
    rw [ofJson_obj] at h ⊢
    simp_all [field_put]

theorem DeploymentManifest.ofJson_obj {members : List (String × Json)} {d : DeploymentManifest} :
    ofJson (.obj members) = some d ↔
    field "metadata" members = some d.metadata ∧ optionalField "spec" members = some d.spec := by
  cases d
  simp [ofJson, Option.bind_eq_some_iff]

def DeploymentManifest.metadataField : RecordField DeploymentManifest ManifestMeta where
  key := "metadata"
  get d := some d.metadata
  set m d := { d with metadata := m }
  ofObj doc _ h := by cases doc <;> first | exact ⟨_, rfl⟩ | cases h
  read _ _ _ h hGet := ofJson_of_field (hGet ▸ (ofJson_obj.mp h).1)
  write _ _ _ _ h hValue := by
    rw [ofJson_obj] at h ⊢
    simp_all [optionalField_put, field_put]

def DeploymentManifest.specField : RecordField DeploymentManifest DeploymentSpec where
  key := "spec"
  get := spec
  set s d := { d with spec := some s }
  ofObj doc _ h := by cases doc <;> first | exact ⟨_, rfl⟩ | cases h
  read _ _ _ h hGet := ofJson_of_optionalField (hGet ▸ (ofJson_obj.mp h).2)
  write _ _ _ _ h hValue := by
    rw [ofJson_obj] at h ⊢
    simp_all [optionalField_put, field_put, readOptional_of_ofJson hValue]

end SdpK8sInjector.Common
