import SdpK8sInjector.Injector.Operations

/-! # The patch of a deployment

The deployment and the template of its pods get the strategy of the namespace, and
whether the injection is enabled.
-/

namespace SdpK8sInjector.Injector

open Lib Serde Common

def DeploymentManifest.template (d : DeploymentManifest) : Option ManifestMeta :=
  d.spec.bind fun s => s.template.metadata

/-- The annotation of the deployment, or else that of the namespace. -/
def ownOrInherited (deployment : DeploymentManifest) (ns : Option ManifestMeta) (name : String) : Option String :=
  (annotationOf deployment name).or (ns.bind fun ns => annotationOf ns name)

def namespaceStrategy (ns : Option ManifestMeta) : SDPInjectionStrategy :=
  (ns.map fun ns => injectionStrategy ns).getD .enabledByDefault

def deploymentEnabled (deployment : DeploymentManifest) (ns : Option ManifestMeta) : Bool :=
  ((ownOrInherited deployment ns SDP_INJECTOR_ANNOTATION_ENABLED).map fun s => decide (s = "true")).getD
    (decide (namespaceStrategy ns = .enabledByDefault))

def disableInitContainers (deployment : DeploymentManifest) (ns : Option ManifestMeta) : Bool :=
  ((ownOrInherited deployment ns SDP_INJECTOR_ANNOTATION_DISABLE_INIT_CONTAINERS).map fun s =>
    decide (toLowercase s = "true")).getD false

def deploymentOperations (deployment : DeploymentManifest) (ns : Option ManifestMeta) : List (String × Json) :=
  let strategy := SDPInjectionStrategy.toString (namespaceStrategy ns)
  let injectionEnabled := toString (deploymentEnabled deployment ns)
  (if (deployment.metadata.annotations.getD ∅).entries.isEmpty then
    [("/metadata/annotations", toJson (∅ : HashMap String String))] else []) ++
  [(annotationPath "/metadata/annotations" SDP_INJECTOR_ANNOTATION_STRATEGY, toJson strategy),
    (annotationPath "/metadata/annotations" SDP_INJECTOR_ANNOTATION_ENABLED, toJson injectionEnabled)] ++
  (if ((DeploymentManifest.template deployment).bind fun m => m.annotations).isNone then
    [("/spec/template/metadata/annotations", toJson (∅ : HashMap String String))] else []) ++
  [(annotationPath "/spec/template/metadata/annotations" SDP_INJECTOR_ANNOTATION_STRATEGY, toJson strategy),
    (annotationPath "/spec/template/metadata/annotations" SDP_INJECTOR_ANNOTATION_ENABLED, toJson injectionEnabled),
    (annotationPath "/spec/template/metadata/annotations" SDP_INJECTOR_ANNOTATION_DISABLE_INIT_CONTAINERS,
      toJson (toString (disableInitContainers deployment ns)))] ++
  (match ownOrInherited deployment ns SDP_INJECTOR_ANNOTATION_CLIENT_VERSION with
    | some clientVersion =>
      [(annotationPath "/spec/template/metadata/annotations" SDP_INJECTOR_ANNOTATION_CLIENT_VERSION,
        toJson clientVersion)]
    | none => [])

/-- `patch_deployment`, with the patch in place of the response that carries it. -/
def patchDeployment (deployment : Option DeploymentManifest) (ns : Option ManifestMeta) :
    Except SDPServiceError (List AddOperation) :=
  match deployment with
  | some deployment => addOperations (deploymentOperations deployment ns)
  | none => .error "Unable to get Deployment from admission request"

/-- A deployment whose template has metadata. -/
abbrev deploymentOf (m template : ManifestMeta) (pod : Option PodSpec) : DeploymentManifest :=
  ⟨m, some ⟨⟨some template, pod⟩⟩⟩

section Effects

variable {m template : ManifestMeta} {pod : Option PodSpec} {key value path : String}
  {annotations : HashMap String String}

theorem parsePointer_template :
    parsePointer "/spec/template/metadata/annotations" = some ["spec", "template", "metadata", "annotations"] := by
      decide

theorem effect_annotate_template (hKey : '~' ∉ key.toList) :
    Effect [(annotationPath "/spec/template/metadata/annotations" key, toJson value)]
    (deploymentOf m (template.withAnnotations annotations) pod)
      (deploymentOf m (template.withAnnotations (AList.insert key value annotations)) pod) := by
  refine .singleton (parsePointer_annotationPath parsePointer_template (by decide) hKey) ?_
  refine DeploymentManifest.specField.patches_below rfl (DeploymentSpec.templateField.patches_below rfl ?_)
  refine PodTemplateSpec.metadataField.patches_below rfl ?_
  exact ManifestMeta.annotationsField.patches_below rfl (patches_insert key value annotations)

theorem effect_annotated_template : Effect (if template.annotations.isNone then
    [("/spec/template/metadata/annotations", toJson (∅ : HashMap String String))]
      else []) (deploymentOf m template pod)
      (deploymentOf m (template.withAnnotations (template.annotations.getD ∅)) pod) := by
  obtain ⟨name, generateName, ns, annotations⟩ := template
  cases annotations with
  | none =>
    refine .singleton parsePointer_template ?_
    refine DeploymentManifest.specField.patches_below rfl (DeploymentSpec.templateField.patches_below rfl ?_)
    exact PodTemplateSpec.metadataField.patches_below rfl (ManifestMeta.annotationsField.patches_set ∅ _)
  | some annotations => exact .nil _

end Effects

/-- What the patch adds to the annotations of the deployment. -/
def deploymentAnnotations (deployment : DeploymentManifest) (ns : Option ManifestMeta)
    (annotations : HashMap String String) :
    HashMap String String :=
  AList.insert SDP_INJECTOR_ANNOTATION_ENABLED (toString (deploymentEnabled deployment ns)) <|
    AList.insert SDP_INJECTOR_ANNOTATION_STRATEGY (SDPInjectionStrategy.toString (namespaceStrategy ns)) annotations

def initContainersAnnotations (deployment : DeploymentManifest) (ns : Option ManifestMeta)
    (annotations : HashMap String String) : HashMap String String :=
  AList.insert SDP_INJECTOR_ANNOTATION_DISABLE_INIT_CONTAINERS
    (toString (disableInitContainers deployment ns)) annotations

def versionAnnotations (deployment : DeploymentManifest) (ns : Option ManifestMeta)
    (annotations : HashMap String String) :
    HashMap String String :=
  match ownOrInherited deployment ns SDP_INJECTOR_ANNOTATION_CLIENT_VERSION with
  | some clientVersion => AList.insert SDP_INJECTOR_ANNOTATION_CLIENT_VERSION clientVersion annotations
  | none => annotations

/-- The template gets the same, and more that the pods are to know. -/
def templateAnnotations (deployment : DeploymentManifest) (ns : Option ManifestMeta)
    (annotations : HashMap String String) :
    HashMap String String :=
  versionAnnotations deployment ns <| initContainersAnnotations deployment ns <|
    deploymentAnnotations deployment ns annotations

/-- The deployment that the patch makes of one whose template has metadata. -/
def patchedDeployment (m template : ManifestMeta) (pod : Option PodSpec) (ns : Option ManifestMeta) :
    DeploymentManifest :=
  let d := deploymentOf m template pod
  deploymentOf (m.withAnnotations (deploymentAnnotations d ns (m.annotations.getD ∅)))
    (template.withAnnotations (templateAnnotations d ns (template.annotations.getD ∅))) pod

theorem effect_deploymentOperations (m template : ManifestMeta) (pod : Option PodSpec) (ns : Option ManifestMeta) :
    Effect (deploymentOperations (deploymentOf m template pod) ns) (deploymentOf m template pod)
      (patchedDeployment m template pod ns) := by
  let d := deploymentOf m template pod
  let own : ManifestMeta := m.withAnnotations (deploymentAnnotations d ns (m.annotations.getD ∅))
  let shared := initContainersAnnotations d ns (deploymentAnnotations d ns (template.annotations.getD ∅))
  have hOwn : Effect
      [(annotationPath "/metadata/annotations" SDP_INJECTOR_ANNOTATION_STRATEGY,
          toJson (SDPInjectionStrategy.toString (namespaceStrategy ns))),
        (annotationPath "/metadata/annotations" SDP_INJECTOR_ANNOTATION_ENABLED,
          toJson (toString (deploymentEnabled d ns)))]
      (deploymentOf (m.withAnnotations (m.annotations.getD ∅)) template pod) (deploymentOf own template pod) :=
    .cons (effect_annotate DeploymentManifest.metadataField rfl parsePointer_metadata (by decide) (by decide))
      (effect_annotate DeploymentManifest.metadataField rfl parsePointer_metadata (by decide) (by decide))
  have hShared : Effect
      [(annotationPath "/spec/template/metadata/annotations" SDP_INJECTOR_ANNOTATION_STRATEGY,
          toJson (SDPInjectionStrategy.toString (namespaceStrategy ns))),
        (annotationPath "/spec/template/metadata/annotations" SDP_INJECTOR_ANNOTATION_ENABLED,
          toJson (toString (deploymentEnabled d ns))),
        (annotationPath "/spec/template/metadata/annotations" SDP_INJECTOR_ANNOTATION_DISABLE_INIT_CONTAINERS,
          toJson (toString (disableInitContainers d ns)))]
      (deploymentOf own (template.withAnnotations (template.annotations.getD ∅)) pod)
      (deploymentOf own (template.withAnnotations shared) pod) :=
    .cons (effect_annotate_template (by decide)) <| .cons (effect_annotate_template (by decide)) <|
      effect_annotate_template (by decide)
  have hVersion : Effect
      (match ownOrInherited d ns SDP_INJECTOR_ANNOTATION_CLIENT_VERSION with
        | some clientVersion =>
          [(annotationPath "/spec/template/metadata/annotations" SDP_INJECTOR_ANNOTATION_CLIENT_VERSION,
            toJson clientVersion)]
        | none => [])
      (deploymentOf own (template.withAnnotations shared) pod)
      (deploymentOf own (template.withAnnotations (versionAnnotations d ns shared)) pod) := by
    unfold versionAnnotations
    cases ownOrInherited d ns SDP_INJECTOR_ANNOTATION_CLIENT_VERSION with
    | none => exact .nil _
    | some clientVersion => exact effect_annotate_template (by decide)
  have hAnnotated :=
    effect_annotated DeploymentManifest.metadataField "/metadata/annotations" (a := deploymentOf m template pod)
    rfl rfl parsePointer_metadata
  exact (((hAnnotated.append hOwn).append effect_annotated_template).append hShared).append hVersion

/-- Where both annotations have the values that the injector writes, the second one decides. -/
theorem needsInjection_eq {α : Type} [Annotated α] {x : α} (strategy : SDPInjectionStrategy) {enabled : Bool}
    (hStrategy : annotationOf x SDP_INJECTOR_ANNOTATION_STRATEGY = some (SDPInjectionStrategy.toString strategy))
    (hEnabled : annotationOf x SDP_INJECTOR_ANNOTATION_ENABLED = some (toString enabled)) :
    needsInjection x = enabled := by
  simp only [needsInjection, injectionStrategy, isInjectionDisabled, isInjectionEnabled, hStrategy, hEnabled]
  cases strategy <;> cases enabled <;> decide

section Lookup

variable (d : DeploymentManifest) (ns : Option ManifestMeta) (annotations : HashMap String String)

theorem lookup_strategy : (deploymentAnnotations d ns annotations).lookup SDP_INJECTOR_ANNOTATION_STRATEGY =
    some (SDPInjectionStrategy.toString (namespaceStrategy ns)) := by
  rw [deploymentAnnotations, AList.lookup_insert_ne (by decide), AList.lookup_insert]

theorem lookup_enabled : (deploymentAnnotations d ns annotations).lookup SDP_INJECTOR_ANNOTATION_ENABLED =
    some (toString (deploymentEnabled d ns)) := AList.lookup_insert _

theorem lookup_templateAnnotations {key : String} (hInit : key ≠ SDP_INJECTOR_ANNOTATION_DISABLE_INIT_CONTAINERS)
    (hVersion : key ≠ SDP_INJECTOR_ANNOTATION_CLIENT_VERSION) :
    (templateAnnotations d ns annotations).lookup key = (deploymentAnnotations d ns annotations).lookup key := by
  rw [templateAnnotations, versionAnnotations, initContainersAnnotations]
  split
  · rw [AList.lookup_insert_ne hVersion, AList.lookup_insert_ne hInit]
  · rw [AList.lookup_insert_ne hInit]

end Lookup

/-- The annotations by which the injection is meant to be decided. -/
def effective (deployment : DeploymentManifest) (ns : Option ManifestMeta) : ManifestMeta where
  name := none
  generateName := none
  ns := none
  annotations :=
    let strategy :=
      AList.singleton SDP_INJECTOR_ANNOTATION_STRATEGY (SDPInjectionStrategy.toString (namespaceStrategy ns))
    match ownOrInherited deployment ns SDP_INJECTOR_ANNOTATION_ENABLED with
    | some enabled => some (AList.insert SDP_INJECTOR_ANNOTATION_ENABLED enabled strategy)
    | none => some strategy

/-- The patch comes to the decision that the effective annotations stand for, for the deployment and for its pods. -/
structure InjectionAgrees (m template : ManifestMeta) (pod : Option PodSpec) (ns : Option ManifestMeta)
    (ops : List AddOperation) (doc : Json) (patched : DeploymentManifest) (t : ManifestMeta) : Prop where
  returned : patchDeployment (some (deploymentOf m template pod)) ns = .ok ops
  applied : applyPatch ops (toJson (deploymentOf m template pod)) = some doc
  read : ofJson doc = some patched
  hTemplate : DeploymentManifest.template patched = some t
  pods : ∀ p : PodManifest, p.metadata.annotations = t.annotations → needsInjection p = needsInjection patched
  decision : needsInjection patched = needsInjection (effective (deploymentOf m template pod) ns)

/-- The annotation says the same to `patch_deployment`, which only knows `true`, and to `needs_injection`. -/
def ReadAlike (strategy : SDPInjectionStrategy) (enabled : String) : Prop :=
  enabled = "true" ∨ match strategy with
    | .enabledByDefault => toLowercase enabled = "false" ∨ enabled = "0"
    | .disabledByDefault => toLowercase enabled ≠ "true" ∧ enabled ≠ "1"

theorem needsInjection_effective (d : DeploymentManifest) (ns : Option ManifestMeta) :
    deploymentEnabled d ns = needsInjection (effective d ns) ↔
      ∀ enabled, ownOrInherited d ns SDP_INJECTOR_ANNOTATION_ENABLED = some enabled →
        ReadAlike (namespaceStrategy ns) enabled := by
  have hStrategy : injectionStrategy (effective d ns) = namespaceStrategy ns := by
    have hNamed : annotationOf (effective d ns) SDP_INJECTOR_ANNOTATION_STRATEGY =
        some (SDPInjectionStrategy.toString (namespaceStrategy ns)) := by
      simp only [annotationOf, Annotated.annotations, effective, Option.bind_some]
      cases ownOrInherited d ns SDP_INJECTOR_ANNOTATION_ENABLED with
      | none => exact AList.lookup_insert ∅
      | some enabled => exact (AList.lookup_insert_ne (by decide)).trans (AList.lookup_insert ∅)
    simp only [injectionStrategy, hNamed]
    cases namespaceStrategy ns <;> rfl
  have hEnabled : annotationOf (effective d ns) SDP_INJECTOR_ANNOTATION_ENABLED =
      ownOrInherited d ns SDP_INJECTOR_ANNOTATION_ENABLED := by
    simp only [annotationOf, Annotated.annotations, effective, Option.bind_some]
    cases ownOrInherited d ns SDP_INJECTOR_ANNOTATION_ENABLED with
    | none => exact AList.lookup_insert_ne (s := ∅) (by decide)
    | some enabled => exact AList.lookup_insert _
  simp only [needsInjection, hStrategy, isInjectionDisabled, isInjectionEnabled, hEnabled, deploymentEnabled]
  cases ownOrInherited d ns SDP_INJECTOR_ANNOTATION_ENABLED with
  | none => cases namespaceStrategy ns <;> simp
  | some enabled =>
    by_cases hTrue : enabled = "true"
    · subst hTrue
      cases namespaceStrategy ns <;> simp [ReadAlike, toLowercase]
    · cases namespaceStrategy ns <;> simp [ReadAlike, hTrue, or_iff_not_imp_left]

/-- The patched deployment and its pods have the decision of `patch_deployment` itself. -/
theorem exists_agrees_iff (m template : ManifestMeta) (pod : Option PodSpec) (ns : Option ManifestMeta) :
    (∃ ops doc patched t, InjectionAgrees m template pod ns ops doc patched t) ↔
      deploymentEnabled (deploymentOf m template pod) ns =
      needsInjection (effective (deploymentOf m template pod) ns) := by
  let d := deploymentOf m template pod
  let shared := template.annotations.getD ∅
  obtain ⟨ops, hOps, hPatches⟩ := effect_deploymentOperations m template pod ns
  obtain ⟨doc, hApply, hDoc⟩ := hPatches (toJson d) (ofJson_toJson d)
  have hPatched : needsInjection (patchedDeployment m template pod ns) = deploymentEnabled d ns :=
    needsInjection_eq _ (lookup_strategy d ns (m.annotations.getD ∅)) (lookup_enabled d ns (m.annotations.getD ∅))
  have hPods : ∀ p : PodManifest, p.metadata.annotations = some (templateAnnotations d ns shared) →
      needsInjection p = deploymentEnabled d ns := by
    intro p hp
    have hAnnotated : ∀ key, annotationOf p key = (templateAnnotations d ns shared).lookup key := by
      intro key
      change (p.metadata.annotations.getD ∅).lookup key = _
      rw [hp, Option.getD_some]
    refine needsInjection_eq (namespaceStrategy ns) ?_ ?_
    · rw [hAnnotated, lookup_templateAnnotations _ _ _ (by decide) (by decide), lookup_strategy]
    · rw [hAnnotated, lookup_templateAnnotations _ _ _ (by decide) (by decide), lookup_enabled]
  constructor
  · rintro ⟨ops', doc', patched, t, h⟩
    obtain rfl := Except.ok.inj (hOps.symm.trans h.returned)
    obtain rfl := Option.some.inj (hApply.symm.trans h.applied)
    obtain rfl := Option.some.inj (hDoc.symm.trans h.read)
    exact hPatched.symm.trans h.decision
  · intro hDecision
    exact ⟨ops, doc, _, _, hOps, hApply, hDoc, rfl, fun p hp => (hPods p hp).trans hPatched.symm,
      hPatched.trans hDecision⟩

/-- The decision is the one that the effective annotations stand for if `enabled` reads alike in both ways. -/
theorem injection_agrees_iff (m template : ManifestMeta) (pod : Option PodSpec) (ns : Option ManifestMeta) :
    (∃ ops doc patched t, InjectionAgrees m template pod ns ops doc patched t) ↔
      ∀ enabled, ownOrInherited (deploymentOf m template pod) ns SDP_INJECTOR_ANNOTATION_ENABLED = some enabled →
        ReadAlike (namespaceStrategy ns) enabled :=
  (exists_agrees_iff m template pod ns).trans (needsInjection_effective _ ns)

/-- A deployment that is annotated with `True`, in a namespace without annotations. -/
theorem capital_true_disables : ¬∃ ops doc patched t,
    InjectionAgrees ⟨some "web", none, some "ns",
      some (AList.singleton SDP_INJECTOR_ANNOTATION_ENABLED "True"), ∅⟩
      ⟨none, none, none, none, ∅⟩ none (some ⟨some "ns", none, none, none, ∅⟩) ops doc patched t := by
  rw [exists_agrees_iff]
  decide

end SdpK8sInjector.Injector
