import SdpK8sInjector.Common.Service

/-! # Which objects take part in the injection

Namespaces are enabled by a label, and the objects in them by annotations.
-/

namespace SdpK8sInjector.Common

open Lib

class Annotated (α : Type) where
  annotations : α → Option (HashMap String String)

class Candidate (α : Type) where
  isCandidate : α → Bool

def SDP_INJECTOR_ANNOTATION_STRATEGY : String := "k8s.appgate.com/sdp-injector.strategy"

def SDP_INJECTOR_ANNOTATION_ENABLED : String := "k8s.appgate.com/sdp-injector.enabled"

def SDP_INJECTOR_LABEL : String := "sdp-injection"

/-- Outside of ASCII no letter has one of the small letters compared here. -/
def toLowercase (s : String) : String := String.ofList (s.toList.map Char.toLower)

inductive SDPInjectionStrategy where
  | enabledByDefault
  | disabledByDefault
deriving DecidableEq

section Annotated

variable {α : Type} [Annotated α]

def annotationOf (entity : α) (name : String) : Option String :=
  (Annotated.annotations entity).bind (AList.lookup name)

def injectionStrategy (entity : α) : SDPInjectionStrategy :=
  let named := (annotationOf entity SDP_INJECTOR_ANNOTATION_STRATEGY).bind fun s =>
    if toLowercase s = "enabledbydefault" then some SDPInjectionStrategy.enabledByDefault
    else if toLowercase s = "disabledbydefault" then some .disabledByDefault
    else none
  named.getD <|
    if (annotationOf entity SDP_INJECTOR_ANNOTATION_ENABLED).any fun ann => toLowercase ann = "disabled" then
      .disabledByDefault
    else .enabledByDefault

def isInjectionDisabled (entity : α) : Bool :=
  (annotationOf entity SDP_INJECTOR_ANNOTATION_ENABLED).any fun v => toLowercase v = "false" ∨ v = "0"

def isInjectionEnabled (entity : α) : Bool :=
  (annotationOf entity SDP_INJECTOR_ANNOTATION_ENABLED).any fun v => toLowercase v = "true" ∨ v = "1"

def needsInjection (entity : α) : Bool :=
  match injectionStrategy entity with
  | .enabledByDefault => !isInjectionDisabled entity
  | .disabledByDefault => isInjectionEnabled entity

end Annotated

instance : Annotated Deployment := ⟨fun d => some d.metadata.annotations⟩

instance : Annotated SDPService := ⟨fun s => some s.metadata.annotations⟩

instance : Candidate Deployment := ⟨needsInjection⟩

instance : Candidate SDPService := ⟨needsInjection⟩

instance : Candidate ServiceCandidate where
  isCandidate
    | .deployment d => Candidate.isCandidate d
    | .sdpService s => Candidate.isCandidate s

structure Namespace where
  labels : Labels
deriving DecidableEq

/-- The label is compared without regard to case. -/
def Namespace.isEnabled (ns : Namespace) : Bool :=
  (ns.labels.lookup SDP_INJECTOR_LABEL).any fun s => toLowercase s = "enabled"

end SdpK8sInjector.Common
