import SdpK8sInjector.Common.Manifests
import SdpK8sInjector.Injector.Admission

/-! # The operations of the patches

The paths are texts, in which the slashes of an annotation are escaped.
-/

namespace SdpK8sInjector.Injector

open Lib Serde Common

/-- `json_ptr` -/
def jsonPtr (path : String) : Except SDPServiceError (List String) :=
  match parsePointer path with
  | some tokens => .ok tokens
  | none => .error ("Invalid JSON pointer '" ++ path ++ "'")

/-- `patch_annotation!` -/
def patchAnnotationKey (key : String) : String :=
  .ofList (key.toList.flatMap fun c => if c = '/' then ['~', '1'] else [c])

/-- `format!("{path}/{}", patch_annotation!(key))` -/
def annotationPath (path key : String) : String := path ++ "/" ++ patchAnnotationKey key

theorem unescapeToken_escaped {cs : List Char} (h : '~' ∉ cs) :
    unescapeToken (cs.flatMap fun c => if c = '/' then ['~', '1'] else [c]) = some cs := by
  induction cs with
  | nil => rfl
  | cons c cs ih =>
    obtain ⟨hFirst, hRest⟩ := not_or.mp (mt List.mem_cons.mpr h)
    rw [List.flatMap_cons]
    by_cases hSlash : c = '/'
    · subst hSlash
      simp [unescapeToken, ih hRest]
    · rw [if_neg hSlash, List.singleton_append, unescapeToken.eq_5, ih hRest, Option.map_some]
      all_goals
        intros
        simp_all

/-- The pointer of an annotation has the key itself as its last token. -/
theorem parsePointer_annotationPath {path key : String} {tokens : List String} (hPath : parsePointer path = some tokens)
    (hNonempty : path ≠ "") (hKey : '~' ∉ key.toList) :
    parsePointer (annotationPath path key) = some (tokens ++ [key]) := by
  have hEscaped : '/' ∉ key.toList.flatMap fun c => if c = '/' then ['~', '1'] else [c] := by
    intro hMem
    obtain ⟨c, -, hc⟩ := List.mem_flatMap.mp hMem
    split at hc
    · simp at hc
    · rename_i hNot
      exact hNot (List.mem_singleton.mp hc).symm
  have hSplit : ∀ cs : List Char, (cs ++ '/' :: (patchAnnotationKey key).toList).splitOn '/' =
      cs.splitOn '/' ++ [(patchAnnotationKey key).toList] := by
    intro cs
    rw [List.splitOn_append_cons_self, patchAnnotationKey, String.toList_ofList, List.splitOn_eq_singleton hEscaped]
  have hToken : (unescapeToken (patchAnnotationKey key).toList).map String.ofList = some key := by
    rw [patchAnnotationKey, String.toList_ofList, unescapeToken_escaped hKey, Option.map_some, String.ofList_toList]
  have hChars : (annotationPath path key).toList = path.toList ++ '/' :: (patchAnnotationKey key).toList := by
    simp [annotationPath]
  unfold parsePointer at hPath ⊢
  rw [hChars]
  split at hPath
  · rename_i hNil
    exact absurd (String.toList_inj.mp hNil) hNonempty
  · rename_i cs hSlash
    rw [hSlash]
    simp only [List.cons_append, hSplit, List.mapM_append, hPath, List.mapM_cons, hToken]
    rfl
  · cases hPath

def addOperations (ops : List (String × Json)) : Except SDPServiceError (List AddOperation) :=
  ops.mapM fun (path, value) => (jsonPtr path).map fun tokens => ⟨tokens, value⟩

theorem addOperations_append {ops ops' : List (String × Json)} {parsed parsed' : List AddOperation}
    (h : addOperations ops = .ok parsed) (h' : addOperations ops' = .ok parsed') :
    addOperations (ops ++ ops') = .ok (parsed ++ parsed') := by
  rw [addOperations] at h h' ⊢
  rw [List.mapM_append, h, h']
  rfl

theorem addOperations_cons (path : String) (value : Json) (ops : List (String × Json)) :
    addOperations ((path, value) :: ops) =
      (jsonPtr path).bind fun tokens => (addOperations ops).bind fun rest => .ok (⟨tokens, value⟩ :: rest) := by
  rw [addOperations, List.mapM_cons]
  dsimp only
  cases jsonPtr path with
  | error e => rfl
  | ok tokens => rfl

theorem path_of_addOperations {ops : List (String × Json)} {parsed : List AddOperation}
    (h : addOperations ops = .ok parsed) : ∀ op ∈ parsed, ∃ source ∈ ops,
      parsePointer source.1 = some op.path := by
  induction ops generalizing parsed with
  | nil =>
    cases h
    exact fun op hOp => by cases hOp
  | cons source ops ih =>
    obtain ⟨path, value⟩ := source
    rw [addOperations_cons, jsonPtr] at h
    cases hPath : parsePointer path with
    | none =>
      rw [hPath] at h
      cases h
    | some tokens =>
      rw [hPath] at h
      cases hRest : addOperations ops with
      | error e =>
        rw [hRest] at h
        cases h
      | ok rest =>
        rw [hRest] at h
        cases h
        intro op hOp
        rcases List.mem_cons.mp hOp with rfl | hOp
        · exact ⟨(path, value), List.mem_cons_self, hPath⟩
        · obtain ⟨source, hSource, hFound⟩ := ih hRest op hOp
          exact ⟨source, List.mem_cons_of_mem _ hSource, hFound⟩

variable {α : Type} [Serde α] {a b c : α} {ops ops' : List (String × Json)}

/-- The paths are in order, and the patch turns the value `a` into `b`. -/
def Effect (ops : List (String × Json)) (a b : α) : Prop :=
  ∃ parsed, addOperations ops = .ok parsed ∧ Patches parsed a b

namespace Effect

theorem nil (a : α) : Effect [] a a := ⟨[], rfl, .nil a⟩

theorem append (h : Effect ops a b) (h' : Effect ops' b c) : Effect (ops ++ ops') a c := by
  obtain ⟨parsed, hParsed, hPatches⟩ := h
  obtain ⟨parsed', hParsed', hPatches'⟩ := h'
  exact ⟨parsed ++ parsed', addOperations_append hParsed hParsed', hPatches.append hPatches'⟩

theorem cons {op : String × Json} (h : Effect [op] a b) (h' : Effect ops b c) : Effect (op :: ops) a c := h.append h'

theorem singleton {path : String} {tokens : List String} {value : Json} (hPath : parsePointer path = some tokens)
    (h : Patches [⟨tokens, value⟩] a b) : Effect [(path, value)] a b := by
  refine ⟨[⟨tokens, value⟩], ?_, h⟩
  simp only [addOperations, List.mapM_cons, List.mapM_nil, jsonPtr, hPath]
  rfl

end Effect

theorem parsePointer_metadata : parsePointer "/metadata/annotations" = some ["metadata", "annotations"] := by decide

section Annotations

variable (metadata : RecordField α ManifestMeta) {m : ManifestMeta} {annotations : HashMap String String}
  {path key value : String}

theorem effect_annotate (hGet : metadata.get a = some (m.withAnnotations annotations))
    (hPath : parsePointer path = some [metadata.key, "annotations"]) (hNonempty : path ≠ "")
    (hKey : '~' ∉ key.toList) :
    Effect [(annotationPath path key, toJson value)] a
      (metadata.set (m.withAnnotations (AList.insert key value annotations)) a) := by
  refine .singleton (parsePointer_annotationPath hPath hNonempty hKey) (metadata.patches_below hGet ?_)
  exact ManifestMeta.annotationsField.patches_below rfl (patches_insert key value annotations)

variable (path) in
/-- There are annotations to add to, once there is an empty map where there were none. -/
theorem effect_annotated (hGet : metadata.get a = some m) (hSet : metadata.set m a = a)
    (hPath : parsePointer path = some [metadata.key, "annotations"]) :
    Effect (if (m.annotations.getD ∅).entries.isEmpty then [(path, toJson (∅ : HashMap String String))] else []) a
      (metadata.set (m.withAnnotations (m.annotations.getD ∅)) a) := by
  split
  · rename_i hEmpty
    have hNone : m.annotations.getD ∅ = ∅ := AList.ext (List.isEmpty_iff.mp hEmpty)
    rw [hNone]
    exact .singleton hPath (metadata.patches_below hGet (ManifestMeta.annotationsField.patches_set ∅ m))
  · rename_i hSome
    obtain ⟨name, generateName, ns, annotations, other⟩ := m
    cases annotations with
    | none => exact absurd rfl hSome
    | some annotations =>
      change Effect [] a (metadata.set ⟨name, generateName, ns, some annotations, other⟩ a)
      rw [hSet]
      exact .nil a

end Annotations

end SdpK8sInjector.Injector
