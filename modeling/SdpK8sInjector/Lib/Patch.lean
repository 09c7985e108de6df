import SdpK8sInjector.Lib.Json

/-! # What a patch does to the value of a document

A document that is patched still has a value, and the operations act on the value
as updates of its fields, lists and maps.
-/

namespace SdpK8sInjector.Lib

open Serde

variable {α β : Type} [Serde α] [Serde β]

/-- The patch applies to every document of the value `a`, and its result has the value `b`. -/
def Patches (ops : List AddOperation) (a b : α) : Prop :=
  ∀ doc, ofJson doc = some a → ∃ doc', applyPatch ops doc = some doc' ∧ ofJson doc' = some b

namespace Patches

variable {ops ops' : List AddOperation} {a b c : α}

theorem nil (a : α) : Patches [] a a := fun doc h => ⟨doc, rfl, h⟩

theorem append (h : Patches ops a b) (h' : Patches ops' b c) : Patches (ops ++ ops') a c := by
  intro doc hDoc
  obtain ⟨doc₁, hFirst, hDoc₁⟩ := h doc hDoc
  obtain ⟨doc₂, hSecond, hDoc₂⟩ := h' doc₁ hDoc₁
  exact ⟨doc₂, by rw [applyPatch_append, hFirst, Option.bind_some, hSecond], hDoc₂⟩

theorem cons {op : AddOperation} (h : Patches [op] a b) (h' : Patches ops b c) : Patches (op :: ops) a c := h.append h'

/-- Operations that each turn one value of a sequence into the next. -/
theorem singleton_iff {path : List String} {value : Json} : Patches [⟨path, value⟩] a b ↔
    ∀ doc, ofJson doc = some a → ∃ doc', Json.add value path doc = some doc' ∧ ofJson doc' = some b := by
  have hApply : ∀ doc, applyPatch [⟨path, value⟩] doc = Json.add value path doc := fun doc => by
    simp [applyPatch]
  simp only [Patches, hApply]

end Patches

/-- A field of a record: how it is read from the members of an object, and what is read once it is put there. -/
structure RecordField (α β : Type) [Serde α] [Serde β] where
  key : String
  get : α → Option β
  set : β → α → α
  ofObj : ∀ doc (a : α), ofJson doc = some a → ∃ members, doc = .obj members
  read : ∀ members (a : α) b, ofJson (.obj members) = some a → get a = some b →
    ∃ j, members.lookup key = some j ∧ ofJson j = some b
  write : ∀ members (a : α) j b, ofJson (.obj members) = some a → ofJson j = some b →
    ofJson (.obj (Json.put key j members)) = some (set b a)

namespace RecordField

variable (field : RecordField α β)

theorem patches_set (b : β) (a : α) : Patches [⟨[field.key], toJson b⟩] a (field.set b a) := by
  rw [Patches.singleton_iff]
  intro doc hDoc
  obtain ⟨members, rfl⟩ := field.ofObj doc a hDoc
  exact ⟨_, rfl, field.write members a _ b hDoc (ofJson_toJson b)⟩

/-- An operation on the value of a field, as an operation on the record. -/
theorem patches_below {token : String} {rest : List String} {value : Json} {a : α}
    {b b' : β} (hGet : field.get a = some b)
    (h : Patches [⟨token :: rest, value⟩] b b') :
    Patches [⟨field.key :: token :: rest, value⟩] a (field.set b' a) := by
  rw [Patches.singleton_iff] at h ⊢
  intro doc hDoc
  obtain ⟨members, rfl⟩ := field.ofObj doc a hDoc
  obtain ⟨j, hLookup, hValue⟩ := field.read members a b hDoc hGet
  obtain ⟨j', hAdd, hValue'⟩ := h j hValue
  exact ⟨_, Json.add_below hLookup hAdd, field.write members a j' b' hDoc hValue'⟩

end RecordField

theorem patches_push (x : α) (xs : List α) : Patches [⟨["-"], toJson x⟩] xs (xs ++ [x]) := by
  rw [Patches.singleton_iff]
  intro doc hDoc
  cases doc with
  | arr items =>
    have hItems : items.mapM ofJson = some xs := hDoc
    refine ⟨.arr (items ++ [toJson x]), rfl, ?_⟩
    change (items ++ [toJson x]).mapM ofJson = some (xs ++ [x])
    rw [List.mapM_append, hItems]
    simp
  | _ => cases hDoc

theorem patches_insert (key s : String) (m : HashMap String String) :
    Patches [⟨[key], toJson s⟩] m (AList.insert key s m) := by
  rw [Patches.singleton_iff]
  intro doc hDoc
  cases doc with
  | obj members => exact ⟨_, rfl, stringMap_put hDoc key s⟩
  | _ => cases hDoc

end SdpK8sInjector.Lib
