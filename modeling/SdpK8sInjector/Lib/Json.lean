import Mathlib.Data.List.Basic
import Mathlib.Data.String.Basic
import SdpK8sInjector.Lib.HashMap

/-! # JSON documents, pointers into them, and patches that add

A pointer is a list of reference tokens. What is added goes to the place that the
last token names in the object or the array that the others lead to.
-/

namespace SdpK8sInjector.Lib

inductive Json where
  | null
  | bool (b : Bool)
  | num (n : Int)
  | str (s : String)
  | arr (items : List Json)
  | obj (members : List (String × Json))

namespace Json

/-- A member of that name is replaced. -/
def put (key : String) (value : Json) (members : List (String × Json)) : List (String × Json) :=
  (key, value) :: members.filter fun m => m.1 != key

theorem lookup_put (key k : String) (value : Json) (members : List (String × Json)) :
    (put key value members).lookup k = if k = key then some value else members.lookup k := by
  have hFilter : k ≠ key → (members.filter fun m => m.1 != key).lookup k = members.lookup k := by
    intro hKey
    induction members with
    | nil => rfl
    | cons m members ih =>
      obtain ⟨k', v⟩ := m
      by_cases hSame : k' = key
      · have hNot : (k == k') = false := beq_eq_false_iff_ne.mpr (hSame ▸ hKey)
        simp [hSame, hSame ▸ hNot, ih, List.lookup_cons]
      · simp [hSame, List.lookup_cons, ih]
  rw [put, List.lookup_cons]
  by_cases hKey : k = key
  · simp [hKey]
  · simp [hKey, beq_eq_false_iff_ne.mpr hKey, hFilter hKey]

/-- Array indices have no leading zeros. -/
def index (token : String) : Option Nat :=
  if token = "0" then some 0
  else if token.toList.all Char.isDigit && token.toList.head? != some '0' then token.toNat? else none

def child (token : String) : Json → Option Json
  | .obj members => members.lookup token
  | .arr items => (index token).bind fun i => items[i]?
  | _ => none

/-- A hyphen stands for the place after the last item. -/
def addChild (value : Json) (token : String) : Json → Option Json
  | .obj members => some (.obj (put token value members))
  | .arr items =>
    if token = "-" then some (.arr (items ++ [value]))
    else (index token).bind fun i => if i ≤ items.length then some (.arr (items.insertIdx i value)) else none
  | _ => none

def replaceChild (value : Json) (token : String) : Json → Json
  | .obj members => .obj (put token value members)
  | .arr items => ((index token).map fun i => Json.arr (items.set i value)).getD (.arr items)
  | doc => doc

def add (value : Json) : List String → Json → Option Json
  | [], _ => some value
  | [token], doc => addChild value token doc
  | token :: rest, doc => (child token doc).bind fun c => (add value rest c).map fun c => replaceChild c token doc

/-- What is added below a member of an object stays below it. -/
theorem add_below {value c c' : Json} {members : List (String × Json)} {key token : String} {rest : List String}
    (hChild : members.lookup key = some c) (hAdd : add value (token :: rest) c = some c') :
    add value (key :: token :: rest) (.obj members) = some (.obj (put key c' members)) := by
  simp [add, child, hChild, hAdd, replaceChild]

end Json

/-- The operation `add` of a patch. -/
structure AddOperation where
  path : List String
  value : Json

def applyPatch (ops : List AddOperation) (doc : Json) : Option Json :=
  ops.foldlM (fun doc op => Json.add op.value op.path doc) doc

theorem applyPatch_append (ops ops' : List AddOperation) (doc : Json) :
    applyPatch (ops ++ ops') doc = (applyPatch ops doc).bind (applyPatch ops') := List.foldlM_append

/-- What is added below one member of an object leaves the others. -/
theorem Json.add_frame {value doc' : Json} {members : List (String × Json)} {key token : String} {rest : List String}
    (hKey : key ≠ token) (hAdd : Json.add value (token :: rest) (.obj members) = some doc') :
    ∃ members', doc' = .obj members' ∧ members'.lookup key = members.lookup key := by
  have hPut : ∀ c, (Json.put token c members).lookup key = members.lookup key := fun c => by
    rw [Json.lookup_put, if_neg hKey]
  cases rest with
  | nil =>
    cases hAdd
    exact ⟨_, rfl, hPut value⟩
  | cons token' rest =>
    obtain ⟨c, -, hChild⟩ := Option.bind_eq_some_iff.mp hAdd
    obtain ⟨c', -, rfl⟩ := Option.map_eq_some_iff.mp hChild
    exact ⟨_, rfl, hPut c'⟩

theorem Json.applyPatch_frame {ops : List AddOperation} {key : String}
    (hOps : ∀ op ∈ ops, ∃ token rest, op.path = token :: rest ∧ key ≠ token)
    {members : List (String × Json)} {doc' : Json}
    (hApply : applyPatch ops (.obj members) = some doc') :
    ∃ members', doc' = .obj members' ∧ members'.lookup key = members.lookup key := by
  induction ops generalizing members with
  | nil =>
    cases hApply
    exact ⟨members, rfl, rfl⟩
  | cons op ops ih =>
    obtain ⟨token, rest, hPath, hKey⟩ := hOps op List.mem_cons_self
    rw [applyPatch, List.foldlM_cons] at hApply
    obtain ⟨doc, hFirst, hRest⟩ := Option.bind_eq_some_iff.mp hApply
    rw [hPath] at hFirst
    obtain ⟨members₁, rfl, hLookup₁⟩ := Json.add_frame hKey hFirst
    obtain ⟨members', rfl, hLookup'⟩ := ih (fun op hOp => hOps op (List.mem_cons_of_mem _ hOp)) hRest
    exact ⟨members', rfl, hLookup'.trans hLookup₁⟩

/-- The reference token that the text between two slashes of a pointer stands for. -/
def unescapeToken : List Char → Option (List Char)
  | [] => some []
  | '~' :: '0' :: cs => (unescapeToken cs).map ('~' :: ·)
  | '~' :: '1' :: cs => (unescapeToken cs).map ('/' :: ·)
  | '~' :: _ => none
  | c :: cs => (unescapeToken cs).map (c :: ·)

def parsePointer (path : String) : Option (List String) :=
  match path.toList with
  | [] => some []
  | '/' :: cs => (cs.splitOn '/').mapM fun token => (unescapeToken token).map String.ofList
  | _ => none

/-- Values that are written as JSON and read back. None of them is read from `null`. -/
class Serde (α : Type) where
  toJson : α → Json
  ofJson : Json → Option α
  ofJson_null : ofJson .null = none
  ofJson_toJson : ∀ a, ofJson (toJson a) = some a

namespace Serde

attribute [simp] ofJson_null ofJson_toJson

instance : Serde Bool where
  toJson := .bool
  ofJson
    | .bool b => some b
    | _ => none
  ofJson_null := rfl
  ofJson_toJson _ := rfl

instance : Serde String where
  toJson := .str
  ofJson
    | .str s => some s
    | _ => none
  ofJson_null := rfl
  ofJson_toJson _ := rfl

/-- The members of an object whose values are all text. -/
def stringMap : List (String × Json) → Option (HashMap String String)
  | [] => some ∅
  | (key, .str s) :: members => (stringMap members).map fun m => AList.insert key s m
  | _ => none

def stringMembers (m : HashMap String String) : List (String × Json) := m.entries.map fun e => (e.1, .str e.2)

theorem stringMap_stringMembers (m : HashMap String String) : stringMap (stringMembers m) = some m := by
  obtain ⟨entries, hKeys⟩ := m
  induction entries with
  | nil => rfl
  | cons e entries ih =>
    obtain ⟨hNew, hRest⟩ := List.nodupKeys_cons.mp hKeys
    have ih := ih hRest
    simp only [stringMembers, List.map_cons, stringMap] at ih ⊢
    rw [ih, Option.map_some]
    exact congrArg some (AList.mk_cons_eq_insert _ _ hKeys).symm

instance : Serde (HashMap String String) where
  toJson m := .obj (stringMembers m)
  ofJson
    | .obj members => stringMap members
    | _ => none
  ofJson_null := rfl
  ofJson_toJson := stringMap_stringMembers

theorem stringMap_filter {members : List (String × Json)} {m : HashMap String String} (h : stringMap members = some m)
    (key : String) : stringMap (members.filter fun e => e.1 != key) = some (m.erase key) := by
  induction members generalizing m with
  | nil =>
    cases h
    rfl
  | cons e members ih =>
    obtain ⟨k, value⟩ := e
    cases value with
    | str s =>
      obtain ⟨m', hRest, rfl⟩ := Option.map_eq_some_iff.mp h
      by_cases hKey : k = key
      · subst hKey
        rw [List.filter_cons_of_neg (by simp), ih hRest, HashMap.erase_insert_self]
      · rw [List.filter_cons_of_pos (by simp [hKey]), stringMap, ih hRest, Option.map_some,
          HashMap.erase_insert_of_ne _ _ (Ne.symm hKey)]
    | _ => cases h

theorem stringMap_put {members : List (String × Json)} {m : HashMap String String} (h : stringMap members = some m)
    (key s : String) : stringMap (Json.put key (.str s) members) = some (AList.insert key s m) := by
  rw [Json.put, stringMap, stringMap_filter h, Option.map_some, HashMap.insert_erase_self]

variable {α : Type} [Serde α]

instance : Serde (List α) where
  toJson xs := .arr (xs.map toJson)
  ofJson
    | .arr items => items.mapM ofJson
    | _ => none
  ofJson_null := rfl
  ofJson_toJson xs := by
    induction xs with
    | nil => rfl
    | cons x xs ih =>
      simp only [List.map_cons, List.mapM_cons, ofJson_toJson] at ih ⊢
      rw [ih]
      rfl

/-- The members of a record, without those that have no value. -/
def record (fields : List (String × Option Json)) : List (String × Json) :=
  fields.filterMap fun (key, value) => value.map fun v => (key, v)

@[simp] theorem lookup_record_nil (key : String) : (record []).lookup key = none := rfl

@[simp] theorem lookup_record_cons (key k : String) (value : Option Json) (fields : List (String × Option Json)) :
    (record ((k, value) :: fields)).lookup key =
      if key = k then value.or ((record fields).lookup key) else (record fields).lookup key := by
  cases value with
  | none => simp [record]
  | some v =>
    change ((k, v) :: record fields).lookup key = _
    rw [List.lookup_cons]
    by_cases hKey : key = k
    · simp [hKey]
    · simp [hKey, beq_eq_false_iff_ne.mpr hKey]

/-- The members of an object under other names than the known ones. -/
structure Others (known : List String) where
  members : List (String × Json)
  unknown : ∀ m ∈ members, m.1 ∉ known

namespace Others

variable {known : List String}

instance : EmptyCollection (Others known) := ⟨⟨[], by simp⟩⟩

def of (known : List String) (members : List (String × Json)) : Others known where
  members := members.filter fun m => decide (m.1 ∉ known)
  unknown m hm := by simpa using (List.mem_filter.mp hm).2

/-- They are as they were if a known member is put. -/
theorem of_put {key : String} (hKey : key ∈ known) (j : Json) (members : List (String × Json)) :
    of known (Json.put key j members) = of known members := by
  have hFilter : (Json.put key j members).filter (fun m => decide (m.1 ∉ known)) =
      members.filter fun m => decide (m.1 ∉ known) := by
    rw [Json.put, List.filter_cons_of_neg (by simpa using hKey), List.filter_filter]
    refine List.filter_congr fun m _ => ?_
    by_cases hSame : m.1 = key
    · simp [hSame, hKey]
    · simp [hSame]
  rw [of, of, mk.injEq, hFilter]

theorem lookup_members {key : String} (hKey : key ∈ known) (others : Others known) :
    others.members.lookup key = none := by
  rw [List.lookup_eq_none_iff]
  exact fun m hm => bne_iff_ne.mpr fun hSame => others.unknown m hm (hSame ▸ hKey)

theorem of_append {members : List (String × Json)} (hKnown : ∀ m ∈ members, m.1 ∈ known)
    (others : Others known) :
    of known (members ++ others.members) = others := by
  have hNone : members.filter (fun m => decide (m.1 ∉ known)) = [] :=
    List.filter_eq_nil_iff.mpr fun m hm => by simpa using hKnown m hm
  have hAll : others.members.filter (fun m => decide (m.1 ∉ known)) = others.members :=
    List.filter_eq_self.mpr fun m hm => decide_eq_true (others.unknown m hm)
  obtain ⟨members', hUnknown⟩ := others
  rw [of, mk.injEq, List.filter_append, hNone, List.nil_append]
  exact hAll

end Others

/-- The members of a record that has other fields too. -/
def recordWith {known : List String} (fields : List (String × Option Json)) (others : Others known) :
    List (String × Json) :=
  record fields ++ others.members

theorem lookup_recordWith {known : List String} {key : String} (hKey : key ∈ known)
    (fields : List (String × Option Json))
    (others : Others known) : (recordWith fields others).lookup key = (record fields).lookup key := by
  rw [recordWith, List.lookup_append, others.lookup_members hKey, Option.or_none]

theorem of_recordWith {known : List String} {fields : List (String × Option Json)}
    (hKnown : ∀ f ∈ fields, f.1 ∈ known)
    (others : Others known) : Others.of known (recordWith fields others) = others := by
  refine Others.of_append (fun m hm => ?_) others
  obtain ⟨f, hf, hMember⟩ := List.mem_filterMap.mp hm
  obtain ⟨v, -, rfl⟩ := Option.map_eq_some_iff.mp hMember
  exact hKnown f hf

/-- A required field. -/
def field (key : String) (members : List (String × Json)) : Option α := (members.lookup key).bind ofJson

/-- The value of a field that may be missing, or `null`. -/
def readOptional : Option Json → Option (Option α)
  | none | some .null => some none
  | some j => (ofJson j).map some

theorem readOptional_of_ofJson {j : Json} {a : α} (h : ofJson j = some a) : readOptional (some j) = some (some a) := by
  cases j with
  | null => simp at h
  | _ => simp [readOptional, h]

@[simp] theorem readOptional_map_toJson (a : Option α) : readOptional (a.map toJson) = some a := by
  cases a with
  | none => rfl
  | some a => exact readOptional_of_ofJson (ofJson_toJson a)

def optionalField (key : String) (members : List (String × Json)) : Option (Option α) :=
  readOptional (members.lookup key)

theorem ofJson_of_optionalField {key : String} {members : List (String × Json)} {a : α}
    (h : optionalField key members = some (some a)) : ∃ j, members.lookup key = some j ∧ ofJson j = some a := by
  unfold optionalField at h
  cases hLookup : members.lookup key with
  | none => simp [hLookup, readOptional] at h
  | some j => cases j <;> simp_all [readOptional]

theorem ofJson_of_field {key : String} {members : List (String × Json)} {a : α} (h : field key members = some a) :
    ∃ j, members.lookup key = some j ∧ ofJson j = some a := Option.bind_eq_some_iff.mp h

theorem optionalField_put (key k : String) (j : Json) (members : List (String × Json)) :
    (optionalField k (Json.put key j members) : Option (Option α)) =
      if k = key then readOptional (some j) else optionalField k members := by
  rw [optionalField, Json.lookup_put]
  split <;> rfl

theorem field_put (key k : String) (j : Json) (members : List (String × Json)) :
    (field k (Json.put key j members) : Option α) = if k = key then ofJson j else field k members := by
  rw [field, Json.lookup_put]
  split <;> rfl

end Serde

end SdpK8sInjector.Lib
