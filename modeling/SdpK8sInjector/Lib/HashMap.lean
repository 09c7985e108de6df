import Mathlib.Data.List.AList

/-! # Hash maps as association lists with distinct keys

The order in which a hash map is walked is unspecified. Every walk therefore
goes through an `IterationOrder`, an arbitrary rearrangement of the entries.
-/

namespace SdpK8sInjector.Lib

abbrev HashMap (κ ν : Type) := AList (fun _ : κ => ν)

abbrev HashSet (κ : Type) := HashMap κ Unit

/-- Mathlib's instance casts along an equation and does not evaluate. -/
instance HashMap.decidableEq {κ ν : Type} [DecidableEq κ] [DecidableEq ν] : DecidableEq (HashMap κ ν) :=
  fun a b => decidable_of_iff (a.entries = b.entries) AList.ext_iff.symm

structure IterationOrder where
  walk : {α : Type} → List α → List α
  perm : ∀ {α : Type} (xs : List α), (walk xs).Perm xs

def IterationOrder.asStored : IterationOrder where
  walk xs := xs
  perm := List.Perm.refl

@[simp] theorem IterationOrder.mem_walk (order : IterationOrder) {α : Type} {xs : List α} {x : α} :
    x ∈ order.walk xs ↔ x ∈ xs := (order.perm xs).mem_iff

theorem IterationOrder.nodup_walk (order : IterationOrder) {α : Type} {xs : List α} (h : xs.Nodup) :
    (order.walk xs).Nodup := (order.perm xs).nodup_iff.mpr h

@[simp] theorem IterationOrder.walk_nil (order : IterationOrder) {α : Type} :
    order.walk ([] : List α) = [] := (order.perm []).eq_nil

@[simp] theorem IterationOrder.length_walk (order : IterationOrder) {α : Type} (xs : List α) :
    (order.walk xs).length = xs.length := (order.perm xs).length_eq

variable {κ ν : Type} [DecidableEq κ]

namespace HashMap

def values (m : HashMap κ ν) : List ν := m.entries.map Sigma.snd

theorem mem_values {m : HashMap κ ν} {v : ν} : v ∈ values m ↔ ∃ k, m.lookup k = some v := by
  simp only [values, List.mem_map, Sigma.exists, ← Option.mem_def, AList.mem_lookup_iff]
  constructor
  · rintro ⟨k, w, h, rfl⟩
    exact ⟨k, h⟩
  · rintro ⟨k, h⟩
    exact ⟨k, v, h, rfl⟩

omit [DecidableEq κ] in
theorem length_values (m : HashMap κ ν) : (values m).length = m.keys.length := by
  simp [values, AList.keys, List.keys]

theorem mem_iff_exists_lookup {m : HashMap κ ν} {k : κ} : k ∈ m ↔ ∃ v, m.lookup k = some v := by
  rw [← AList.lookup_isSome, Option.isSome_iff_exists]

/-- Distinct keys: a map between the values that recovers the key is injective on them. -/
theorem values_nodup_map {β : Type} (m : HashMap κ ν) (f : ν → β) (g : β → κ)
    (h : ∀ k v, m.lookup k = some v → g (f v) = k) : ((values m).map f).Nodup := by
  have hKeys : ((values m).map f).map g = m.keys := by
    simp only [values, List.map_map]
    refine List.map_congr_left fun e he => ?_
    exact h e.1 e.2 (Option.mem_def.mp (AList.mem_lookup_iff.mpr he))
  exact List.Nodup.of_map g (hKeys ▸ m.keys_nodup)

def eraseAll (m : HashMap κ ν) (ks : List κ) : HashMap κ ν := ks.foldl (fun m k => m.erase k) m

@[simp] theorem eraseAll_nil (m : HashMap κ ν) : eraseAll m [] = m := rfl

@[simp] theorem eraseAll_cons (m : HashMap κ ν) (k : κ) (ks : List κ) :
    eraseAll m (k :: ks) = eraseAll (m.erase k) ks := rfl

theorem eraseAll_append (m : HashMap κ ν) (ks ks' : List κ) :
    eraseAll m (ks ++ ks') = eraseAll (eraseAll m ks) ks' := List.foldl_append

theorem lookup_erase_eq_ite (m : HashMap κ ν) (k k' : κ) :
    (m.erase k').lookup k = if k = k' then none else m.lookup k := by
  by_cases h : k = k'
  · subst h
    simp
  · simp [h]

theorem lookup_insert_eq_ite (m : HashMap κ ν) (k k' : κ) (v : ν) :
    (AList.insert k' v m).lookup k = if k = k' then some v else m.lookup k := by
  by_cases h : k = k'
  · subst h
    simp
  · simp [h]

theorem lookup_eraseAll (m : HashMap κ ν) (ks : List κ) (k : κ) :
    (eraseAll m ks).lookup k = if k ∈ ks then none else m.lookup k := by
  induction ks generalizing m with
  | nil => simp
  | cons k' ks ih =>
    rw [eraseAll_cons, ih, lookup_erase_eq_ite]
    by_cases hMem : k ∈ ks <;> by_cases hEq : k = k' <;> simp [hMem, hEq]

theorem erase_insert_self (m : HashMap κ ν) (k : κ) (v : ν) : (AList.insert k v m).erase k = m.erase k :=
  AList.ext (List.kerase_cons_eq rfl)

theorem erase_insert_of_ne (m : HashMap κ ν) {k k' : κ} (v : ν) (h : k' ≠ k) :
    (AList.insert k v m).erase k' = AList.insert k v (m.erase k') := by
  refine AList.ext ((List.kerase_cons_ne h).trans ?_)
  rw [AList.entries_insert]
  exact congrArg _ (List.kerase_comm ..)

theorem insert_erase_self (m : HashMap κ ν) (k : κ) (v : ν) :
    AList.insert k v (m.erase k) = AList.insert k v m := by
  have hErased : k ∉ m.erase k := by simp [AList.mem_erase]
  refine AList.ext ?_
  rw [AList.entries_insert_of_notMem hErased, AList.entries_insert]
  rfl

end HashMap

namespace HashSet

def ofList (xs : List κ) : HashSet κ := xs.foldl (fun s x => AList.insert x () s) ∅

theorem mem_foldl_insert (xs : List κ) (s : HashSet κ) (x : κ) :
    x ∈ xs.foldl (fun s x => AList.insert x () s) s ↔ x ∈ xs ∨ x ∈ s := by
  induction xs generalizing s with
  | nil => simp
  | cons y ys ih =>
    rw [List.foldl_cons, ih, AList.mem_insert, List.mem_cons]
    tauto

@[simp] theorem mem_ofList {xs : List κ} {x : κ} : x ∈ ofList xs ↔ x ∈ xs := by
  simp [ofList, mem_foldl_insert]

/-- The elements of `s` outside `t`, in the order in which `s` stores them. -/
def difference (s t : HashSet κ) : List κ := s.keys.filter (fun k => k ∉ t)

@[simp] theorem mem_difference {s t : HashSet κ} {k : κ} : k ∈ difference s t ↔ k ∈ s ∧ k ∉ t := by
  simp [difference, AList.mem_keys]

theorem difference_nodup (s t : HashSet κ) : (difference s t).Nodup := s.keys_nodup.filter _

end HashSet

end SdpK8sInjector.Lib
