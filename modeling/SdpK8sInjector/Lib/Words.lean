import Mathlib.Data.List.DropRight

/-! # The words of a text

A word is a longest run of characters none of which is a separator. Separators
at the ends of a text can be cut off without a loss.
-/

namespace SdpK8sInjector.Lib

variable {α : Type}

def words (sep : α → Bool) (cs : List α) : List (List α) := (cs.splitOnP sep).filter fun w => !w.isEmpty

/-- Separators are cut off both ends. -/
def strip (sep : α → Bool) (cs : List α) : List α := (cs.dropWhile sep).rdropWhile sep

variable {sep : α → Bool} {cs : List α}

/-- A text is one run, or it is a run, a separator and a shorter text. -/
theorem runs_induction (sep : α → Bool) {P : List α → Prop}
    (hRun : ∀ cs, (∀ c ∈ cs, sep c = false) → P cs)
    (hCons : ∀ xs c ys, (∀ x ∈ xs, sep x = false) → sep c = true → P ys → P (xs ++ c :: ys))
    (cs : List α) : P cs := by
  have hRest : ∀ xs ys, (∀ x ∈ xs, sep x = false) → P (xs ++ ys) := by
    intro xs ys hxs
    induction ys generalizing xs with
    | nil =>
      rw [List.append_nil]
      exact hRun xs hxs
    | cons c ys ih =>
      cases hSep : sep c with
      | true => exact hCons xs c ys hxs hSep (ih [] fun x hx => by cases hx)
      | false =>
        rw [List.append_cons]
        apply ih
        intro x hx
        rcases List.mem_append.mp hx with hx | hx
        · exact hxs x hx
        · rwa [List.mem_singleton.mp hx]
  exact hRest [] cs fun x hx => by cases hx

theorem words_append_cons {c : α} (hSep : sep c = true) (xs ys : List α) :
    words sep (xs ++ c :: ys) = words sep xs ++ words sep ys := by
  rw [words, List.splitOnP_append_cons xs ys hSep, List.filter_append]
  rfl

theorem words_cons {c : α} (hSep : sep c = true) (cs : List α) : words sep (c :: cs) = words sep cs :=
  words_append_cons hSep [] cs

theorem words_run (hRun : ∀ c ∈ cs, sep c = false) : words sep cs = if cs = [] then [] else [cs] := by
  rw [words, List.splitOnP_eq_singleton hRun, List.filter_singleton]
  cases cs <;> rfl

theorem words_eq_nil_iff : words sep cs = [] ↔ ∀ c ∈ cs, sep c = true := by
  constructor
  · intro h
    induction cs using runs_induction sep with
    | hRun cs hRun =>
      rw [words_run hRun] at h
      split at h
      · rename_i hEmpty
        rw [hEmpty]
        exact fun c hc => by cases hc
      · cases h
    | hCons xs c ys hxs hSep ih =>
      rw [words_append_cons hSep, List.append_eq_nil_iff, words_run hxs] at h
      obtain ⟨hLeft, hRight⟩ := h
      split at hLeft
      · rename_i hEmpty
        rw [hEmpty, List.nil_append]
        exact List.forall_mem_cons.mpr ⟨hSep, ih hRight⟩
      · cases hLeft
  · intro h
    induction cs with
    | nil => rfl
    | cons c cs ih =>
      rw [words_cons (h c List.mem_cons_self)]
      exact ih fun d hd => h d (List.mem_cons_of_mem c hd)

theorem of_mem_words {w : List α} (h : w ∈ words sep cs) : w ≠ [] ∧ ∀ c ∈ w, sep c = false := by
  induction cs using runs_induction sep with
  | hRun cs hRun =>
    rw [words_run hRun] at h
    split at h
    · cases h
    · rw [List.mem_singleton.mp h]
      exact ⟨‹_›, hRun⟩
  | hCons xs c ys hxs hSep ih =>
    rw [words_append_cons hSep, words_run hxs] at h
    rcases List.mem_append.mp h with h | h
    · split at h
      · cases h
      · rw [List.mem_singleton.mp h]
        exact ⟨‹_›, hxs⟩
    · exact ih h

/-- The words of the pieces between some of the separators are those of the text. -/
theorem words_eq_flatMap_splitOn [BEq α] [LawfulBEq α] {c : α} (hSep : sep c = true) (cs : List α) :
    words sep cs = (cs.splitOn c).flatMap (words sep) := by
  induction cs using runs_induction (· == c) with
  | hRun cs hRun =>
    rw [List.splitOn_eq_singleton_of_beq_eq_false hRun]
    simp
  | hCons xs d ys hxs hEq ih =>
    rw [eq_of_beq hEq, words_append_cons hSep, ih, List.splitOn_append_cons_self,
      List.splitOn_eq_singleton_of_beq_eq_false hxs, List.flatMap_append]
    simp

theorem words_dropWhile (cs : List α) : words sep (cs.dropWhile sep) = words sep cs := by
  induction cs with
  | nil => rfl
  | cons c cs ih =>
    cases hSep : sep c with
    | true => rw [List.dropWhile_cons_of_pos hSep, ih, words_cons hSep]
    | false => rw [List.dropWhile_cons_of_neg (by simp [hSep])]

theorem words_rdropWhile (cs : List α) : words sep (cs.rdropWhile sep) = words sep cs := by
  induction cs using List.reverseRecOn with
  | nil => rfl
  | append_singleton cs c ih =>
    cases hSep : sep c with
    | true =>
      rw [List.rdropWhile_concat_pos _ _ _ hSep, ih, words_append_cons hSep]
      simp [words]
    | false => rw [List.rdropWhile_concat_neg _ _ _ (by simp [hSep])]

theorem words_strip (cs : List α) : words sep (strip sep cs) = words sep cs := by
  rw [strip, words_rdropWhile, words_dropWhile]

theorem strip_eq_nil_iff : strip sep cs = [] ↔ words sep cs = [] := by
  constructor
  · intro h
    rw [← words_strip, h]
    rfl
  · intro h
    have hAll := words_eq_nil_iff.mp h
    rw [strip, List.dropWhile_eq_nil_iff.mpr hAll]
    rfl

theorem sep_head_strip {c : α} {rest : List α} (h : strip sep cs = c :: rest) : sep c = false := by
  have hPrefix : c :: rest <+: cs.dropWhile sep := by
    rw [← h]
    exact List.rdropWhile_prefix sep _
  obtain ⟨tail, hTail⟩ := hPrefix
  have hHead := List.head?_dropWhile_not sep cs
  rw [← hTail] at hHead
  simpa using hHead

theorem sep_last_strip {c : α} {rest : List α} (h : strip sep cs = rest ++ [c]) : sep c = false := by
  have hNonempty : strip sep cs ≠ [] := by simp [h]
  have hLast : ¬sep ((strip sep cs).getLast hNonempty) = true := List.rdropWhile_last_not sep _ hNonempty
  rw [List.getLast_congr hNonempty (by simp) h, List.getLast_concat] at hLast
  simpa using hLast

/-- What is cut off both ends of a text of one word leaves the word. -/
theorem strip_of_words {w : List α} (h : words sep cs = [w]) : strip sep cs = w := by
  rw [← words_strip] at h
  by_cases hRun : ∀ c ∈ strip sep cs, sep c = false
  · rw [words_run hRun] at h
    split at h
    · cases h
    · exact (List.cons.inj h).1
  · -- a separator inside is between two words
    exfalso
    simp only [not_forall, Bool.not_eq_false] at hRun
    obtain ⟨c, hc, hSep⟩ := hRun
    obtain ⟨xs, ys, hSplit⟩ := List.append_of_mem hc
    rw [hSplit, words_append_cons hSep] at h
    have hLength := congrArg List.length h
    rw [List.length_append, List.length_singleton] at hLength
    have hLeft : words sep xs ≠ [] := by
      intro hNil
      have hAll := words_eq_nil_iff.mp hNil
      cases xs with
      | nil => cases (sep_head_strip hSplit).symm.trans hSep
      | cons x xs => cases (sep_head_strip hSplit).symm.trans (hAll x List.mem_cons_self)
    have hRight : words sep ys ≠ [] := by
      intro hNil
      have hAll := words_eq_nil_iff.mp hNil
      rcases List.eq_nil_or_concat ys with rfl | ⟨ys, y, rfl⟩
      · cases (sep_last_strip hSplit).symm.trans hSep
      · rw [List.append_cons, List.concat_eq_append, ← List.append_assoc] at hSplit
        cases (sep_last_strip hSplit).symm.trans (hAll y (by simp))
    have hOne := List.length_pos_iff.mpr hLeft
    have hTwo := List.length_pos_iff.mpr hRight
    omega

/-- A text of more words than one keeps a separator. -/
theorem exists_sep_mem_strip (h : 1 < (words sep cs).length) : ∃ c ∈ strip sep cs, sep c = true := by
  by_contra hNone
  have hRun : ∀ c ∈ strip sep cs, sep c = false := by simpa using hNone
  rw [← words_strip, words_run hRun] at h
  split at h
  · cases h
  · exact Nat.lt_irrefl 1 h

theorem intercalate_ofList (sep : String) (parts : List (List Char)) :
    sep.intercalate (parts.map String.ofList) = .ofList (sep.toList.intercalate parts) := by
  have hSame : String.toList ∘ String.ofList = id := funext fun cs => String.toList_ofList
  apply String.toList_inj.mp
  rw [String.toList_intercalate, List.map_map, hSame, List.map_id, String.toList_ofList]

end SdpK8sInjector.Lib
