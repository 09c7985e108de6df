import SdpK8sInjector.Common.Names
import SdpK8sInjector.Lib.Utf8

/-! # How long the generated names are

Each is the text that identifies it, cut after a fixed number of bytes, and a
random part. Where the cut falls inside a character there is no name.
-/

namespace SdpK8sInjector.Common

open Lib

theorem takeBytes_eq_some_iff {n : Nat} {cs taken : List Char} :
    takeBytes n cs = some taken ↔ CutsBetweenChars n cs ∧ taken = fitting n cs := by
  induction cs generalizing n taken with
  | nil =>
    have hCuts : CutsBetweenChars n [] := fun h => ⟨[], List.prefix_refl [], (Nat.le_zero.mp h).symm⟩
    cases n <;> simp [takeBytes, fitting, hCuts, eq_comm]
  | cons c cs ih =>
    cases n with
    | zero =>
      have hLong : ¬c.utf8Size ≤ 0 := Nat.not_le.mpr c.utf8Size_pos
      simp [takeBytes, fitting, hLong, cutsBetweenChars_zero, eq_comm]
    | succ n =>
      rw [takeBytes, fitting, cutsBetweenChars_cons cs (Nat.succ_pos n)]
      split
      · rename_i hFits
        simp only [Option.map_eq_some_iff, ih, hFits, true_and]
        constructor
        · rintro ⟨rest, ⟨hCuts, rfl⟩, rfl⟩
          exact ⟨hCuts, rfl⟩
        · rintro ⟨hCuts, rfl⟩
          exact ⟨_, ⟨hCuts, rfl⟩, rfl⟩
      · rename_i hLong
        simp [hLong]

theorem truncate_eq_some_iff {n : Nat} {s t : String} :
    truncate n s = some t ↔ CutsBetweenChars n s.toList ∧ t = .ofList (fitting n s.toList) := by
  simp only [truncate, Option.map_eq_some_iff, takeBytes_eq_some_iff]
  constructor
  · rintro ⟨taken, ⟨hCuts, rfl⟩, rfl⟩
    exact ⟨hCuts, rfl⟩
  · rintro ⟨hCuts, rfl⟩
    exact ⟨_, ⟨hCuts, rfl⟩, rfl⟩

/-- Of the beginnings of the text that have at most `n` bytes this is the longest one. -/
def LongestPrefix (n : Nat) (text pre : String) : Prop :=
  pre.toList <+: text.toList ∧ pre.utf8ByteSize ≤ n ∧
    ∀ other : String, other.toList <+: text.toList → other.utf8ByteSize ≤ n → other.toList <+: pre.toList

theorem longestPrefix_fitting (n : Nat) (text : String) : LongestPrefix n text (.ofList (fitting n text.toList)) := by
  refine ⟨?_, ?_, fun other hPrefix hFits => ?_⟩
  · rw [String.toList_ofList]
    exact fitting_begins n text.toList
  · rw [← String.utf8Len_toList, String.toList_ofList]
    exact utf8Len_fitting_le n text.toList
  · rw [String.toList_ofList]
    exact prefix_fitting hPrefix ((String.utf8Len_toList other).le.trans hFits)

/-- There is a name, it has at most `limit` bytes, and it starts with as much of the text as goes into `cut` bytes. -/
def WithinLimit (limit cut : Nat) (text : String) (result : Option String) : Prop :=
  ∃ name, result = some name ∧ name.utf8ByteSize ≤ limit ∧
    ∃ pre, LongestPrefix cut text pre ∧ startsWith name pre = true

theorem withinLimit_iff (limit cut : Nat) (text ending : String) (hLimit : cut + ending.utf8ByteSize ≤ limit) :
    WithinLimit limit cut text ((truncate cut text).map (· ++ ending)) ↔ CutsBetweenChars cut text.toList := by
  constructor
  · rintro ⟨name, hName, -⟩
    obtain ⟨pre, hCut, -⟩ := Option.map_eq_some_iff.mp hName
    exact (truncate_eq_some_iff.mp hCut).1
  · intro hCuts
    have hLongest := longestPrefix_fitting cut text
    refine ⟨_, Option.map_eq_some_iff.mpr ⟨_, truncate_eq_some_iff.mpr ⟨hCuts, rfl⟩, rfl⟩,
      ?_, _, hLongest, ?_⟩
    · have hFits := hLongest.2.1
      rw [String.utf8ByteSize_append]
      omega
    · rw [startsWith_iff, String.toList_append]
      exact List.prefix_append _ _

theorem utf8ByteSize_randomSuffix {n : Nat} (suffix : RandomSuffix n) : suffix.val.utf8ByteSize = n := by
  have hOne : ∀ c : Char, (c.isLower || c.isDigit) = true → c.utf8Size = 1 := by
    intro c hc
    have hSmall : c.val ≤ 0x7F := by
      rw [UInt32.le_iff_toNat_le]
      rcases Bool.or_eq_true_iff.mp hc with hLower | hDigit
      · have hLe : c.val ≤ 'z'.val := of_decide_eq_true (Bool.and_eq_true_iff.mp hLower).2
        exact (UInt32.le_iff_toNat_le.mp hLe).trans (by decide)
      · have hLe : c.val ≤ '9'.val := of_decide_eq_true (Bool.and_eq_true_iff.mp hDigit).2
        exact (UInt32.le_iff_toNat_le.mp hLe).trans (by decide)
    exact if_pos hSmall
  have hSum : ∀ cs : List Char, cs.all (fun c => c.isLower || c.isDigit) = true →
      String.utf8Len cs = cs.length := by
    intro cs hAll
    induction cs with
    | nil => rfl
    | cons c cs ih =>
      rw [List.all_cons, Bool.and_eq_true] at hAll
      rw [String.utf8Len_cons, hOne c hAll.1, ih hAll.2, List.length_cons]
  rw [← String.utf8Len_toList, hSum _ suffix.property.2, suffix.property.1]

/-- The generated names are within the limits exactly if no character is cut. -/
theorem generated_names_iff (suffix : RandomSuffix 5) (clusterName serviceNs serviceName : String) :
    (WithinLimit 128 122 (clusterName ++ "_" ++ serviceNs ++ "_" ++ serviceName)
        (getServiceUsername suffix.val clusterName serviceNs serviceName) ↔
      CutsBetweenChars 122 (clusterName ++ "_" ++ serviceNs ++ "_" ++ serviceName).toList) ∧
    (WithinLimit 20 14 clusterName ((getProfileClientUrlName suffix clusterName).map Prod.fst) ↔
      CutsBetweenChars 14 clusterName.toList) := by
  have hSize := utf8ByteSize_randomSuffix suffix
  constructor
  · have hUsername := withinLimit_iff 128 122 (clusterName ++ "_" ++ serviceNs ++ "_" ++ serviceName)
      ("_" ++ suffix.val)
      (by rw [String.utf8ByteSize_append, hSize]; decide)
    simpa only [getServiceUsername, String.append_assoc] using hUsername
  · have hProfile := withinLimit_iff 20 14 clusterName ("-" ++ suffix.val)
      (by rw [String.utf8ByteSize_append, hSize]; decide)
    simpa only [getProfileClientUrlName, Option.map_map, Function.comp_def, String.append_assoc] using hProfile

/-- The fourteenth byte of the cluster is the first of two that make a character. -/
theorem truncation_inside_character : ¬∀ (suffix : RandomSuffix 5) (clusterName serviceNs serviceName : String),
    WithinLimit 128 122 (clusterName ++ "_" ++ serviceNs ++ "_" ++ serviceName)
        (getServiceUsername suffix.val clusterName serviceNs serviceName) ∧
      WithinLimit 20 14 clusterName ((getProfileClientUrlName suffix clusterName).map Prod.fst) := by
  intro h
  obtain ⟨name, hName, -⟩ := (h ⟨"abcde", by decide⟩ "cluster-name-é" "ns" "a").2
  have hPanics : (getProfileClientUrlName ⟨"abcde", by decide⟩ "cluster-name-é").map Prod.fst = none := by decide
  cases hPanics.symm.trans hName

end SdpK8sInjector.Common
