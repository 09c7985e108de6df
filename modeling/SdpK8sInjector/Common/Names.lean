import Mathlib.Data.String.Basic

/-! # Names given to service users

`String::truncate` counts bytes and panics inside a character.
-/

namespace SdpK8sInjector.Common

open String (utf8Len utf8Len_cons)

def startsWith (s pre : String) : Bool := pre.toList.isPrefixOf s.toList

theorem startsWith_iff {s pre : String} : startsWith s pre = true ↔ pre.toList <+: s.toList :=
  List.isPrefixOf_iff_prefix

/-- The characters that fill exactly the given number of bytes. -/
def takeBytes : Nat → List Char → Option (List Char)
  | 0, _ => some []
  | _ + 1, [] => some []
  | n + 1, c :: cs => if c.utf8Size ≤ n + 1 then (takeBytes (n + 1 - c.utf8Size) cs).map (c :: ·) else none

def truncate (n : Nat) (s : String) : Option String := (takeBytes n s.toList).map String.ofList

/-- The random suffix is given by the caller. -/
def getServiceUsername (suffix clusterName serviceNs serviceName : String) : Option String :=
  (truncate 122 (clusterName ++ "_" ++ serviceNs ++ "_" ++ serviceName)).map fun pre => pre ++ "_" ++ suffix

/-- What is taken begins the text; it is all of the text unless it fills the bytes. -/
theorem takeBytes_spec {n : Nat} {cs taken : List Char} (h : takeBytes n cs = some taken) :
    utf8Len taken ≤ n ∧ (taken = cs ∨ utf8Len taken = n) := by
  induction cs generalizing n taken with
  | nil =>
    cases n with
    | zero => cases h; exact ⟨le_rfl, .inl rfl⟩
    | succ n => cases h; exact ⟨Nat.zero_le _, .inl rfl⟩
  | cons c cs ih =>
    cases n with
    | zero => cases h; exact ⟨le_rfl, .inr rfl⟩
    | succ n =>
      unfold takeBytes at h
      split at h
      · rename_i hFits
        obtain ⟨rest, hRest, rfl⟩ := Option.map_eq_some_iff.mp h
        obtain ⟨hBound, hAll⟩ := ih hRest
        rw [utf8Len_cons]
        refine ⟨by omega, ?_⟩
        rcases hAll with rfl | hFull
        · exact .inl rfl
        · exact .inr (by omega)
      · cases h

/-- What `get_random_suffix` may return: letters and digits, in lower case. -/
def RandomSuffix (n : Nat) : Type :=
  { suffix : String // suffix.toList.length = n ∧ suffix.toList.all (fun c => c.isLower || c.isDigit) = true }

/-- The name of a client profile of the cluster, and its first part, by which the profiles of the cluster are found. -/
def getProfileClientUrlName (suffix : RandomSuffix 5) (clusterName : String) : Option (String × String) :=
  (truncate 14 clusterName).map fun shortName => (shortName ++ "-" ++ suffix.val, shortName)

end SdpK8sInjector.Common
