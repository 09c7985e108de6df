import SdpK8sInjector.Injector.PatchedPods
import SdpK8sInjector.Lib.Words
import Mathlib.Algebra.Order.BigOperators.Group.List

/-! # The search list of the DNS configuration of a pod

The given domains are completed with one more, which is made of the first of them.
-/

namespace SdpK8sInjector.Injector

open Lib Common

/-- What stands before the first dot of a domain. -/
def firstLabel (domain : String) : String := .ofList (domain.toList.takeWhile (· ≠ '.'))

/-- What stands behind it. -/
def afterLabel (domain : String) : String := .ofList (domain.toList.dropWhile (· ≠ '.')).tail

/-- The list that is made of the given domains. -/
def completedSearches (ns : String) : List String → List String
  | [] => []
  | first :: others =>
    if afterLabel first ∉ first :: others then first :: afterLabel first :: others
    else if toLowercase (firstLabel first) ≠ toLowercase ns then (ns ++ "." ++ first) :: first :: others
    else first :: others

theorem splitOn_dot (cs : List Char) : ∃ rest, cs.splitOn '.' = cs.takeWhile (· ≠ '.') :: rest ∧
    ['.'].intercalate rest = (cs.dropWhile (· ≠ '.')).tail := by
  induction cs using runs_induction (· == '.') with
  | hRun cs hRun =>
    refine ⟨[], ?_, ?_⟩
    · rw [List.splitOn_eq_singleton_of_beq_eq_false hRun, List.takeWhile_eq_self_iff.mpr]
      simpa using hRun
    · rw [List.dropWhile_eq_nil_iff.mpr (by simpa using hRun)]
      rfl
  | hCons xs c ys hxs hDot ih =>
    cases eq_of_beq hDot
    have hLabel : ∀ x ∈ xs, decide (x ≠ '.') = true := by simpa using hxs
    refine ⟨ys.splitOn '.', ?_, ?_⟩
    · rw [List.splitOn_append_cons_self, List.splitOn_eq_singleton_of_beq_eq_false hxs,
        List.takeWhile_append_of_pos hLabel]
      simp
    · rw [List.intercalate_splitOn, List.dropWhile_append_of_pos hLabel]
      simp

theorem searches_dnsConfig (sidecars : SDPSidecars) (ns : String) (searches : Option (List String)) :
    (sidecars.dnsConfig ns searches).searches =
      some (completedSearches ns (searches.getD (searchesStringToVec sidecars.searches))) := by
  unfold SDPSidecars.dnsConfig completedSearches
  dsimp only
  cases searches.getD (searchesStringToVec sidecars.searches) with
  | nil => rfl
  | cons first others =>
    obtain ⟨rest, hSplit, hRest⟩ := splitOn_dot first.toList
    have hAfter : ".".intercalate (rest.map String.ofList) = afterLabel first := by
      rw [intercalate_ofList, afterLabel, ← hRest]
      rfl
    simp only [hSplit, hAfter]
    rfl

theorem sublist_completedSearches (ns : String) (domains : List String) :
    domains.Sublist (completedSearches ns domains) := by
  cases domains with
  | nil => exact List.Sublist.refl []
  | cons first others =>
    rw [completedSearches]
    split
    · exact (List.sublist_cons_self _ others).cons_cons first
    · split
      · exact List.sublist_cons_self _ _
      · exact List.Sublist.refl _

theorem length_completedSearches_le (ns : String) (domains : List String) :
    (completedSearches ns domains).length ≤ domains.length + 1 := by
  cases domains with
  | nil => exact Nat.zero_le 1
  | cons first others =>
    rw [completedSearches]
    split
    · exact Nat.le_refl _
    · split
      · exact Nat.le_refl _
      · exact Nat.le_succ _

theorem mem_completedSearches {ns d : String} {domains : List String} (h : d ∈ completedSearches ns domains) :
    d ∈ domains ∨ ∃ first ∈ domains.head?, d = afterLabel first ∨ d = ns ++ "." ++ first := by
  cases domains with
  | nil => cases h
  | cons first others =>
    rw [completedSearches] at h
    split at h
    · rcases List.mem_cons.mp h with rfl | h
      · exact .inl List.mem_cons_self
      · rcases List.mem_cons.mp h with rfl | h
        · exact .inr ⟨first, rfl, .inl rfl⟩
        · exact .inl (List.mem_cons_of_mem first h)
    · split at h
      · rcases List.mem_cons.mp h with rfl | h
        · exact .inr ⟨first, rfl, .inr rfl⟩
        · exact .inl h
      · exact .inl h

section Spacing

/-- What stands between white space. -/
def domains (searches : String) : List String := (words isWhitespace searches.toList).map String.ofList

/-- The searches have no empty entry, and all domains of the text in their order. -/
def WellFormedSearches (searches : String) (config : PodDNSConfig) : Prop :=
  ∃ list, config.searches = some list ∧ "" ∉ list ∧ (∀ d ∈ domains searches, d ∈ list) ∧
    (domains searches).Sublist list

/-- Before the first space, between any two and behind the last one is one domain. -/
def SinglySpaced (searches : String) : Prop :=
  ∀ piece ∈ searches.toList.splitOn ' ', (words isWhitespace piece).length = 1

theorem trim_eq_strip (cs : List Char) : trim cs = strip isWhitespace cs := rfl

theorem domains_eq_flatMap (searches : String) :
    domains searches = (searches.toList.splitOn ' ').flatMap fun piece =>
      (words isWhitespace piece).map String.ofList := by
  have hSpace : isWhitespace ' ' = true := by decide
  rw [domains, words_eq_flatMap_splitOn hSpace, List.map_flatMap]

theorem ne_empty_of_mem_domains {searches d : String} (h : d ∈ domains searches) :
    d ≠ "" ∧ ∀ c ∈ d.toList, isWhitespace c = false := by
  obtain ⟨w, hw, rfl⟩ := List.mem_map.mp h
  obtain ⟨hNonempty, hWord⟩ := of_mem_words hw
  constructor
  · intro hEmpty
    apply hNonempty
    rw [← String.toList_ofList (l := w), hEmpty]
    rfl
  · rwa [String.toList_ofList]

theorem searchesStringToVec_of_singlySpaced {searches : String} (h : SinglySpaced searches) :
    searchesStringToVec searches = domains searches := by
  rw [searchesStringToVec, domains_eq_flatMap]
  rw [SinglySpaced] at h
  generalize searches.toList.splitOn ' ' = pieces at h ⊢
  induction pieces with
  | nil => rfl
  | cons piece pieces ih =>
    obtain ⟨w, hw⟩ := List.length_eq_one_iff.mp (h piece List.mem_cons_self)
    rw [List.map_cons, List.flatMap_cons, hw, ih fun p hp => h p (List.mem_cons_of_mem piece hp), trim_eq_strip,
      strip_of_words hw]
    rfl

/-- No piece is empty, and there are not more domains than pieces and one, none of which a piece has inside. -/
theorem singlySpaced_of_wellFormed {ns searches : String}
    (hEmpty : "" ∉ completedSearches ns (searchesStringToVec searches))
    (hOrder : (domains searches).Sublist (completedSearches ns (searchesStringToVec searches))) :
    SinglySpaced searches := by
  have hKept := (sublist_completedSearches ns (searchesStringToVec searches)).subset
  have hSome : ∀ piece ∈ searches.toList.splitOn ' ', 0 < (words isWhitespace piece).length := by
    intro piece hPiece
    rw [List.length_pos_iff]
    intro hNil
    apply hEmpty
    apply hKept
    refine List.mem_map.mpr ⟨piece, hPiece, ?_⟩
    rw [trim_eq_strip, strip_eq_nil_iff.mpr hNil]
  intro piece hPiece
  by_contra hOther
  have hMore : 1 < (words isWhitespace piece).length := by
    have := hSome piece hPiece
    omega
  -- all that is completed is a domain, but the piece has white space inside
  have hCount : (searches.toList.splitOn ' ').length < (domains searches).length := by
    have hSum : (searches.toList.splitOn ' ').length = ((searches.toList.splitOn ' ').map fun _ => 1).sum := by simp
    rw [domains_eq_flatMap, List.length_flatMap, hSum]
    simp only [List.length_map]
    exact List.sum_lt_sum _ _ hSome ⟨piece, hPiece, hMore⟩
  have hAll : domains searches = completedSearches ns (searchesStringToVec searches) := by
    apply hOrder.eq_of_length_le
    have hBound := length_completedSearches_le ns (searchesStringToVec searches)
    rw [searchesStringToVec, List.length_map] at hBound
    exact hBound.trans hCount
  have hMem : String.ofList (trim piece) ∈ domains searches := by
    rw [hAll]
    exact hKept (List.mem_map.mpr ⟨piece, hPiece, rfl⟩)
  obtain ⟨c, hc, hSep⟩ := exists_sep_mem_strip hMore
  have hWord := (ne_empty_of_mem_domains hMem).2 c (by rwa [String.toList_ofList])
  cases hWord.symm.trans hSep

theorem wellFormedSearches_iff (sidecars : SDPSidecars) (ns : String) (searches : Option (List String)) (text : String)
    (hText : searches.getD (searchesStringToVec sidecars.searches) = searchesStringToVec text) :
    WellFormedSearches text (sidecars.dnsConfig ns searches) ↔
      SinglySpaced text ∧ ∀ first ∈ (domains text).head?, afterLabel first ≠ "" := by
  rw [WellFormedSearches, searches_dnsConfig, hText]
  constructor
  · rintro ⟨list, hList, hEmpty, -, hOrder⟩
    cases hList
    have hSpaced := singlySpaced_of_wellFormed hEmpty hOrder
    refine ⟨hSpaced, fun first hFirst hLabel => hEmpty ?_⟩
    have hKept := (sublist_completedSearches ns (searchesStringToVec text)).subset
    obtain ⟨others, hOthers⟩ := List.head?_eq_some_iff.mp hFirst
    rw [searchesStringToVec_of_singlySpaced hSpaced, hOthers] at hEmpty hKept ⊢
    -- what follows the label is not in the list, so it is put there
    have hOut : afterLabel first ∉ first :: others := by
      rw [hLabel]
      exact fun h => hEmpty (hKept h)
    rw [completedSearches, if_pos hOut, hLabel]
    exact List.mem_cons_of_mem first List.mem_cons_self
  · rintro ⟨hSpaced, hLabel⟩
    rw [searchesStringToVec_of_singlySpaced hSpaced]
    have hOrder := sublist_completedSearches ns (domains text)
    refine ⟨_, rfl, fun hEmpty => ?_, fun d hd => hOrder.subset hd, hOrder⟩
    rcases mem_completedSearches hEmpty with hGiven | ⟨first, hFirst, hAfter | hQualified⟩
    · exact (ne_empty_of_mem_domains hGiven).1 rfl
    · exact hLabel first hFirst hAfter.symm
    · have hLength := congrArg String.length hQualified
      rw [String.length_append, String.length_append] at hLength
      have hDot : ".".length = 1 := rfl
      have hNone : "".length = 0 := rfl
      omega

/-- The search list is well formed exactly if the text has one domain between its spaces and the first one goes on
behind a dot. The text is that of the annotation, where there is one. -/
theorem dns_searches_wellFormed_iff (sidecars : SDPSidecars) (ns : String) (dnsSearches : Option String) :
    WellFormedSearches (dnsSearches.getD sidecars.searches)
    (sidecars.dnsConfig ns (dnsSearches.map searchesStringToVec)) ↔
      SinglySpaced (dnsSearches.getD sidecars.searches) ∧
        ∀ first ∈ (domains (dnsSearches.getD sidecars.searches)).head?, afterLabel first ≠ "" := by
  apply wellFormedSearches_iff
  cases dnsSearches <;> rfl

/-- Two spaces between the domains. -/
theorem two_spaces_empty_search : ¬∀ (sidecars : SDPSidecars) (ns : String) (dnsSearches : Option String),
    domains (dnsSearches.getD sidecars.searches) ≠ [] →
      WellFormedSearches (dnsSearches.getD sidecars.searches)
      (sidecars.dnsConfig ns (dnsSearches.map searchesStringToVec)) := by
  intro h
  obtain ⟨list, hList, hEmpty, -⟩ :=
    h SDPPod.sampleSdpPod.sdpSidecars "ns1" (some "svc.cluster.local  cluster.local") (by decide)
  apply hEmpty
  cases hList
  decide

end Spacing

section Qualified

/-- The domain starts with the label, whatever its case, and `rest` is what follows it. -/
def StartsWithLabel (label domain rest : String) : Prop :=
  ∃ first, domain = first ++ "." ++ rest ∧ '.' ∉ first.toList ∧ toLowercase first = toLowercase label

/-- The first search is one of the namespace, without the namespace it is in the list as well, and the list is
complete. -/
def QualifiedSearches (sidecars : SDPSidecars) (ns : String) (domains : List String) : Prop :=
  ∃ list first rest, (sidecars.dnsConfig ns (some domains)).searches = some list ∧ list.head? = some first ∧
    StartsWithLabel ns first rest ∧ rest ∈ list ∧ (sidecars.dnsConfig ns (some list)).searches = some list

theorem label_append {label : String} (hLabel : '.' ∉ label.toList) (rest : String) :
    firstLabel (label ++ "." ++ rest) = label ∧ afterLabel (label ++ "." ++ rest) = rest := by
  have hList : (label ++ "." ++ rest).toList = label.toList ++ '.' :: rest.toList := by simp
  have hBefore : ∀ c ∈ label.toList, decide (c ≠ '.') = true := by
    intro c hc
    rw [decide_eq_true_eq]
    rintro rfl
    exact hLabel hc
  constructor
  · rw [firstLabel, hList, List.takeWhile_append_of_pos hBefore]
    simp
  · rw [afterLabel, hList, List.dropWhile_append_of_pos hBefore]
    simp

theorem eq_label_append {domain : String} (hDot : '.' ∈ domain.toList) :
    domain = firstLabel domain ++ "." ++ afterLabel domain ∧ '.' ∉ (firstLabel domain).toList := by
  obtain ⟨xs, ys, hSplit, hFirst⟩ := List.eq_append_cons_of_mem hDot
  have hDomain : domain = .ofList xs ++ "." ++ .ofList ys := by
    apply String.toList_inj.mp
    simp [hSplit]
  have hLabel : '.' ∉ (String.ofList xs).toList := by rwa [String.toList_ofList]
  obtain ⟨hBefore, hAfter⟩ := label_append hLabel (.ofList ys)
  rw [← hDomain] at hBefore hAfter
  rw [hBefore, hAfter]
  exact ⟨hDomain, hLabel⟩

theorem startsWithLabel_iff {label domain rest : String} (hDot : '.' ∈ domain.toList) :
    StartsWithLabel label domain rest ↔ toLowercase (firstLabel domain) = toLowercase label ∧
    rest = afterLabel domain := by
  constructor
  · rintro ⟨first, rfl, hFirst, hSame⟩
    obtain ⟨hBefore, hAfter⟩ := label_append hFirst rest
    rw [hBefore, hAfter]
    exact ⟨hSame, rfl⟩
  · rintro ⟨hSame, rfl⟩
    obtain ⟨hDomain, hLabel⟩ := eq_label_append hDot
    exact ⟨_, hDomain, hLabel, hSame⟩

/-- A list that starts with a domain of the namespace and has it without the namespace is left as it is. -/
theorem completedSearches_eq_self {ns first : String} {others : List String}
    (hAfter : afterLabel first ∈ first :: others)
    (hSame : toLowercase (firstLabel first) = toLowercase ns) :
    completedSearches ns (first :: others) = first :: others := by
  rw [completedSearches, if_neg (not_not.mpr hAfter), if_neg (not_not.mpr hSame)]

/-- The searches are those of the namespace exactly if the first domain is, or what follows its first label is given. -/
theorem dns_searches_qualified_iff (sidecars : SDPSidecars) {ns first : String} (others : List String)
    (hNs : '.' ∉ ns.toList) (hDot : '.' ∈ first.toList) :
    QualifiedSearches sidecars ns (first :: others) ↔
      toLowercase (firstLabel first) = toLowercase ns ∨ afterLabel first ∈ first :: others := by
  simp only [QualifiedSearches, searches_dnsConfig, Option.getD_some, Option.some.injEq]
  by_cases hGiven : afterLabel first ∈ first :: others
  · refine iff_of_true ?_ (.inr hGiven)
    by_cases hSame : toLowercase (firstLabel first) = toLowercase ns
    · have hList := completedSearches_eq_self hGiven hSame
      exact ⟨first :: others, first, afterLabel first, hList, rfl,
        (startsWithLabel_iff hDot).mpr ⟨hSame, rfl⟩, hGiven, hList⟩
    · -- the namespace is put in front of the first domain
      obtain ⟨hBefore, hAfter⟩ := label_append hNs first
      refine ⟨(ns ++ "." ++ first) :: first :: others, ns ++ "." ++ first, first,
        ?_, rfl, ⟨ns, rfl, hNs, rfl⟩, ?_, ?_⟩
      · rw [completedSearches, if_neg (not_not.mpr hGiven), if_pos hSame]
      · exact List.mem_cons_of_mem _ List.mem_cons_self
      · apply completedSearches_eq_self
        · rw [hAfter]
          exact List.mem_cons_of_mem _ List.mem_cons_self
        · rw [hBefore]
  · have hList : completedSearches ns (first :: others) = first :: afterLabel first :: others := by
      rw [completedSearches, if_pos hGiven]
    have hAfter : afterLabel first ∈ first :: afterLabel first :: others := List.mem_cons_of_mem _ List.mem_cons_self
    rw [or_iff_left hGiven, hList]
    constructor
    · rintro ⟨list, head, rest, rfl, hHead, hStarts, -⟩
      cases hHead
      exact ((startsWithLabel_iff hDot).mp hStarts).1
    · intro hSame
      exact ⟨_, first, afterLabel first, rfl, rfl, (startsWithLabel_iff hDot).mpr ⟨hSame, rfl⟩, hAfter,
        completedSearches_eq_self hAfter hSame⟩

theorem dns_searches_qualified_sample :
    QualifiedSearches SDPPod.sampleSdpPod.sdpSidecars "ns1" ["svc.cluster.local", "cluster.local"] :=
  (dns_searches_qualified_iff _ _ (by decide) (by decide)).mpr (.inr (by decide))

/-- What follows the first label is added, and the namespace is not. -/
theorem unrelated_domains_not_qualified : ¬∀ (sidecars : SDPSidecars) (ns : String) (domains : List String),
    isDnsLabel ns = true → domains ≠ [] → (∀ d ∈ domains, '.' ∈ d.toList) →
    QualifiedSearches sidecars ns domains := by
  intro h
  obtain ⟨list, first, rest, hList, hHead, hStarts, -⟩ := h SDPPod.sampleSdpPod.sdpSidecars "ns1"
    ["svc.test.local", "example.com"] (by decide) (by decide) (by decide)
  cases hList
  cases hHead
  have hSame := ((startsWithLabel_iff (by decide)).mp hStarts).1
  revert hSame
  decide

end Qualified

end SdpK8sInjector.Injector
