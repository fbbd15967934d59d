import Mathlib.Data.List.TakeWhile
import TenantBroker.Network.Url
import TenantBroker.Proofs.Tenant.Naming

/-!
# Names of hosts

The name of a host is a sequence of DNS labels with dots between them. An address that consists of a
scheme and the characters of such a name has these characters as its authority, and no other part.
-/

namespace TenantBroker.Network

open Tenant (isDnsLabel isDnsLabel_iff labelCharacters)

variable {host : String}

/-! ## The labels of a host -/

/-- The labels of a host: what stands between its dots. -/
def hostLabels (host : String) : List String := (host.toList.splitOn '.').map String.ofList

/-- Whether a host is a sequence of DNS labels. -/
def isHostName (host : String) : Bool := (hostLabels host).all isDnsLabel

/-- Without a dot a host is one label. -/
theorem hostLabels_of_not_mem (h : '.' ∉ host.toList) : hostLabels host = [host] := by
  rw [hostLabels, List.splitOn_eq_singleton h, List.map_singleton, String.ofList_toList]

/-- The labels before a dot are followed by those after it. -/
theorem hostLabels_dotted (front rest : String) :
    hostLabels (front ++ "." ++ rest) = hostLabels front ++ hostLabels rest := by
  have hcharacters : (front ++ "." ++ rest).toList = front.toList ++ '.' :: rest.toList := by simp
  rw [hostLabels, hcharacters, List.splitOn_append_cons_self, List.map_append]
  rfl

/-- The labels of a host with dots between them are the host. -/
theorem intercalate_hostLabels (host : String) : ".".intercalate (hostLabels host) = host := by
  apply String.toList_injective
  rw [String.toList_intercalate, hostLabels, List.map_map]
  simp only [Function.comp_def, String.toList_ofList, List.map_id']
  exact List.intercalate_splitOn '.'

/-- There is no dot in a DNS label. -/
theorem dot_not_mem_of_isDnsLabel {label : String} (h : isDnsLabel label = true) :
    '.' ∉ label.toList := fun hdot ↦
  absurd ((isDnsLabel_iff.mp h).characters '.' hdot) (by decide)

/-- A host name is some DNS labels with dots between them. -/
theorem isHostName_iff : isHostName host = true ↔
    ∃ labels ≠ [], (∀ label ∈ labels, isDnsLabel label = true) ∧
      host = ".".intercalate labels := by
  rw [isHostName, List.all_eq_true]
  constructor
  · intro h
    refine ⟨hostLabels host, ?_, h, (intercalate_hostLabels host).symm⟩
    exact mt List.map_eq_nil_iff.mp (List.splitOn_ne_nil '.' host.toList)
  · rintro ⟨labels, hne, hlabels, rfl⟩
    have hdots : ∀ cs ∈ labels.map String.toList, '.' ∉ cs := by
      intro cs hcs
      obtain ⟨label, hlabel, rfl⟩ := List.mem_map.mp hcs
      exact dot_not_mem_of_isDnsLabel (hlabels label hlabel)
    have hsplit : hostLabels (".".intercalate labels) = labels := by
      have hjoined : (".".intercalate labels).toList =
        ['.'].intercalate (labels.map String.toList) := String.toList_intercalate
      rw [hostLabels, hjoined,
        List.splitOn_intercalate '.' hdots (mt List.map_eq_nil_iff.mp hne), List.map_map]
      simp [Function.comp_def]
    rw [hsplit]
    exact hlabels

/-! ## A host in an address -/

/-- The characters of a host name. -/
def hostCharacters : List Char := '.' :: labelCharacters

/-- A character of words with a mark between them is the mark or stands in a word. -/
private theorem eq_or_mem_of_mem_intercalate {mark c : Char} {words : List (List Char)}
    (h : c ∈ [mark].intercalate words) : c = mark ∨ ∃ word ∈ words, c ∈ word := by
  induction words with
  | nil => cases h
  | cons word rest ih =>
    cases rest with
    | nil => exact .inr ⟨word, List.mem_cons_self, by simpa using h⟩
    | cons next rest =>
      rw [List.intercalate_cons_cons, List.mem_append, List.mem_append, List.mem_singleton] at h
      rcases h with (hword | hmark) | hlater
      · exact .inr ⟨word, List.mem_cons_self, hword⟩
      · exact .inl hmark
      · exact (ih hlater).imp_right fun ⟨other, hother, hc⟩ ↦
          ⟨other, List.mem_cons_of_mem _ hother, hc⟩

/-- A host name has no other characters than these. -/
theorem characters_of_isHostName (h : isHostName host = true) :
    ∀ c ∈ host.toList, c ∈ hostCharacters := by
  intro c hc
  have hjoined : host.toList = ['.'].intercalate (host.toList.splitOn '.') :=
    (List.intercalate_splitOn '.').symm
  rw [hjoined] at hc
  rcases eq_or_mem_of_mem_intercalate hc with rfl | ⟨word, hword, hc⟩
  · exact List.mem_cons_self
  · have hlabel : isDnsLabel (String.ofList word) = true :=
      List.all_eq_true.mp h _ (List.mem_map_of_mem hword)
    refine List.mem_cons_of_mem _ ((isDnsLabel_iff.mp hlabel).characters c ?_)
    rwa [String.toList_ofList]

section

variable {cs : List Char} (h : ∀ c ∈ cs, c ∈ hostCharacters)
include h

/-- A test that all these characters pass is passed by each of some of them. -/
private theorem passes_of_hostCharacters {test : Char → Bool}
    (htest : hostCharacters.all test = true) : ∀ c ∈ cs, test c = true :=
  fun c hc ↦ List.all_eq_true.mp htest c (h c hc)

/-- Nothing is dropped from such characters after the start of an address. -/
private theorem cleaned_https : cleaned ("https://".toList ++ cs) = "https://".toList ++ cs := by
  have hstart : ("https://".toList ++ cs).dropWhile (fun c ↦ c.toNat ≤ 0x20) =
    "https://".toList ++ cs := rfl
  rw [cleaned, hstart, List.filter_eq_self, List.forall_mem_append]
  exact ⟨List.all_eq_true.mp (by decide), passes_of_hostCharacters h (by decide)⟩

/-- Such characters are an authority, and nothing is left of them. -/
private theorem splitAuthority_https : splitAuthority ('/' :: '/' :: cs) = (cs, []) := by
  have hinside : ∀ c ∈ cs, (!(c = '/' || c = '?' || c = '#')) = true :=
    passes_of_hostCharacters h (by decide)
  simp only [splitAuthority, Prod.mk.injEq]
  exact ⟨List.takeWhile_eq_self_iff.mpr hinside, List.dropWhile_eq_nil_iff.mpr hinside⟩

/-- There are no brackets among such characters. -/
private theorem checkBrackets_https : checkBrackets cs = .ok () := by
  have hnone (c : Char) (hc : c ∉ hostCharacters) : cs.contains c = false := by
    rw [List.contains_eq_mem, decide_eq_false_iff_not]
    exact fun hmem ↦ hc (h c hmem)
  unfold checkBrackets
  rw [hnone '[' (by decide), hnone ']' (by decide)]
  rfl

/-- Such characters have no compatible form of a separating mark. -/
private theorem checkMarks_https : checkMarks cs = .ok () := by
  have hplain : ∀ c ∈ cs, (!compatibleMarks.contains c.toNat) = true :=
    passes_of_hostCharacters h (by decide)
  have hnone : cs.any (fun c ↦ compatibleMarks.contains c.toNat) = false := by
    rw [List.any_eq_false]
    exact fun c hc ↦ by simpa using hplain c hc
  unfold checkMarks
  rw [hnone]
  rfl

end

/-- The scheme of an address ends before its first colon. -/
private theorem splitScheme_https (cs : List Char) :
    splitScheme ("https://".toList ++ cs) = ("https".toList, '/' :: '/' :: cs) := rfl

/-- An address of a scheme and such characters alone has these as its authority. -/
theorem split_https (h : ∀ c ∈ host.toList, c ∈ hostCharacters) :
    Url.split ("https://" ++ host) = .ok ⟨"https", host, "", "", ""⟩ := by
  have hcharacters : ("https://" ++ host).toList = "https://".toList ++ host.toList :=
    String.toList_append
  unfold Url.split
  rw [hcharacters, cleaned_https h, splitScheme_https]
  simp only [splitAuthority_https h, checkBrackets_https h, checkMarks_https h,
    String.ofList_toList]
  rfl

end TenantBroker.Network
