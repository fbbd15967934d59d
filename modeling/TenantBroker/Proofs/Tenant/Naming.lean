import Mathlib.Computability.RegularExpressions
import TenantBroker.Proofs.Tenant.Parts
import TenantBroker.Proofs.Text.Case

/-!
# The names of tenants

A DNS label is described twice, by its characters and by a regular expression, and the check of a
name is held to both. The namespace of an instance is the joined name, exactly where this is a
label, so it gives the instance back, and so does the name of the cluster-wide role. No name of a
tenant can be mistaken for an option of a command line.
-/

namespace TenantBroker.Tenant

/-! ## Labels by their characters -/

/-- The characters of a label. -/
def labelCharacters : List Char := "abcdefghijklmnopqrstuvwxyz0123456789-".toList

/-- A DNS label by its length, its characters and its two ends. -/
structure IsLabel (s : String) : Prop where
  nonempty : 1 ≤ s.length
  bounded : s.length ≤ 63
  characters : ∀ c ∈ s.toList, c ∈ labelCharacters
  first : s.toList.head? ≠ some '-'
  last : s.toList.getLast? ≠ some '-'

/-- An inner character is one of the characters of a label. -/
theorem isLabelInner_iff {c : Char} : isLabelInner c = true ↔ c ∈ labelCharacters := by
  have hcode {a b : Char} : a ≤ b ↔ a.toNat ≤ b.toNat := Iff.rfl
  constructor
  · intro h
    have hsmall : c.toNat < 0x80 := by
      simp only [isLabelInner, isLabelEnd, Bool.or_eq_true, Bool.and_eq_true, decide_eq_true_eq,
        beq_iff_eq, hcode] at h
      rcases h with (⟨-, h⟩ | ⟨-, h⟩) | rfl
      · exact Nat.lt_of_le_of_lt h (by decide)
      · exact Nat.lt_of_le_of_lt h (by decide)
      · decide
    exact Text.forall_ascii (P := fun c ↦ isLabelInner c = true → c ∈ labelCharacters) (by decide)
      hsmall h
  · exact fun h ↦ List.all_eq_true.mp (by decide : labelCharacters.all isLabelInner = true) c h

/-- A character may stand at an end of a label if it may stand inside and is no hyphen. -/
theorem isLabelEnd_iff {c : Char} : isLabelEnd c = true ↔ isLabelInner c = true ∧ c ≠ '-' := by
  have hhyphen : isLabelEnd '-' = false := by decide
  by_cases h : c = '-'
  · simp [h, hhyphen]
  · simp [isLabelInner, h]

/-- What may follow the first character of a label by its characters: inner ones and an end. -/
theorem isLabelTail_iff {cs : List Char} :
    isLabelTail cs = true ↔ (∀ c ∈ cs, isLabelInner c = true) ∧ cs.getLast? ≠ some '-' := by
  induction cs with
  | nil => simp [isLabelTail]
  | cons c rest ih =>
    cases rest with
    | nil => simp [isLabelTail, isLabelEnd_iff]
    | cons next rest =>
      rw [isLabelTail, Bool.and_eq_true, ih, List.forall_mem_cons (a := c),
        List.getLast?_cons_cons, and_assoc]
      exact nofun

/-- The shape of a label by its characters. -/
theorem isLabelShape_iff {cs : List Char} : isLabelShape cs = true ↔
    cs ≠ [] ∧ (∀ c ∈ cs, isLabelInner c = true) ∧ cs.head? ≠ some '-' ∧ cs.getLast? ≠ some '-' := by
  cases cs with
  | nil => simp [isLabelShape]
  | cons c rest =>
    rw [isLabelShape, Bool.and_eq_true, isLabelEnd_iff, isLabelTail_iff, List.forall_mem_cons]
    cases rest with
    | nil => simp
    | cons next rest => simp [and_assoc, and_left_comm]

/-- A text is accepted as a label exactly if its characters make one. -/
theorem isDnsLabel_iff {s : String} : isDnsLabel s = true ↔ IsLabel s := by
  rw [isDnsLabel, Bool.and_eq_true, decide_eq_true_iff, isLabelShape_iff]
  simp only [isLabelInner_iff]
  constructor
  · rintro ⟨hbounded, hne, hcharacters, hfirst, hlast⟩
    have hlength : 1 ≤ s.length := by
      rw [← String.length_toList]
      exact List.length_pos_iff.mpr hne
    exact ⟨hlength, hbounded, hcharacters, hfirst, hlast⟩
  · rintro ⟨hlength, hbounded, hcharacters, hfirst, hlast⟩
    rw [← String.length_toList] at hlength
    exact ⟨hbounded, List.length_pos_iff.mp hlength, hcharacters, hfirst, hlast⟩

/-! ## Labels by a regular expression -/

/-- The expression for one of some characters. -/
def oneOf (cs : List Char) : RegularExpression Char := (cs.map .char).sum

/-- The expression for up to `n` of some characters. -/
def upTo (n : Nat) (cs : List Char) : RegularExpression Char := (1 + oneOf cs) ^ n

/-- The characters at the ends of a label. -/
def labelEnds : List Char := labelCharacters.filter (· ≠ '-')

/-- The labels: an end, and after it either nothing or up to 61 inner characters and an end. -/
def labelExpression : RegularExpression Char :=
  oneOf labelEnds * (1 + upTo 61 labelCharacters * oneOf labelEnds)

/-- One of some characters is a text of one of them. -/
theorem mem_oneOf {cs word : List Char} :
    word ∈ (oneOf cs).matches' ↔ ∃ c ∈ cs, word = [c] := by
  unfold oneOf
  induction cs with
  | nil => simp
  | cons c rest ih =>
    rw [List.map_cons, List.sum_cons, RegularExpression.matches'_add, Language.mem_add, ih,
      RegularExpression.matches'_char, List.exists_mem_cons_iff]
    rfl

/-- Up to some number of some characters is a text of no more characters, all of them among these.
-/
theorem mem_upTo {n : Nat} {cs word : List Char} :
    word ∈ (upTo n cs).matches' ↔ word.length ≤ n ∧ ∀ c ∈ word, c ∈ cs := by
  unfold upTo
  rw [RegularExpression.matches'_pow, RegularExpression.matches'_add]
  induction n generalizing word with
  | zero =>
    rw [pow_zero, Language.mem_one, Nat.le_zero, List.length_eq_zero_iff]
    exact ⟨fun h ↦ ⟨h, by simp [h]⟩, And.left⟩
  | succ n ih =>
    rw [pow_succ', Language.mem_mul]
    constructor
    · rintro ⟨first, hfirst, rest, hrest, rfl⟩
      obtain ⟨hlength, hrest⟩ := ih.mp hrest
      rcases (Language.mem_add _ _ _).mp hfirst with hfirst | hfirst
      · obtain rfl : first = [] := by simpa using hfirst
        exact ⟨Nat.le_succ_of_le hlength, hrest⟩
      · obtain ⟨c, hc, rfl⟩ := mem_oneOf.mp hfirst
        exact ⟨Nat.succ_le_succ hlength, List.forall_mem_cons.mpr ⟨hc, hrest⟩⟩
    · rintro ⟨hlength, hword⟩
      cases word with
      | nil =>
        exact ⟨[], .inl rfl, [], ih.mpr ⟨Nat.zero_le n, hword⟩, rfl⟩
      | cons c rest =>
        obtain ⟨hc, hrest⟩ := List.forall_mem_cons.mp hword
        refine ⟨[c], .inr (mem_oneOf.mpr ⟨c, hc, rfl⟩), rest, ?_, rfl⟩
        exact ih.mpr ⟨Nat.le_of_succ_le_succ hlength, hrest⟩

/-- A character at an end of a label is one of the characters that may stand there. -/
theorem mem_labelEnds {c : Char} : c ∈ labelEnds ↔ isLabelEnd c = true := by
  rw [labelEnds, List.mem_filter, decide_eq_true_iff, isLabelEnd_iff, isLabelInner_iff]

/-- What follows the first character of a label ends in an end, unless it is nothing. -/
theorem isLabelTail_concat {cs : List Char} {c : Char} : isLabelTail (cs ++ [c]) = true ↔
    (∀ c ∈ cs, c ∈ labelCharacters) ∧ c ∈ labelEnds := by
  rw [isLabelTail_iff, List.getLast?_concat, mem_labelEnds, isLabelEnd_iff, List.forall_mem_append]
  simp [isLabelInner_iff, and_assoc]

/-- The expression for labels matches an end alone, or an end, up to 61 inner characters and an end.
-/
theorem matches_labelExpression {cs : List Char} : cs ∈ labelExpression.matches' ↔
    ∃ c ∈ labelEnds, cs = [c] ∨ ∃ inner : List Char, ∃ last ∈ labelEnds,
      inner.length ≤ 61 ∧ (∀ c ∈ inner, c ∈ labelCharacters) ∧ cs = c :: (inner ++ [last]) := by
  unfold labelExpression
  simp only [RegularExpression.matches'_mul, RegularExpression.matches'_add,
    RegularExpression.matches'_epsilon, Language.mem_mul, Language.mem_add, Language.mem_one,
    mem_oneOf, mem_upTo]
  constructor
  · rintro ⟨_, ⟨c, hc, rfl⟩, _, rfl | ⟨inner, ⟨hlength, hinner⟩, _, ⟨last, hlast, rfl⟩, rfl⟩, rfl⟩
    · exact ⟨c, hc, .inl rfl⟩
    · exact ⟨c, hc, .inr ⟨inner, last, hlast, hlength, hinner, rfl⟩⟩
  · rintro ⟨c, hc, rfl | ⟨inner, last, hlast, hlength, hinner, rfl⟩⟩
    · exact ⟨[c], ⟨c, hc, rfl⟩, [], .inl rfl, rfl⟩
    · exact ⟨[c], ⟨c, hc, rfl⟩, _,
        .inr ⟨inner, ⟨hlength, hinner⟩, [last], ⟨last, hlast, rfl⟩, rfl⟩, rfl⟩

/-- A text is accepted as a label exactly if it matches the expression for labels. -/
theorem isDnsLabel_iff_matches {s : String} :
    isDnsLabel s = true ↔ s.toList ∈ labelExpression.matches' := by
  rw [isDnsLabel, Bool.and_eq_true, decide_eq_true_iff, ← String.length_toList,
    matches_labelExpression]
  cases s.toList with
  | nil => simp [isLabelShape]
  | cons c rest =>
    rw [isLabelShape, Bool.and_eq_true, ← mem_labelEnds]
    rcases List.eq_nil_or_concat rest with rfl | ⟨inner, last, rfl⟩
    · simp [isLabelTail, maxLabelLength]
    · rw [List.concat_eq_append, isLabelTail_concat]
      constructor
      · rintro ⟨hlength, hc, hinner, hlast⟩
        refine ⟨c, hc, .inr ⟨inner, last, hlast, ?_, hinner, rfl⟩⟩
        simp only [maxLabelLength, List.length_cons, List.length_append, List.length_nil] at hlength
        omega
      · rintro ⟨c', hc, h | ⟨inner', last', hlast, hlength, hinner, h⟩⟩
        · simp at h
        · obtain ⟨rfl, hrest⟩ := List.cons.inj h
          obtain ⟨rfl, hsame⟩ := List.append_inj' hrest rfl
          obtain rfl := List.singleton_inj.mp hsame
          refine ⟨?_, hc, hinner, hlast⟩
          simp only [maxLabelLength, List.length_cons, List.length_append, List.length_nil]
          omega

/-! ## The namespace of an instance -/

variable {stem instanceId ns : String}

/-- An instance has its joined name as a namespace exactly if it has an id and this is a label. -/
theorem namespaceFor_eq_ok_iff : namespaceFor stem instanceId = .ok ns ↔
    instanceId ≠ "" ∧ IsLabel (joinedName stem instanceId) ∧ ns = joinedName stem instanceId := by
  rw [← isDnsLabel_iff]
  unfold namespaceFor
  split
  · next hempty => simp [hempty]
  · next hsome =>
    split
    · next hlabel => simp [hsome, hlabel, eq_comm (b := ns)]
    · next hlabel => simp [hlabel]

/-- The namespace of an instance is a label. -/
theorem isLabel_of_namespaceFor (h : namespaceFor stem instanceId = .ok ns) : IsLabel ns := by
  obtain ⟨-, hlabel, rfl⟩ := namespaceFor_eq_ok_iff.mp h
  exact hlabel

/-- An instance without an id, or whose joined name is no label, has no namespace. -/
theorem namespaceFor_eq_error_iff {fault : NameFault} :
    namespaceFor stem instanceId = .error fault ↔
      instanceId = "" ∧ fault = .noInstanceId ∨
      instanceId ≠ "" ∧ ¬ IsLabel (joinedName stem instanceId) ∧
        fault = .unusableInstanceId instanceId := by
  rw [← isDnsLabel_iff]
  unfold namespaceFor
  split
  · next hempty => simp [hempty, eq_comm (b := fault)]
  · next hsome =>
    split
    · next hlabel => simp [hsome, hlabel]
    · next hlabel => simp [hsome, hlabel, eq_comm (b := fault)]

/-! ## Names in a command line -/

/-- A word of a command line that is no option, and that is one word: it does not begin with a
hyphen and has no blank. -/
def IsPlainWord (word : String) : Prop :=
  word.toList.head? ≠ some '-' ∧ ∀ c ∈ word.toList, Text.isBlank c = false

/-- The characters of a label are not blank. -/
theorem not_isBlank_of_mem {c : Char} (h : c ∈ labelCharacters) : Text.isBlank c = false :=
  Text.forall_not_isBlank (by decide) c h

/-- A label is a plain word. -/
theorem IsLabel.isPlainWord (h : IsLabel ns) : IsPlainWord ns :=
  ⟨h.first, fun c hc ↦ not_isBlank_of_mem (h.characters c hc)⟩

/-- The name of the cluster-wide role of a label is a plain word. -/
theorem IsLabel.isPlainWord_clusterScopedName (h : IsLabel ns) :
    IsPlainWord (clusterScopedName ns) := by
  have hcharacters : (clusterScopedName ns).toList = (operatorName ++ "-").toList ++ ns.toList := by
    simp [clusterScopedName]
  have hstem : ∀ c ∈ (operatorName ++ "-").toList, Text.isBlank c = false :=
    Text.forall_not_isBlank (by decide)
  refine ⟨?_, ?_⟩
  · rw [hcharacters]
    rintro ⟨⟩
  · rw [hcharacters]
    intro c hc
    rcases List.mem_append.mp hc with hc | hc
    · exact hstem c hc
    · exact not_isBlank_of_mem (h.characters c hc)

/-! ## The names of tenants -/

/-- A text is accepted as a label exactly if its characters make one, which is to say that it
matches the expression for labels. An instance has a namespace exactly if it has an id and the
joined name is a label, and then this name is the namespace; in every other case the reason says
which of the two is missing. Under one prefix no two instances share a namespace or the name of the
cluster-wide role, and both are plain words. -/
theorem names_exact (stem : String) :
    (∀ s, (isDnsLabel s = true ↔ IsLabel s) ∧
      (isDnsLabel s = true ↔ s.toList ∈ labelExpression.matches')) ∧
    (∀ instanceId,
      (∀ ns, namespaceFor stem instanceId = .ok ns ↔
        instanceId ≠ "" ∧ IsLabel (stem ++ "-" ++ instanceId) ∧ ns = stem ++ "-" ++ instanceId) ∧
      ∀ fault, namespaceFor stem instanceId = .error fault ↔
        instanceId = "" ∧ fault = .noInstanceId ∨
        instanceId ≠ "" ∧ ¬ IsLabel (stem ++ "-" ++ instanceId) ∧
          fault = .unusableInstanceId instanceId) ∧
    (∀ instanceId other ns ns', namespaceFor stem instanceId = .ok ns →
      namespaceFor stem other = .ok ns' →
      ns = ns' ∨ clusterScopedName ns = clusterScopedName ns' → instanceId = other) ∧
    ∀ instanceId ns, namespaceFor stem instanceId = .ok ns →
      IsPlainWord ns ∧ IsPlainWord (clusterScopedName ns) := by
  refine ⟨fun s ↦ ⟨isDnsLabel_iff, isDnsLabel_iff_matches⟩, fun instanceId ↦ ⟨fun ns ↦ ?_,
    fun fault ↦ ?_⟩, ?_, ?_⟩
  · exact namespaceFor_eq_ok_iff
  · exact namespaceFor_eq_error_iff
  · intro instanceId other ns ns' h h' hsame
    obtain rfl : ns = ns' := hsame.elim id clusterScopedName_inj.mp
    exact instance_unique h h'
  · intro instanceId ns h
    have hlabel := isLabel_of_namespaceFor h
    exact ⟨hlabel.isPlainWord, hlabel.isPlainWord_clusterScopedName⟩

/-- After the prefix and its hyphen there is room for 57 characters and not for one more. -/
theorem names_exact_longest :
    let instanceId := String.ofList (List.replicate 57 'a')
    namespaceFor "rhpam" instanceId = .ok ("rhpam-" ++ instanceId) ∧
      namespaceFor "rhpam" (instanceId ++ "a") =
        .error (.unusableInstanceId (instanceId ++ "a")) ∧
      clusterScopedName ("rhpam-" ++ instanceId) ≠ clusterScopedName "rhpam-a" ∧
      IsPlainWord (clusterScopedName ("rhpam-" ++ instanceId)) := by
  intro instanceId
  obtain ⟨-, hspace, hunique, hword⟩ := names_exact "rhpam"
  have hlong : namespaceFor "rhpam" instanceId = .ok ("rhpam-" ++ instanceId) :=
    ((hspace instanceId).1 _).mpr ⟨by decide, isDnsLabel_iff.mp (by decide), by decide⟩
  have hshort : namespaceFor "rhpam" "a" = .ok "rhpam-a" :=
    ((hspace "a").1 _).mpr ⟨by decide, isDnsLabel_iff.mp (by decide), by decide⟩
  have htooLong : ¬ IsLabel ("rhpam" ++ "-" ++ (instanceId ++ "a")) := fun h ↦
    absurd h.bounded (by decide)
  refine ⟨hlong, ((hspace _).2 _).mpr (.inr ⟨by decide, htooLong, rfl⟩), ?_, (hword _ _ hlong).2⟩
  intro hsame
  exact absurd (hunique _ _ _ _ hlong hshort (.inr hsame)) (by decide)

end TenantBroker.Tenant
