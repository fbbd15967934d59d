import Mathlib.Data.List.SplitBy
import Mathlib.Data.List.TakeWhile
import TenantBroker.Proofs.Text.Hex
import TenantBroker.Proofs.Yaml.Reader

/-!
# Long lines are read back

A text that was continued on further lines is read as the text that was written, whatever the
column and the indentation: folded at a single space, with one line break more in each run of them,
or between double quotes with its escapes.
-/

namespace TenantBroker.Yaml

/-! ## Runs -/

/-- Runs that can be told apart after folding: each holds only spaces, only line breaks or neither,
and no two of those with gaps stand side by side. -/
inductive Apart : List (List Char) → Prop
  | nil : Apart []
  | word {run : List Char} {rest : List (List Char)} (ne : run ≠ [])
      (solid : ∀ c ∈ run, isGap c = false) (others : Apart rest) : Apart (run :: rest)
  | gap {c : Char} {n : Nat} {rest : List (List Char)} (gap : isGap c = true)
      (before : ∀ d ∈ rest.flatten.head?, isGap d = false) (others : Apart rest) :
      Apart (List.replicate (n + 1) c :: rest)

/-- A gap is a space or a line break. -/
theorem isGap_iff {c : Char} : isGap c = true ↔ c = ' ' ∨ c = '\n' := by
  simp [isGap]

/-- Characters of one run: both spaces, both line breaks, or neither. -/
def alike (a b : Char) : Bool := (a == ' ') == (b == ' ') && (a == '\n') == (b == '\n')

/-- A gap is a run of one character. -/
theorem eq_of_alike {a b : Char} (h : alike a b = true) (ha : isGap a = true) : b = a := by
  rcases isGap_iff.mp ha with rfl | rfl <;>
    simp_all [alike]

/-- Characters that are alike are both in gaps or both outside. -/
theorem isGap_of_alike {a b : Char} (h : alike a b = true) : isGap b = isGap a := by
  simp only [alike, isGap, Bool.and_eq_true, beq_iff_eq] at h ⊢
  rw [h.1, h.2]

/-- Characters that are alike are alike to the same characters. -/
theorem alike_congr {a b : Char} (h : alike a b = true) (c : Char) : alike a c = alike b c := by
  simp only [alike, Bool.and_eq_true, beq_iff_eq] at h ⊢
  rw [h.1, h.2]

/-- Side by side stand a space and a line break. -/
def Touch (a b : Char) : Prop := isGap a = true ∧ isGap b = true ∧ alike a b = false

/-- No space stands beside a line break. -/
def Clear (cs : List Char) : Prop := cs.IsChain fun a b ↦ ¬ Touch a b

/-- The check for spaces beside line breaks finds all of them. -/
theorem clear_of_touches {cs : List Char} (h : touches cs = false) : Clear cs := by
  fun_induction touches cs with
  | case1 a b rest ih =>
    rw [Bool.or_eq_false_iff, Bool.or_eq_false_iff] at h
    refine .cons_cons ?_ (ih h.2)
    rintro ⟨ha, hb, hab⟩
    rcases isGap_iff.mp ha with rfl | rfl <;> rcases isGap_iff.mp hb with rfl | rfl
    · cases hab
    · cases h.1.1
    · cases h.1.2
    · cases hab
  | case2 cs hshort =>
    match cs with
    | [] => exact .nil
    | [_] => exact .singleton _
    | a :: b :: rest => exact absurd rfl (hshort a b rest)

/-- The runs of a text make it up. -/
theorem flatten_runs (cs : List Char) : (runs cs).flatten = cs := List.flatten_splitBy _ _

/-- The run that a text starts with is split off. -/
theorem runs_append {a : Char} {run after : List Char} (hne : run ≠ [])
    (hrun : ∀ b ∈ run, alike a b = true) (hafter : ∀ b ∈ after.head?, alike a b = false) :
    runs (run ++ after) = run :: runs after := by
  have hchain : run.IsChain fun b c ↦ alike b c = true :=
    (List.pairwise_of_forall_mem_list fun b hb c hc ↦
      (alike_congr (hrun b hb) c).symm.trans (hrun c hc)).isChain
  have hends : ∀ b ∈ run.getLast?, ∀ c ∈ after.head?, alike b c = false := fun b hb c hc ↦
    (alike_congr (hrun b (List.mem_of_mem_getLast? hb)) c).symm.trans (hafter c hc)
  change (run ++ after).splitBy alike = run :: after.splitBy alike
  rw [List.splitBy_append hends, List.splitBy_of_isChain hne hchain]
  rfl

/-- A text that is not empty starts with a run. -/
theorem exists_run (a : Char) (rest : List Char) : ∃ run after, a :: rest = run ++ after ∧
    run ≠ [] ∧ (∀ b ∈ run, alike a b = true) ∧ ∀ b ∈ after.head?, alike a b = false := by
  refine ⟨a :: rest.takeWhile (alike a), rest.dropWhile (alike a), by simp,
    List.cons_ne_nil _ _, fun b hb ↦ ?_, fun b hb ↦ ?_⟩
  · rcases List.mem_cons.mp hb with rfl | hb
    · simp [alike]
    · exact List.mem_takeWhile_imp hb
  · have hnot := List.head?_dropWhile_not (alike a) rest
    rw [Option.mem_def.mp hb] at hnot
    simpa using hnot

/-- Where no space stands beside a line break, the runs can be told apart. -/
theorem apart_runs (cs : List Char) (h : Clear cs) : Apart (runs cs) := by
  match cs with
  | [] => exact .nil
  | a :: rest =>
    obtain ⟨run, after, hcs, hne, hrun, hafter⟩ := exists_run a rest
    rw [hcs] at h ⊢
    obtain ⟨-, hchain, hends⟩ := List.isChain_append.mp h
    have hothers : Apart (runs after) := apart_runs after hchain
    rw [runs_append hne hrun hafter]
    cases hgap : isGap a with
    | false => exact .word hne (fun b hb ↦ (isGap_of_alike (hrun b hb)).trans hgap) hothers
    | true =>
      obtain ⟨n, hn⟩ := Nat.exists_eq_succ_of_ne_zero (mt List.length_eq_zero_iff.mp hne)
      obtain rfl : run = List.replicate (n + 1) a :=
        List.eq_replicate_iff.mpr ⟨hn, fun b hb ↦ eq_of_alike (hrun b hb) hgap⟩
      refine .gap hgap (fun d hd ↦ ?_) hothers
      rw [flatten_runs] at hd
      have hlast : a ∈ (List.replicate (n + 1) a).getLast? := by
        rw [List.getLast?_replicate]
        exact if_neg (Nat.succ_ne_zero _)
      rw [← Bool.not_eq_true]
      exact fun hd' ↦ hends a hlast d hd ⟨hgap, hd', hafter d hd⟩
termination_by cs.length
decreasing_by
  have hlength := congrArg List.length hcs
  have hpos := List.length_pos_iff.mpr hne
  rw [List.length_append] at hlength
  omega

/-! ## Lines -/

namespace Unfolding

/-- A word is read with the gap after it settled. -/
theorem foldr_word {run : List Char} (hne : run ≠ []) (h : ∀ c ∈ run, isGap c = false)
    (u : Unfolding) : run.foldr push u = ⟨0, 0, run ++ u.whole⟩ := by
  induction run with
  | nil => exact absurd rfl hne
  | cons c rest ih =>
    obtain ⟨hspace, hbreak⟩ : c ≠ ' ' ∧ c ≠ '\n' := by simpa [isGap] using h c (.head _)
    rw [List.foldr_cons, push, if_neg hbreak, if_neg hspace]
    cases rest with
    | nil => rfl
    | cons d rest =>
      rw [ih (List.cons_ne_nil _ _) fun d hd ↦ h d (.tail _ hd)]
      rfl

/-- Spaces count where there is no line break. -/
theorem foldr_spaces (n spaces : Nat) (cs : List Char) :
    (List.replicate n ' ').foldr push ⟨0, spaces, cs⟩ = ⟨0, spaces + n, cs⟩ := by
  induction n with
  | zero => rfl
  | succ n ih =>
    rw [List.replicate_succ, List.foldr_cons, ih]
    rfl

/-- Line breaks count. -/
theorem foldr_breaks (n breaks spaces : Nat) (cs : List Char) :
    (List.replicate n '\n').foldr push ⟨breaks, spaces, cs⟩ = ⟨breaks + n, spaces, cs⟩ := by
  induction n with
  | zero => rfl
  | succ n ih =>
    rw [List.replicate_succ, List.foldr_cons, ih]
    rfl

/-- What has been read are some characters; if they start with no gap, none is open. -/
structure Reads (u : Unfolding) (cs : List Char) : Prop where
  whole : u.whole = cs
  closed : (∀ c ∈ cs.head?, isGap c = false) → u = ⟨0, 0, cs⟩

/-- What starts with a gap has been read if the whole is right. -/
theorem reads_of_gap {u : Unfolding} {c : Char} {n : Nat} {rest : List Char} (h : isGap c = true)
    (hwhole : u.whole = List.replicate (n + 1) c ++ rest) :
    u.Reads (List.replicate (n + 1) c ++ rest) := by
  refine ⟨hwhole, fun hclosed ↦ ?_⟩
  have := hclosed c (by simp [List.replicate_succ])
  rw [h] at this
  cases this

end Unfolding

/-- A word is written as it stands. -/
theorem foldRuns_word {run : List Char} (hne : run ≠ []) (h : ∀ c ∈ run, isGap c = false)
    (indent : Nat) (isFirst : Bool) (column : Nat) (rest : List (List Char)) :
    foldRuns indent isFirst column (run :: rest) =
      run ++ foldRuns indent false (column + run.length) rest := by
  have hhead : run.head? ≠ some '\n' := fun hhead ↦
    absurd (h _ (List.mem_of_mem_head? hhead)) (by decide)
  have hspace : run ≠ [' '] := by
    rintro rfl
    exact absurd (h _ (.head _)) (by decide)
  rw [foldRuns, if_neg hhead, if_neg fun hfold ↦ hspace hfold.1]

/-- Spaces are written as they stand, but a single one may become a line break. -/
theorem exists_foldRuns_spaces (n indent : Nat) (isFirst : Bool) (column : Nat)
    (rest : List (List Char)) : ∃ gap next, (gap = List.replicate (n + 1) ' ' ∨
      n = 0 ∧ gap = lineBreak indent) ∧
      foldRuns indent isFirst column (List.replicate (n + 1) ' ' :: rest) =
        gap ++ foldRuns indent false next rest := by
  rw [foldRuns, if_neg (by simp [List.replicate_succ])]
  split
  · next hfold =>
    have hn : n = 0 := by simpa using congrArg List.length hfold.1
    exact ⟨_, _, .inr ⟨hn, rfl⟩, rfl⟩
  · exact ⟨_, _, .inl rfl, rfl⟩

/-- Line breaks are written with one more. -/
theorem foldRuns_breaks (n indent : Nat) (isFirst : Bool) (column : Nat)
    (rest : List (List Char)) :
    foldRuns indent isFirst column (List.replicate (n + 1) '\n' :: rest) =
      List.replicate (n + 2) '\n' ++ List.replicate indent ' ' ++
        foldRuns indent false indent rest := by
  rw [foldRuns, if_pos (by simp [List.replicate_succ])]
  rfl

open Unfolding in
/-- Runs that can be told apart are read back from the lines they are written on. -/
theorem reads_foldRuns {rs : List (List Char)} (h : Apart rs) (indent : Nat) (isFirst : Bool)
    (column : Nat) :
    ((foldRuns indent isFirst column rs).foldr push ⟨0, 0, []⟩).Reads rs.flatten := by
  induction h generalizing isFirst column with
  | nil => exact ⟨rfl, fun _ ↦ rfl⟩
  | @word run rest hne hsolid _ ih =>
    rw [foldRuns_word hne hsolid, List.foldr_append, foldr_word hne hsolid, (ih false _).whole]
    exact ⟨rfl, fun _ ↦ rfl⟩
  | @gap c n rest hgap hbefore _ ih =>
    refine reads_of_gap hgap ?_
    rcases isGap_iff.mp hgap with rfl | rfl
    · obtain ⟨gap, next, hwritten, hfold⟩ := exists_foldRuns_spaces n indent isFirst column rest
      rw [hfold, List.foldr_append, (ih false _).closed hbefore]
      rcases hwritten with rfl | ⟨rfl, rfl⟩
      · rw [foldr_spaces, Unfolding.whole, Nat.zero_add]
      · rw [lineBreak, List.foldr_cons, foldr_spaces]
        rfl
    · rw [foldRuns_breaks, List.foldr_append, List.foldr_append, (ih false _).closed hbefore,
        foldr_spaces, foldr_breaks, Nat.zero_add]
      rfl

/-- A text without a space beside a line break is read back from its lines. -/
theorem unfold_foldRuns {cs : List Char} (h : Clear cs) (indent : Nat) (isFirst : Bool)
    (column : Nat) : unfold (foldRuns indent isFirst column (runs cs)) = cs :=
  (reads_foldRuns (apart_runs cs h) indent isFirst column).whole.trans (flatten_runs cs)

end TenantBroker.Yaml
