import TenantBroker.Proofs.Kubectl.Runs
import TenantBroker.Proofs.Text.Occurrence

/-!
# The category of two streams

The two streams of a failed command are searched as one text with a line break between them. No
pattern has a line break, so a pattern is met exactly if one of the streams has it, and the category
is the higher one of the categories of the two streams alone.
-/

namespace TenantBroker.Cluster

/-- The rank of a category: what says something about the cluster is above what does not. -/
def Category.rank : Category → Nat
  | .fatal => 0
  | .retryable => 1
  | .notFound => 2
  | .alreadyExists => 3

/-- The higher-ranked one of two categories. -/
def Category.higher (a b : Category) : Category := if a.rank < b.rank then b else a

end TenantBroker.Cluster

namespace TenantBroker.Kubectl

open Cluster (Category CommandFailure)
open Text (Covered Shows ShowsAny)

/-! ## The tables of patterns -/

/-- All tables of patterns. -/
def patternTables : List (List String) :=
  [alreadyExistsPatterns, notFoundPatterns, retryablePatterns, unsentPatterns, ambiguousPatterns]

variable {patterns : List String}

/-- No character from beyond ASCII makes a difference to any of the tables. -/
theorem covered_of_mem (h : patterns ∈ patternTables) : Covered patterns :=
  (by decide : ∀ patterns ∈ patternTables, Covered patterns) patterns h

/-- No pattern of any table has a line break. -/
theorem no_break_of_mem (h : patterns ∈ patternTables) {pattern : String}
    (hpattern : pattern ∈ patterns) : '\n' ∉ pattern.toList :=
  (by decide : ∀ patterns ∈ patternTables, ∀ pattern ∈ patterns, '\n' ∉ pattern.toList) patterns h
    pattern hpattern

/-- The empty text mentions no pattern of any table. -/
theorem mentions_empty (h : patterns ∈ patternTables) : Text.mentions "" patterns = false :=
  (by decide : ∀ patterns ∈ patternTables, Text.mentions "" patterns = false) patterns h

variable {stderr stdout : String}

/-- The streams together mention a pattern of a table exactly if one of them does. -/
theorem mentions_joinStreams (h : patterns ∈ patternTables) :
    Text.mentions (joinStreams stderr stdout) patterns =
      (Text.mentions stderr patterns || Text.mentions stdout patterns) := by
  have hcovered := covered_of_mem h
  rw [Bool.eq_iff_iff, Bool.or_eq_true, Text.mentions_iff_showsAny hcovered,
    Text.mentions_iff_showsAny hcovered, Text.mentions_iff_showsAny hcovered]
  exact Text.showsAny_break_iff fun pattern ↦ no_break_of_mem h

/-! ## The category of texts -/

/-- The category that three findings make, the first one that is there. -/
def categoryOf (existing missing passing : Bool) : Category :=
  if existing then .alreadyExists else if missing then .notFound
  else if passing then .retryable else .fatal

/-- Findings in either of two texts make the higher-ranked one of the two categories. -/
theorem categoryOf_or (a b c a' b' c' : Bool) : categoryOf (a || a') (b || b') (c || c') =
    (categoryOf a b c).higher (categoryOf a' b' c') := by
  revert a b c a' b' c'
  decide

/-- The category of two streams by the patterns that each of them mentions. -/
theorem textCategory_joinStreams (stderr stdout : String) :
    textCategory (joinStreams stderr stdout) = categoryOf
      (Text.mentions stderr alreadyExistsPatterns || Text.mentions stdout alreadyExistsPatterns)
      (Text.mentions stderr notFoundPatterns || Text.mentions stdout notFoundPatterns)
      (Text.mentions stderr retryablePatterns || Text.mentions stdout retryablePatterns) := by
  rw [textCategory, mentions_joinStreams (by decide), mentions_joinStreams (by decide),
    mentions_joinStreams (by decide), categoryOf]

variable {code : Int}

/-- A command that could be run and was not interrupted is judged by its texts. -/
theorem classify_of_runnable (hcode : 0 < code) (hrunnable : code ∉ unrunnableCodes)
    (stderr stdout : String) :
    classify code stderr stdout = textCategory (joinStreams stderr stdout) := by
  unfold classify
  rw [if_neg (by omega), if_neg (by simpa using hrunnable)]

/-- The category of two streams is the higher-ranked one of the categories of each alone. -/
theorem classify_eq_higher (hcode : 0 < code) (hrunnable : code ∉ unrunnableCodes)
    (stderr stdout : String) : classify code stderr stdout =
      (classify code stderr "").higher (classify code "" stdout) := by
  simp only [classify_of_runnable hcode hrunnable, textCategory_joinStreams, ← categoryOf_or]
  simp only [mentions_empty (show alreadyExistsPatterns ∈ patternTables by decide),
    mentions_empty (show notFoundPatterns ∈ patternTables by decide),
    mentions_empty (show retryablePatterns ∈ patternTables by decide), Bool.or_false,
    Bool.false_or]

/-- The streams can be exchanged. -/
theorem classify_comm (hcode : 0 < code) (hrunnable : code ∉ unrunnableCodes)
    (stderr stdout : String) : classify code stderr stdout = classify code stdout stderr := by
  simp only [classify_of_runnable hcode hrunnable, textCategory_joinStreams, Bool.or_comm]

/-- The case of ASCII letters does not count. -/
theorem classify_congr {stderr' stdout' : String} (hstderr : stderr'.toLower = stderr.toLower)
    (hstdout : stdout'.toLower = stdout.toLower) (hcode : 0 < code)
    (hrunnable : code ∉ unrunnableCodes) :
    classify code stderr' stdout' = classify code stderr stdout := by
  simp only [classify_of_runnable hcode hrunnable, textCategory_joinStreams,
    Text.mentions_congr hstderr, Text.mentions_congr hstdout]

/-- What a text says by the patterns that its full lower case shows: of the three tables that stand
for a category the first one counts. -/
def Says (text : String) : Category → Prop
  | .alreadyExists => ShowsAny text alreadyExistsPatterns
  | .notFound => ¬ ShowsAny text alreadyExistsPatterns ∧ ShowsAny text notFoundPatterns
  | .retryable => ¬ ShowsAny text alreadyExistsPatterns ∧ ¬ ShowsAny text notFoundPatterns ∧
      ShowsAny text retryablePatterns
  | .fatal => ¬ ShowsAny text alreadyExistsPatterns ∧ ¬ ShowsAny text notFoundPatterns ∧
      ¬ ShowsAny text retryablePatterns

/-- The category of a command is what its streams say. -/
theorem classify_eq_iff (hcode : 0 < code) (hrunnable : code ∉ unrunnableCodes)
    (stderr stdout : String) (category : Category) :
    classify code stderr stdout = category ↔ Says (joinStreams stderr stdout) category := by
  have hexisting : Covered alreadyExistsPatterns := covered_of_mem (by decide)
  have hmissing : Covered notFoundPatterns := covered_of_mem (by decide)
  have hpassing : Covered retryablePatterns := covered_of_mem (by decide)
  rw [classify_of_runnable hcode hrunnable, textCategory]
  generalize joinStreams stderr stdout = text
  cases category <;> simp only [Says, ← Text.mentions_iff_showsAny hexisting,
    ← Text.mentions_iff_showsAny hmissing, ← Text.mentions_iff_showsAny hpassing] <;>
    cases Text.mentions text alreadyExistsPatterns <;> cases Text.mentions text notFoundPatterns <;>
    cases Text.mentions text retryablePatterns <;> simp

/-! ## Failed commands -/

/-- The failure of a command that ended with a return code and two streams. -/
def failed (summary : String) (words : List String) (code : Int) (stderr stdout : String) :
    CommandFailure := ⟨summary, words, code, stdout, stderr, classify code stderr stdout⟩

variable {summary : String} {words : List String}

/-- A request was provably not sent if its failure may pass, no stream leaves it open and one of
them says so. -/
theorem isUnsent_failed_iff (hcode : 0 < code) :
    isUnsent (failed summary words code stderr stdout) = true ↔
      classify code stderr stdout = .retryable ∧
      ¬ ShowsAny stderr ambiguousPatterns ∧ ¬ ShowsAny stdout ambiguousPatterns ∧
      (ShowsAny stderr unsentPatterns ∨ ShowsAny stdout unsentPatterns) := by
  have hambiguous : Covered ambiguousPatterns := covered_of_mem (by decide)
  have hunsent : Covered unsentPatterns := covered_of_mem (by decide)
  simp only [isUnsent, Bool.and_eq_true, decide_eq_true_eq, Bool.not_eq_true']
  simp only [failed, mentions_joinStreams (show ambiguousPatterns ∈ patternTables by decide),
    mentions_joinStreams (show unsentPatterns ∈ patternTables by decide), Bool.or_eq_false_iff,
    Bool.or_eq_true, ← Text.mentions_iff_showsAny hambiguous,
    ← Text.mentions_iff_showsAny hunsent, Bool.not_eq_true, Int.le_of_lt hcode, and_true,
    and_assoc]

/-- Whatever an interrupted command printed, its request may have been sent. -/
theorem isUnsent_failed_of_neg (hcode : code < 0) :
    isUnsent (failed summary words code stderr stdout) = false := by
  simp [isUnsent, failed, Int.not_le.mpr hcode]

/-- A command of texts that ended with a return code other than zero fails with what it printed. -/
theorem conclude_of_result {program : String} {limit : Option Number} {o : Outcome}
    (hresult : o.result limit ((program :: words).map .str) = .ok ⟨code, stdout, stderr⟩)
    (hcode : code ≠ 0) : conclude summary limit ((program :: words).map .str) o =
      .error (.cause (.command (failed summary (program :: words) code stderr stdout))) := by
  unfold conclude
  rw [hresult]
  simp only [if_neg hcode, Result.failure, words?_map_str, failed]

/-- A failed command counts as something missing, as something existing or as neither by its
category. -/
theorem counts_by_category (f : CommandFailure) :
    let failure : Cluster.Failure := .cause (.command f)
    (failure.isNotFound = true ↔ f.category = .notFound) ∧
    (failure.isAlreadyExists = true ↔ f.category = .alreadyExists) ∧
    (failure.isNotFound = false ∧ failure.isAlreadyExists = false ↔
      f.category = .retryable ∨ f.category = .fatal) := by
  obtain ⟨summary, command, returncode, stdout, stderr, category⟩ := f
  simp only [Cluster.Failure.isNotFound, Cluster.Failure.isAlreadyExists,
    Cluster.Failure.category?, Cluster.Cause.category?]
  cases category <;> simp

/-! ## The two streams of a failed command -/

/-- The category of a command that ran to a failure is that of its two streams together: the first
of already-exists, not-found and retryable that the full lower case of their text shows a pattern
of. It is the higher-ranked one of the categories of each stream alone, so the streams can be
exchanged and the case of ASCII letters does not count, and no pattern is met across the border of
the two. Its request was provably not sent exactly if the category is retryable, no stream shows
an ambiguous pattern and one of them shows an unsent one. An interrupted command is retryable and
may have been sent, and one that could not be run is fatal. A run that ends so is reported as
missing, as existing or as neither exactly by this category. -/
theorem classify_streams (stderr stdout : String) :
    (∀ code, 0 < code → code ∉ unrunnableCodes →
      (∀ category,
        classify code stderr stdout = category ↔ Says (joinStreams stderr stdout) category) ∧
      classify code stderr stdout =
        (classify code stderr "").higher (classify code "" stdout) ∧
      classify code stderr stdout = classify code stdout stderr ∧
      (∀ stderr' stdout', stderr'.toLower = stderr.toLower → stdout'.toLower = stdout.toLower →
        classify code stderr' stdout' = classify code stderr stdout) ∧
      ∀ summary words, isUnsent (failed summary words code stderr stdout) = true ↔
        classify code stderr stdout = .retryable ∧
        ¬ ShowsAny stderr ambiguousPatterns ∧ ¬ ShowsAny stdout ambiguousPatterns ∧
        (ShowsAny stderr unsentPatterns ∨ ShowsAny stdout unsentPatterns)) ∧
    (∀ patterns ∈ patternTables, ∀ pattern ∈ patterns,
      Shows (joinStreams stderr stdout) pattern ↔ Shows stderr pattern ∨ Shows stdout pattern) ∧
    (∀ code < 0, classify code stderr stdout = .retryable ∧
      ∀ summary words, isUnsent (failed summary words code stderr stdout) = false) ∧
    (∀ code ∈ unrunnableCodes, classify code stderr stdout = .fatal) ∧
    ∀ (summary program : String) (words : List String) (limit : Option Number) (o : Outcome) code,
      o.result limit ((program :: words).map .str) = .ok ⟨code, stdout, stderr⟩ → code ≠ 0 →
      ∃ f, conclude summary limit ((program :: words).map .str) o = .error f ∧
        f = .cause (.command (failed summary (program :: words) code stderr stdout)) ∧
        (f.isNotFound = true ↔ classify code stderr stdout = .notFound) ∧
        (f.isAlreadyExists = true ↔ classify code stderr stdout = .alreadyExists) ∧
        (f.isNotFound = false ∧ f.isAlreadyExists = false ↔
          classify code stderr stdout = .retryable ∨ classify code stderr stdout = .fatal) := by
  refine ⟨fun code hcode hrunnable ↦ ⟨classify_eq_iff hcode hrunnable stderr stdout,
    classify_eq_higher hcode hrunnable stderr stdout,
    classify_comm hcode hrunnable stderr stdout, fun stderr' stdout' hstderr hstdout ↦
      classify_congr hstderr hstdout hcode hrunnable, fun summary words ↦
        isUnsent_failed_iff hcode⟩, ?_, ?_, ?_, ?_⟩
  · intro patterns hpatterns pattern hpattern
    exact Text.shows_break_iff (no_break_of_mem hpatterns hpattern)
  · intro code hcode
    exact ⟨if_pos hcode, fun summary words ↦ isUnsent_failed_of_neg hcode⟩
  · intro code hcode
    have hpositive : ¬ code < 0 := (by decide : ∀ code ∈ unrunnableCodes, ¬ code < 0) code hcode
    rw [classify, if_neg hpositive, if_pos (List.contains_iff_mem.mpr hcode)]
  · intro summary program words limit o code hresult hcode
    exact ⟨_, conclude_of_result hresult hcode, rfl,
      counts_by_category (failed summary (program :: words) code stderr stdout)⟩

/-- A refused connection on one stream and an existing object on the other one count as the existing
object, which is ranked higher, unless the command was interrupted or could not be run. -/
theorem classify_streams_refused :
    let stderr := "dial tcp: Connection REFUSED"
    let stdout := "Error: a already exists"
    isUnsent (failed "create failed" ["kubectl"] 1 stderr "") = true ∧
      classify 1 stdout stderr = .alreadyExists ∧
      classify 1 "Dial TCP: connection refused" stdout = .alreadyExists ∧
      classify (-9) stderr stdout = .retryable ∧ classify 127 stderr stdout = .fatal ∧
      ∃ f, conclude "create failed" none [.str "kubectl"]
        (.finished 1 (some stdout) (some stderr)) = .error f ∧ f.isAlreadyExists = true := by
  intro stderr stdout
  have hmentions {patterns : List String} (h : patterns ∈ patternTables) (text : String) :=
    Text.mentions_iff_showsAny (covered_of_mem h) text
  have hexists : classify 1 stderr stdout = .alreadyExists := by decide
  have hsame : "Dial TCP: connection refused".toLower = stderr.toLower := by
    rw [← String.toList_inj, Text.toList_toLower, Text.toList_toLower]
    decide
  obtain ⟨hran, -, hinterrupted, hunrunnable, hrun⟩ := classify_streams stderr stdout
  obtain ⟨-, -, hcomm, hcase, -⟩ := hran 1 (by decide) (by decide)
  obtain ⟨-, -, -, -, hunsent⟩ := (classify_streams stderr "").1 1 (by decide) (by decide)
  obtain ⟨f, hf, -, -, hfound, -⟩ := hrun "create failed" "kubectl" [] none
    (.finished 1 (some stdout) (some stderr)) 1 rfl (by decide)
  refine ⟨(hunsent _ _).mpr ⟨by decide, ?_, ?_, .inl ?_⟩, hcomm.symm.trans hexists,
    (hcase _ _ hsame rfl).trans hexists, (hinterrupted (-9) (by decide)).1,
    hunrunnable 127 (by decide), f, hf, hfound.mpr hexists⟩
  · exact fun h ↦ absurd ((hmentions (by decide) stderr).mpr h) (by decide)
  · exact fun h ↦ absurd ((hmentions (by decide) "").mpr h) (by decide)
  · exact (hmentions (by decide) stderr).mp (by decide)

end TenantBroker.Kubectl
