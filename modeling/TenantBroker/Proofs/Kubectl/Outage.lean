import TenantBroker.Proofs.Kubectl.Runs

/-!
# Runs that are turned away

A run is turned away if it printed proof that the server never saw the request. Its failure is
retryable unless the text also says that something is missing or there already: these words are
looked for first, wherever in the text they come from. Where no run says so, no call ends in a way
that tells what is there.
-/

namespace TenantBroker.Kubectl

open Cluster (Call Category Failure)

/-! ## The category of a run that is turned away -/

/-- The patterns of texts that say what is there. -/
def tellingPatterns : List String := alreadyExistsPatterns ++ notFoundPatterns

/-- A text that mentions one of some patterns mentions one of more patterns. -/
theorem mentions_mono {text : String} {patterns more : List String}
    (hsub : ∀ pattern ∈ patterns, pattern ∈ more) (h : Text.mentions text patterns = true) :
    Text.mentions text more = true := by
  obtain ⟨pattern, hpattern, hoccurs⟩ := List.any_eq_true.mp h
  exact List.any_eq_true.mpr ⟨pattern, hsub pattern hpattern, hoccurs⟩

/-- A text mentions patterns of two sorts if it mentions one of either. -/
theorem mentions_append (text : String) (patterns others : List String) :
    Text.mentions text (patterns ++ others) =
      (Text.mentions text patterns || Text.mentions text others) := List.any_append

/-- A text that proves that the server never saw a request counts as retryable, unless it says what
is there. -/
theorem textCategory_of_unsent {text : String} (h : Text.mentions text unsentPatterns = true) :
    textCategory text = if Text.mentions text alreadyExistsPatterns then .alreadyExists
      else if Text.mentions text notFoundPatterns then .notFound else .retryable := by
  have hretryable : Text.mentions text retryablePatterns = true := mentions_mono (by decide) h
  unfold textCategory
  rw [if_pos hretryable]

variable {returncode : Int} {stdout stderr : String}

/-- The failure of a command that is turned away says what is there exactly if its text does. -/
theorem classify_of_unsent (hcode : 0 < returncode) (hrunnable : returncode ∉ unrunnableCodes)
    (h : Text.mentions (joinStreams stderr stdout) unsentPatterns = true) :
    (classify returncode stderr stdout = .notFound ∨
        classify returncode stderr stdout = .alreadyExists ↔
      Text.mentions (joinStreams stderr stdout) tellingPatterns = true) ∧
    (Text.mentions (joinStreams stderr stdout) tellingPatterns = false →
      classify returncode stderr stdout = .retryable) := by
  have hclassify :
      classify returncode stderr stdout = textCategory (joinStreams stderr stdout) := by
    unfold classify
    rw [if_neg (by omega), if_neg (by simpa using hrunnable)]
  rw [hclassify, textCategory_of_unsent h, tellingPatterns, mentions_append]
  cases Text.mentions (joinStreams stderr stdout) alreadyExistsPatterns <;>
    cases Text.mentions (joinStreams stderr stdout) notFoundPatterns <;> simp

/-! ## Calls in an outage -/

/-- A run that was turned away and does not say what is there. -/
inductive TurnedAway : Outcome → Prop
  | finished (returncode : Int) (stdout stderr : Option String) (hcode : 0 < returncode)
      (hrunnable : returncode ∉ unrunnableCodes)
      (hunsent :
        Text.mentions (joinStreams (stderr.getD "") (stdout.getD "")) unsentPatterns = true)
      (hsilent :
        Text.mentions (joinStreams (stderr.getD "") (stdout.getD "")) tellingPatterns = false) :
      TurnedAway (.finished returncode stdout stderr)

/-- A session in which every run is turned away. -/
def Session.Outage (s : Session) : Prop := ∀ r i, TurnedAway (s.outcome r i)

/-- A session in which every run ends in the same way has an outage if this run is turned away. -/
theorem outage_constant {o : Outcome} (h : TurnedAway o) : (Session.constant o).Outage :=
  fun _ _ ↦ h

/-- A call fails in a way that does not say what is there. -/
def Untold {α : Type} (reply : Except Failure α) : Prop :=
  ∃ f, reply = .error f ∧ f.isNotFound = false ∧ f.isAlreadyExists = false

/-- A run that is turned away is a failure that does not say what is there. -/
theorem untold_conclude {o : Outcome} (h : TurnedAway o) (summary : String) (limit : Option Number)
    (command : Command) : Untold (conclude summary limit command o) := by
  obtain ⟨returncode, stdout, stderr, hcode, hrunnable, hunsent, hsilent⟩ := h
  have hretryable := (classify_of_unsent hcode hrunnable hunsent).2 hsilent
  simp only [conclude, Outcome.result, if_neg (Int.ne_of_gt hcode), Result.failure]
  cases words? command with
  | none => exact ⟨_, rfl, rfl, rfl⟩
  | some words =>
    refine ⟨_, rfl, ?_, ?_⟩
    · simp only [Failure.isNotFound, Failure.category?, Cluster.Cause.category?, hretryable]
      rfl
    · simp only [Failure.isAlreadyExists, Failure.category?, Cluster.Cause.category?, hretryable]
      rfl

/-- A failure keeps what it says where the output would be read. -/
theorem Untold.afterwards {α : Type} {outcome : Except Failure Result × Session}
    (h : Untold outcome.1) (read : String → Except Failure α) :
    Untold (Client.afterwards outcome read).1 := by
  obtain ⟨f, hf, hnot⟩ := h
  refine ⟨f, ?_, hnot⟩
  rw [Client.afterwards, hf]
  rfl

variable {client : Client} {s : Session}

/-- The first words of a command are there, or there is a failure that does not say what is there.
-/
theorem start_cases (client : Client) (kind : Cluster.Kind) (ns : Json) :
    (∃ words, client.start kind ns = .ok words) ∨ Untold (client.start kind ns) := by
  unfold Client.start Client.requestTimeout
  cases client.timeout with
  | nan => exact .inr ⟨_, rfl, rfl, rfl⟩
  | infinite negative => exact .inr ⟨_, rfl, rfl, rfl⟩
  | finite negative significand exponent => exact .inl ⟨_, rfl⟩

/-- A value is shown, or there is a failure that does not say what is there. -/
theorem showing_cases (value : Json) (text : String) :
    (∃ shown, showing value text = .ok shown) ∨ Untold (showing value text) := by
  by_cases h : value.isWritable = true
  · exact .inl ⟨text, showing_ok h text⟩
  · exact .inr ⟨_, showing_error h text, rfl, rfl⟩

/-- A manifest is submitted, or there is a failure that does not say what is there. -/
theorem submission_cases (manifest : Json) :
    (∃ given, Client.submission manifest = .ok given) ∨ Untold (Client.submission manifest) := by
  by_cases h : ∃ fields, manifest.metadata = .ok (.obj fields)
  · obtain ⟨fields, hmetadata⟩ := h
    by_cases hwritable : manifest.isWritable = true
    · obtain ⟨display, hsubmission⟩ := submission_ok hmetadata hwritable
      exact .inl ⟨_, hsubmission⟩
    · exact .inr ⟨_, submission_unwritable hmetadata hwritable, rfl, rfl⟩
  · exact .inr ⟨_, submission_error h, rfl, rfl⟩

/-- In an outage a command fails in a way that does not say what is there. -/
theorem untold_execute (hs : s.Outage) {summary : Except Failure String}
    (hsummary : (∃ text, summary = .ok text) ∨ Untold summary) (again : Failure → Bool)
    (manifest : Option Json) (kind : Cluster.Kind) (ns : Json) (others : Command) :
    Untold (client.execute summary again manifest (client.start kind ns) others s).1 := by
  unfold Client.execute
  rcases start_cases client kind ns with ⟨words, hwords⟩ | ⟨f, hf, hnot⟩
  · rcases hsummary with ⟨text, rfl⟩ | ⟨f, rfl, hnot⟩
    · simp only [hwords]
      let r : Run := ⟨words ++ others, some (.real client.timeout), manifest⟩
      obtain ⟨earlier, last, hran, -, -, hresult⟩ :=
        ran_attempt text again client.backoff r (client.attempts - 1) 1 s
      have hlast := hran.outcomes earlier.length r last (by simp)
      rw [hresult]
      exact untold_conclude (hlast ▸ hs r _) _ _ _
    · simp only [hwords]
      exact ⟨f, rfl, hnot⟩
  · simp only [hf]
    exact ⟨f, rfl, hnot⟩

/-- In an outage every call fails in a way that does not say what is there. -/
theorem untold_handle (hs : s.Outage) (c : Call) : Untold (client.handle c s).1 := by
  cases c with
  | create kind manifest =>
    simp only [Client.handle, Client.create]
    rcases submission_cases manifest with ⟨given, hgiven⟩ | ⟨f, hf, hnot⟩
    · rw [hgiven]
      exact (untold_execute hs (.inl ⟨_, rfl⟩) _ _ _ _ _).afterwards _
    · rw [hf]
      exact ⟨f, rfl, hnot⟩
  | get kind name ns => exact (untold_execute hs (showing_cases _ _) _ _ _ _ _).afterwards _
  | list kind ns => exact (untold_execute hs (showing_cases _ _) _ _ _ _ _).afterwards _
  | delete kind name ns => exact (untold_execute hs (showing_cases _ _) _ _ _ _ _).afterwards _

end TenantBroker.Kubectl
