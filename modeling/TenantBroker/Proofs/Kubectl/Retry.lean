import TenantBroker.Kubectl.Client
import TenantBroker.Proofs.Success

/-!
# The law of repeated commands

A call on a cluster behind kubectl is one command, run once or more. The command is the same every
time, the number of runs is decided by the attempts that are left and by the first outcome that is
not to be repeated, and the answer is the one that the last outcome alone would give. A create is
run again only after a failure that proves that the server never saw it.
-/

namespace TenantBroker.Kubectl

open Cluster (Call CommandFailure Failure Kind)

/-! ## The outcomes to come -/

/-- How the run after `i` others will end. -/
def Session.outcome (s : Session) (r : Run) (i : Nat) : Outcome :=
  ((s.planned[i]?).getD s.afterwards).outcomeFor r.manifest

variable {summary : String} {again : Failure → Bool} {backoff : Binary64} {r : Run} {s : Session}

/-- A run ends as the next outcome says. -/
theorem run_eq (s : Session) (r : Run) : (s.run r).1 = s.outcome r 0 := by
  unfold Session.run Session.outcome
  cases s.planned with
  | nil => rfl
  | cons next rest => rfl

/-- A run uses up one outcome. -/
theorem outcome_run (s : Session) (r : Run) (i : Nat) :
    (s.run r).2.outcome r i = s.outcome r (i + 1) := by
  unfold Session.run Session.outcome
  cases s.planned with
  | nil => rfl
  | cons next rest => rfl

/-- A run is recorded. -/
theorem runs_run (s : Session) (r : Run) : (s.run r).2.runs = s.runs ++ [r] := by
  unfold Session.run
  cases s.planned with
  | nil => rfl
  | cons next rest => rfl

/-- A run is no wait. -/
theorem waits_run (s : Session) (r : Run) : (s.run r).2.waits = s.waits := by
  unfold Session.run
  cases s.planned with
  | nil => rfl
  | cons next rest => rfl

/-- Waiting does not change how runs end. -/
theorem outcome_wait (s : Session) (length : Binary64) (r : Run) (i : Nat) :
    (s.wait length).outcome r i = s.outcome r i := rfl

/-! ## Attempts -/

/-- An outcome that is a failure of the sort that is to be repeated. -/
def Repeats (summary : String) (again : Failure → Bool) (r : Run) (o : Outcome) : Prop :=
  ∃ f, conclude summary r.limit r.command o = .error f ∧ again f = true

/-- An outcome that is not to be repeated, or for which no attempt is left, ends the attempts. -/
theorem attempt_final {left number : Nat}
    (h : left = 0 ∨ ¬ Repeats summary again r (s.outcome r 0)) :
    attempt summary again backoff r left number s =
      (conclude summary r.limit r.command (s.outcome r 0), (s.run r).2) := by
  unfold attempt
  rw [← run_eq] at h ⊢
  cases hc : conclude summary r.limit r.command (s.run r).1 with
  | ok result => simp only [hc]
  | error f =>
    simp only [hc]
    cases left with
    | zero => rfl
    | succ left =>
      rcases h with hzero | hnot
      · cases hzero
      · exact if_neg fun hagain ↦ hnot ⟨f, hc, hagain⟩

/-- An outcome that is to be repeated leads to a wait and one attempt less. -/
theorem attempt_again {left number : Nat} (h : Repeats summary again r (s.outcome r 0)) :
    attempt summary again backoff r (left + 1) number s =
      attempt summary again backoff r left (number + 1)
        ((s.run r).2.wait (waitAfter backoff number)) := by
  obtain ⟨f, hc, hagain⟩ := h
  rw [← run_eq] at hc
  rw [attempt]
  simp only [hc, if_pos hagain]

/-- What comes of attempts of which at most `left` are repetitions: all but the last outcome are to
be repeated, and the last one decides unless no attempt is left. -/
structure Attempted (summary : String) (again : Failure → Bool) (backoff : Binary64) (r : Run)
    (left number : Nat) (s : Session) (repeated : Nat)
    (after : Except Failure Result × Session) : Prop where
  bound : repeated ≤ left
  runs : after.2.runs = s.runs ++ List.replicate (repeated + 1) r
  waits : after.2.waits = s.waits ++ (List.range' number repeated).map (waitAfter backoff)
  earlier : ∀ i < repeated, Repeats summary again r (s.outcome r i)
  last : repeated < left → ¬ Repeats summary again r (s.outcome r repeated)
  result : after.1 = conclude summary r.limit r.command (s.outcome r repeated)

private theorem attempted_final {left number : Nat}
    (h : left = 0 ∨ ¬ Repeats summary again r (s.outcome r 0)) :
    Attempted summary again backoff r left number s 0
      (attempt summary again backoff r left number s) := by
  rw [attempt_final h]
  refine ⟨Nat.zero_le left, runs_run s r, ?_, fun i hi ↦ absurd hi (Nat.not_lt_zero i), ?_, rfl⟩
  · rw [waits_run]
    exact (List.append_nil s.waits).symm
  · intro hleft
    rcases h with rfl | hnot
    · exact absurd hleft (Nat.lt_irrefl 0)
    · exact hnot

/-- The attempts of a command. The induction is on the repetitions that are left. -/
theorem attempted (summary : String) (again : Failure → Bool) (backoff : Binary64) (r : Run)
    (left number : Nat) (s : Session) :
    ∃ repeated, Attempted summary again backoff r left number s repeated
      (attempt summary again backoff r left number s) := by
  induction left generalizing number s with
  | zero => exact ⟨0, attempted_final (.inl rfl)⟩
  | succ left ih =>
    by_cases hagain : Repeats summary again r (s.outcome r 0)
    · obtain ⟨repeated, h⟩ := ih (number + 1) ((s.run r).2.wait (waitAfter backoff number))
      have houtcome (i : Nat) :
          ((s.run r).2.wait (waitAfter backoff number)).outcome r i = s.outcome r (i + 1) :=
        (outcome_wait _ _ r i).trans (outcome_run s r i)
      refine ⟨repeated + 1, ?_⟩
      rw [attempt_again hagain]
      refine ⟨Nat.succ_le_succ h.bound, ?_, ?_, ?_, ?_, ?_⟩
      · rw [h.runs]
        show (s.run r).2.runs ++ _ = _
        rw [runs_run, List.append_assoc]
        rfl
      · rw [h.waits]
        show ((s.run r).2.waits ++ [waitAfter backoff number]) ++ _ = _
        rw [waits_run, List.append_assoc, List.range'_succ]
        rfl
      · intro i hi
        cases i with
        | zero => exact hagain
        | succ i =>
          rw [← houtcome]
          exact h.earlier i (Nat.lt_of_succ_lt_succ hi)
      · intro hlt
        rw [← houtcome]
        exact h.last (Nat.lt_of_succ_lt_succ hlt)
      · rw [h.result, houtcome]
    · exact ⟨0, attempted_final (.inr hagain)⟩

/-- The number of runs is the number of attempts, or that of the first outcome that is not to be
repeated if this is less. -/
theorem Attempted.runs_eq_min {left number repeated : Nat} {after : Except Failure Result × Session}
    (h : Attempted summary again backoff r left number s repeated after) {first : Nat}
    (hbefore : ∀ i < first, Repeats summary again r (s.outcome r i))
    (hfirst : ¬ Repeats summary again r (s.outcome r first)) :
    repeated + 1 = min (left + 1) (first + 1) := by
  have hle : repeated ≤ first := by
    apply Nat.le_of_not_lt
    intro hlt
    exact hfirst (h.earlier first hlt)
  rcases Nat.lt_or_eq_of_le hle with hlt | rfl
  · have hleft : ¬ repeated < left := fun hlt' ↦ h.last hlt' (hbefore repeated hlt)
    have hbound := h.bound
    omega
  · have hbound := h.bound
    omega

/-- If every outcome is to be repeated all attempts are made. -/
theorem Attempted.runs_eq_attempts {left number repeated : Nat}
    {after : Except Failure Result × Session}
    (h : Attempted summary again backoff r left number s repeated after)
    (hall : ∀ i, Repeats summary again r (s.outcome r i)) : repeated + 1 = left + 1 := by
  have hleft : ¬ repeated < left := fun hlt ↦ h.last hlt (hall repeated)
  have hbound := h.bound
  omega

/-! ## What is repeated -/

/-- The failed command as which an outcome is reported; none if it is reported otherwise. -/
def failedCommand? (r : Run) (o : Outcome) : Option CommandFailure :=
  match conclude "" r.limit r.command o with
  | .error (.cause (.command f)) => some f
  | _ => none

/-- Whether a call runs its command again after an outcome, if attempts are left: the failure may
pass, and for a create the command returned by itself and printed proof that the server never saw
the request. -/
def IsRepeated (c : Call) (r : Run) (o : Outcome) : Prop :=
  ∃ f, failedCommand? r o = some f ∧ f.category = .retryable ∧
    ∀ kind manifest, c = .create kind manifest → 0 < f.returncode ∧
      Text.mentions (joinStreams f.stderr f.stdout) ambiguousPatterns = false ∧
      Text.mentions (joinStreams f.stderr f.stdout) unsentPatterns = true

/-- The failures after which a call runs its command again. -/
def repeatsOf : Call → Failure → Bool
  | .create _ _ => repeatsCreate
  | .get _ _ _ | .list _ _ | .delete _ _ _ => repeatsRead

private theorem result_ne_command (limit : Option Number) (command : Command) (o : Outcome)
    (f : CommandFailure) : o.result limit command ≠ .error (.cause (.command f)) := by
  cases o with
  | expired captured =>
    cases captured with
    | nothing => simp [Outcome.result, Captured.decode, Except.map]
    | text value => simp [Outcome.result, Captured.decode, Except.map]
    | bytes value =>
      cases h : Text.Utf8.decode value <;> simp [Outcome.result, Captured.decode, Except.map, h]
  | unstartable fault => cases command <;> simp [Outcome.result]
  | finished returncode stdout stderr => simp [Outcome.result]

/-- An outcome is reported as a command that failed with a return code other than zero, up to the
wording under the summary, or it is reported in another way whatever the summary. -/
theorem conclude_cases (limit : Option Number) (command : Command) (o : Outcome) :
    (∃ f : CommandFailure, f.returncode ≠ 0 ∧ ∀ summary,
      conclude summary limit command o = .error (.cause (.command { f with summary }))) ∨
    ∃ other, (∀ f, other ≠ .error (.cause (.command f))) ∧
      ∀ summary, conclude summary limit command o = other := by
  cases ho : o.result limit command with
  | error g =>
    refine .inr ⟨.error g, fun f ↦ ?_, fun summary ↦ by simp only [conclude, ho]⟩
    rw [← ho]
    exact result_ne_command limit command o f
  | ok result =>
    by_cases hcode : result.returncode = 0
    · exact .inr ⟨.ok result, fun f ↦ by simp, fun summary ↦ by
        simp only [conclude, ho, if_pos hcode]⟩
    · cases hw : words? command with
      | none =>
        refine .inr ⟨.error (.defect .wrongType), fun f ↦ by simp, fun summary ↦ ?_⟩
        simp only [conclude, ho, if_neg hcode, Result.failure, hw]
      | some words =>
        refine .inl ⟨⟨"", words, result.returncode, result.stdout, result.stderr,
          classify result.returncode result.stderr result.stdout⟩, hcode, fun summary ↦ ?_⟩
        simp only [conclude, ho, if_neg hcode, Result.failure, hw]

private theorem repeatsOf_command (c : Call) {f : CommandFailure} (hcode : f.returncode ≠ 0) :
    repeatsOf c (.cause (.command f)) = true ↔ f.category = .retryable ∧
      ∀ kind manifest, c = .create kind manifest → 0 < f.returncode ∧
        Text.mentions (joinStreams f.stderr f.stdout) ambiguousPatterns = false ∧
        Text.mentions (joinStreams f.stderr f.stdout) unsentPatterns = true := by
  have hpositive : 0 ≤ f.returncode ↔ 0 < f.returncode := by omega
  cases c with
  | create kind manifest =>
    simp [repeatsOf, repeatsCreate, isUnsent, hpositive, and_assoc]
  | _ => simp [repeatsOf, repeatsRead, Failure.isRetryable, Failure.category?,
      Cluster.Cause.category?]

/-- An outcome is of the sort after which a call repeats its command exactly if it is to be repeated
for this call, under any summary. -/
theorem repeats_iff (c : Call) (summary : String) (r : Run) (o : Outcome) :
    Repeats summary (repeatsOf c) r o ↔ IsRepeated c r o := by
  rcases conclude_cases r.limit r.command o with ⟨f, hcode, hf⟩ | ⟨other, hne, hother⟩
  · have hfailed : failedCommand? r o = some { f with summary := "" } := by
      simp only [failedCommand?, hf]
    constructor
    · rintro ⟨g, hg, hagain⟩
      rw [hf, Except.error.injEq] at hg
      subst hg
      exact ⟨_, hfailed, (repeatsOf_command c (f := { f with summary }) hcode).mp hagain⟩
    · rintro ⟨g, hg, hgood⟩
      rw [hfailed, Option.some.injEq] at hg
      subst hg
      exact ⟨_, hf summary, (repeatsOf_command c (f := { f with summary }) hcode).mpr hgood⟩
  · constructor
    · rintro ⟨g, hg, hagain⟩
      rw [hother] at hg
      cases g with
      | defect d => cases c <;> cases hagain
      | cause why =>
        cases why with
        | command f => exact absurd hg (hne f)
        | value fault => cases c <;> cases hagain
    · rintro ⟨f, hf, -⟩
      unfold failedCommand? at hf
      rw [hother] at hf
      split at hf
      · next g => exact absurd rfl (hne g)
      · cases hf

/-! ## Calls -/

/-- The metadata of what a call is to create are a record, or do not count as present. -/
def NamesRecord : Call → Prop
  | .create _ manifest => ∃ fields, manifest.metadata = .ok (.obj fields)
  | .get _ _ _ | .list _ _ | .delete _ _ _ => True

/-- What a call is to write has a text: the manifest that is submitted, or the value that a failure
would be reported with. -/
def Writes : Call → Prop
  | .create _ manifest => manifest.isWritable = true
  | .get _ name _ | .delete _ name _ => name.isWritable = true
  | .list _ ns => ns.isWritable = true

/-- A call can be put as a command. -/
def HasCommand (c : Call) : Prop := NamesRecord c ∧ Writes c

/-- The manifest that a call submits. -/
def submitted? : Call → Option Json
  | .create _ manifest => some manifest
  | .get _ _ _ | .list _ _ | .delete _ _ _ => none

/-- How a call becomes a command and its output a reply. -/
structure Plan (α : Type) where
  summary : String
  run : Run
  read : String → Except Failure α

/-- A client with another number of attempts. -/
def Client.withAttempts (c : Client) (attempts : Nat) : Client := { c with attempts }

variable {client : Client}

private theorem start_ok {negative : Bool} {significand : Nat} {exponent : Int}
    (hlimit : client.timeout = .finite negative significand exponent) (kind : Kind) (ns : Json) :
    ∃ first, client.start kind ns = .ok first := by
  simp only [Client.start, Client.requestTimeout, hlimit, Except.map]
  exact ⟨_, rfl⟩

/-- A value that has a text is shown. -/
theorem showing_ok {value : Json} (h : value.isWritable = true) (text : String) :
    showing value text = .ok text := if_pos h

/-- A value that has no text is not shown. -/
theorem showing_error {value : Json} (h : ¬ value.isWritable = true) (text : String) :
    showing value text = .error (.cause (.value .unwritable)) := if_neg h

/-- The name of a manifest is shown from its metadata if they are a record, or do not count as
present. -/
theorem exists_displayName {manifest : Json} {fields : List (String × Json)}
    (h : manifest.metadata = .ok (.obj fields)) :
    ∃ value text, displayName manifest = showing value text ∧
      ((Json.obj fields).isWritable = true → value.isWritable = true) := by
  have hfield {name : String} {default value : Json} (hdefault : default.isWritable = true)
      (hvalue : (Json.obj fields).getD name default = .ok value)
      (hwritable : (Json.obj fields).isWritable = true) :=
    Json.isWritable_getD hwritable hdefault hvalue
  simp only [displayName, h, Json.get, Json.getD, Json.fields, Except.map, mapError_ok, bind,
    Except.bind]
  split
  · exact ⟨_, _, rfl, hfield Json.isWritable_null rfl⟩
  · exact ⟨_, _, rfl, hfield (Json.isWritable_str "") rfl⟩

/-- What has to be known of a manifest before it is submitted can be read if its metadata are a
record, or do not count as present, and it can be written. -/
theorem submission_ok {manifest : Json} {fields : List (String × Json)}
    (h : manifest.metadata = .ok (.obj fields)) (hwritable : manifest.isWritable = true) :
    ∃ display, Client.submission manifest =
      .ok ((Json.field? fields "namespace").getD .null, display) := by
  obtain ⟨value, display, hdisplay, hvalue⟩ := exists_displayName h
  refine ⟨display, ?_⟩
  simp only [Client.submission, h, hdisplay, showing_ok hwritable,
    showing_ok (hvalue (Json.isWritable_metadata hwritable h))]
  rfl

/-- A manifest that cannot be written is not submitted. -/
theorem submission_unwritable {manifest : Json} {fields : List (String × Json)}
    (h : manifest.metadata = .ok (.obj fields)) (hunwritable : ¬ manifest.isWritable = true) :
    Client.submission manifest = .error (.cause (.value .unwritable)) := by
  obtain ⟨value, display, hdisplay, -⟩ := exists_displayName h
  simp only [Client.submission, h, hdisplay, showing_error hunwritable]
  by_cases hvalue : value.isWritable = true
  · rw [showing_ok hvalue]
    rfl
  · rw [showing_error hvalue]
    rfl

/-- A manifest whose metadata are no record is not submitted. -/
theorem submission_error {manifest : Json}
    (h : ¬ ∃ fields, manifest.metadata = .ok (.obj fields)) :
    Client.submission manifest = .error (.defect .notRecord) := by
  cases hm : manifest.metadata with
  | error d =>
    have hd : d = .notRecord := by
      cases manifest with
      | obj fields => simp [Json.metadata, Json.get, Json.getD, Json.fields, Except.map] at hm
      | _ => simpa [Json.metadata, Json.get, Json.getD, Json.fields, Except.map, eq_comm] using hm
    subst hd
    simp only [Client.submission, hm]
    rfl
  | ok metadata =>
    simp only [Client.submission, hm]
    cases metadata with
    | obj fields => exact absurd ⟨fields, hm⟩ h
    | _ => rfl

/-- Under a finite time limit a call that can be put as a command is attempts of this command. -/
theorem exists_plan {negative : Bool} {significand : Nat} {exponent : Int}
    (hlimit : client.timeout = .finite negative significand exponent) {c : Call}
    (hc : HasCommand c) :
    ∃ plan : Plan c.Reply, plan.run.manifest = submitted? c ∧
      ∀ attempts s, (client.withAttempts attempts).handle c s =
        Client.afterwards (attempt plan.summary (repeatsOf c) client.backoff plan.run
          (attempts - 1) 1 s) plan.read := by
  cases c with
  | create kind manifest =>
    obtain ⟨⟨fields, hmetadata⟩, hwritable⟩ := hc
    obtain ⟨display, hsubmission⟩ := submission_ok hmetadata hwritable
    obtain ⟨first, hfirst⟩ := start_ok hlimit kind ((Json.field? fields "namespace").getD .null)
    refine ⟨⟨"Failed to create " ++ (kind.name ++ " " ++ display),
      ⟨first ++ ["create", "-f", manifestPath, "-o", "json"].map .str, some (.real client.timeout),
        some manifest⟩,
      fun stdout ↦ printedObject (kind.name ++ " " ++ display) stdout >>= Client.checkCreated⟩, rfl,
      fun attempts s ↦ ?_⟩
    have hstart : (client.withAttempts attempts).start kind
        ((Json.field? fields "namespace").getD .null) = .ok first := hfirst
    simp only [Client.handle, Client.create, hsubmission, hstart, Client.execute]
    rfl
  | get kind name ns =>
    obtain ⟨first, hfirst⟩ := start_ok hlimit kind ns
    refine ⟨⟨"Failed to get " ++ (kind.name ++ " " ++ name.shown),
      ⟨first ++ [.str "get", .str kind.resource, name, .str "-o", .str "json"],
        some (.real client.timeout), none⟩,
      printedObject (kind.name ++ " " ++ name.shown)⟩, rfl, fun attempts s ↦ ?_⟩
    have hstart : (client.withAttempts attempts).start kind ns = .ok first := hfirst
    simp only [Client.handle, Client.get, hstart, showing_ok hc.2, Client.execute]
    rfl
  | list kind ns =>
    obtain ⟨first, hfirst⟩ := start_ok hlimit kind ns
    refine ⟨⟨"Failed to list " ++ kind.name ++ " in namespace " ++ ns.shown,
      ⟨first ++ [.str "get", .str kind.resource, .str "-o", .str "json"],
        some (.real client.timeout), none⟩,
      fun stdout ↦ printedObject (kind.name ++ " list") stdout >>= Client.listedItems⟩, rfl,
      fun attempts s ↦ ?_⟩
    have hstart : (client.withAttempts attempts).start kind ns = .ok first := hfirst
    simp only [Client.handle, Client.list, hstart, showing_ok hc.2, Client.execute]
    rfl
  | delete kind name ns =>
    obtain ⟨first, hfirst⟩ := start_ok hlimit kind ns
    refine ⟨⟨"Failed to delete " ++ kind.name ++ " " ++ name.shown,
      ⟨first ++ [.str "delete", .str kind.resource, name, .str "--wait=false"],
        some (.real client.timeout), none⟩,
      fun _ ↦ .ok ()⟩, rfl, fun attempts s ↦ ?_⟩
    have hstart : (client.withAttempts attempts).start kind ns = .ok first := hfirst
    simp only [Client.handle, Client.delete, hstart, showing_ok hc.2, Client.execute]
    rfl

/-! ## The law -/

/-- A session in which every run ends in one way. -/
def Session.constant (o : Outcome) : Session := ⟨[], .fixed o, [], []⟩

/-- A single attempt ends as the outcome says. -/
private theorem attempt_once (summary : String) (again : Failure → Bool) (backoff : Binary64)
    (r : Run) (o : Outcome) :
    (attempt summary again backoff r 0 1 (.constant o)).1 =
      conclude summary r.limit r.command o := by
  rw [attempt_final (.inl rfl)]
  rfl

/-- A call whose manifest or name has no text ends there, under a finite time limit, without a run.
-/
theorem handle_unwritable {negative : Bool} {significand : Nat} {exponent : Int}
    (hlimit : client.timeout = .finite negative significand exponent) {c : Call}
    (hrecord : NamesRecord c) (hunwritable : ¬ Writes c) (s : Session) :
    client.handle c s = (.error (.cause (.value .unwritable)), s) := by
  cases c with
  | create kind manifest =>
    obtain ⟨fields, hmetadata⟩ := hrecord
    simp only [Client.handle, Client.create, submission_unwritable hmetadata hunwritable]
  | get kind name ns =>
    obtain ⟨first, hfirst⟩ := start_ok hlimit kind ns
    simp only [Client.handle, Client.get, hfirst, showing_error hunwritable, Client.execute]
    rfl
  | list kind ns =>
    obtain ⟨first, hfirst⟩ := start_ok hlimit kind ns
    simp only [Client.handle, Client.list, hfirst, showing_error hunwritable, Client.execute]
    rfl
  | delete kind name ns =>
    obtain ⟨first, hfirst⟩ := start_ok hlimit kind ns
    simp only [Client.handle, Client.delete, hfirst, showing_error hunwritable, Client.execute]
    rfl

/-- Under a finite time limit and with at least one attempt, a call that can be put as a command
runs this command, with the same manifest, as often as there are attempts or up to the first outcome
that is not to be repeated if this comes earlier. It waits between the runs, and it answers as a
single attempt with the last outcome would. A create whose metadata are no record runs nothing, and
neither does any other call of which something has no text that is to be written. -/
theorem handle_repeats (hattempts : 1 ≤ client.attempts)
    (hlimit : ∃ negative significand exponent,
      client.timeout = .finite negative significand exponent) (c : Call) (s : Session) :
    (¬ NamesRecord c → client.handle c s = (.error (.defect .notRecord), s)) ∧
    (NamesRecord c → ¬ Writes c →
      client.handle c s = (.error (.cause (.value .unwritable)), s)) ∧
    (NamesRecord c → Writes c → ∃ (r : Run) (n : Nat),
      r.manifest = submitted? c ∧ 1 ≤ n ∧ n ≤ client.attempts ∧
      (client.handle c s).2.runs = s.runs ++ List.replicate n r ∧
      (client.handle c s).2.waits =
        s.waits ++ (List.range' 1 (n - 1)).map (waitAfter client.backoff) ∧
      (∀ first, (∀ i < first, IsRepeated c r (s.outcome r i)) →
        ¬ IsRepeated c r (s.outcome r first) → n = min client.attempts (first + 1)) ∧
      ((∀ i, IsRepeated c r (s.outcome r i)) → n = client.attempts) ∧
      (∀ i < n - 1, IsRepeated c r (s.outcome r i)) ∧
      (client.handle c s).1 =
        ((client.withAttempts 1).handle c (.constant (s.outcome r (n - 1)))).1) := by
  obtain ⟨negative, significand, exponent, hlimit⟩ := hlimit
  refine ⟨fun hc ↦ ?_, fun hrecord hunwritable ↦ handle_unwritable hlimit hrecord hunwritable s,
    fun hrecord hwritable ↦ ?_⟩
  · cases c with
    | create kind manifest =>
      simp only [Client.handle, Client.create, submission_error hc]
    | _ => exact absurd trivial hc
  · obtain ⟨plan, hmanifest, hplan⟩ := exists_plan hlimit ⟨hrecord, hwritable⟩
    obtain ⟨repeated, h⟩ :=
      attempted plan.summary (repeatsOf c) client.backoff plan.run (client.attempts - 1) 1 s
    have hclient : client.handle c s = Client.afterwards (attempt plan.summary (repeatsOf c)
        client.backoff plan.run (client.attempts - 1) 1 s) plan.read := hplan client.attempts s
    have hleft : client.attempts - 1 + 1 = client.attempts := Nat.sub_add_cancel hattempts
    have hbound := h.bound
    refine ⟨plan.run, repeated + 1, hmanifest, Nat.succ_pos repeated, by omega, ?_, ?_, ?_, ?_, ?_,
      ?_⟩
    · rw [hclient]
      exact h.runs
    · rw [hclient]
      exact h.waits
    · intro first hbefore hfirst
      have hmin := h.runs_eq_min (fun i hi ↦ (repeats_iff c _ _ _).mpr (hbefore i hi))
        fun hagain ↦ hfirst ((repeats_iff c _ _ _).mp hagain)
      rwa [hleft] at hmin
    · intro hall
      have hruns := h.runs_eq_attempts fun i ↦ (repeats_iff c _ _ _).mpr (hall i)
      rwa [hleft] at hruns
    · intro i hi
      exact (repeats_iff c _ _ _).mp (h.earlier i hi)
    · rw [hclient, hplan 1]
      simp only [Client.afterwards, h.result, Nat.sub_self, attempt_once, Nat.add_sub_cancel]

/-- A create that is refused three times is run three times with the same command. -/
theorem handle_repeats_refused :
    let c : Call := .create Kind.namespaces (.obj [("metadata", .obj [("name", .str "n")])])
    let s : Session := .constant (.finished 1 none (some "connection refused"))
    ∃ r, r.manifest = submitted? c ∧ (({} : Client).handle c s).2.runs = List.replicate 3 r := by
  intro c s
  have hattempts : 1 ≤ ({} : Client).attempts := by decide
  have hlimit : ∃ negative significand exponent,
      ({} : Client).timeout = .finite negative significand exponent := ⟨_, _, _, rfl⟩
  obtain ⟨r, n, hmanifest, -, -, hruns, -⟩ :=
    (handle_repeats hattempts hlimit c s).2.2 ⟨[("name", .str "n")], rfl⟩ rfl
  have hcount : (({} : Client).handle c s).2.runs.length = 3 := rfl
  rw [hruns, List.length_append, List.length_replicate] at hcount
  obtain rfl : n = 3 := by simpa [s, Session.constant] using hcount
  exact ⟨r, hmanifest, hruns⟩

/-- A create whose metadata are a number has no run at all, and neither has one whose manifest holds
a number of 4301 digits. So the number of their runs is not the lesser of the attempts and the place
of an outcome. -/
theorem create_runs_nothing :
    let s : Session := .constant (.finished 0 (some "\x7b\x7d") none)
    let shapeless : Json := .obj [("metadata", Json.int 5)]
    let unwritable : Json := .obj [("metadata", .obj [("name", .str "a")]),
      ("spec", Json.int (Nat.pow 10 Number.maxDigits))]
    ∀ manifest ∈ [shapeless, unwritable], ¬ ∃ k, 1 ≤ k ∧
      (({} : Client).handle (.create Kind.namespaces manifest) s).2.runs.length =
        min ({} : Client).attempts k := by
  intro s shapeless unwritable
  have hattempts : ({} : Client).attempts = 3 := rfl
  have hsome {manifest : Json}
      (hnone : (({} : Client).handle (.create Kind.namespaces manifest) s).2.runs = []) :
      ¬ ∃ k, 1 ≤ k ∧ (({} : Client).handle (.create Kind.namespaces manifest) s).2.runs.length =
        min ({} : Client).attempts k := by
    rintro ⟨k, hk, hruns⟩
    rw [hnone, hattempts, List.length_nil] at hruns
    omega
  refine List.forall_mem_cons.mpr ⟨hsome rfl, List.forall_mem_singleton.mpr (hsome ?_)⟩
  have hunwritable : ¬ unwritable.isWritable = true := by
    intro h
    have hspec := Json.isWritable_obj.mp h _ (List.mem_cons_of_mem _ List.mem_cons_self)
    simp only [Json.int, Json.isWritable, Number.isWritable, decide_eq_true_eq,
      Int.natAbs_natCast] at hspec
    exact absurd hspec (Nat.lt_irrefl _)
  have hrecord : NamesRecord (.create Kind.namespaces unwritable) := ⟨_, rfl⟩
  have hrefused : ({} : Client).handle (.create Kind.namespaces unwritable) s =
      (.error (.cause (.value .unwritable)), s) := handle_unwritable rfl hrecord hunwritable s
  exact congrArg (·.2.runs) hrefused

end TenantBroker.Kubectl
