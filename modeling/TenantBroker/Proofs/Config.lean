import Mathlib.Algebra.Order.Field.Basic
import Mathlib.Data.Rat.Cast.Order
import TenantBroker.Proofs.Kubectl.Retry

/-!
# Which settings are usable

A time in the settings is checked by comparison, which NaN and positive infinity pass. All other
times that are accepted are finite and within their bounds. The client runs something for its calls
exactly if its time limit is finite: otherwise each of them fails while its command is put together.
-/

namespace TenantBroker

namespace Binary64

/-! ## Finite numbers -/

/-- The significand with the sign of its number. -/
def signed (negative : Bool) (significand : Nat) : Int :=
  if negative then -significand else significand

/-- The value of a finite number. -/
def value? : Binary64 → Option ℚ
  | .finite negative significand exponent => some (signed negative significand * 2 ^ exponent)
  | _ => none

/-- A finite number above zero. -/
def IsPositive (x : Binary64) : Prop := ∃ value, x.value? = some value ∧ 0 < value

/-- A finite number not below zero. -/
def IsNonnegative (x : Binary64) : Prop := ∃ value, x.value? = some value ∧ 0 ≤ value

variable {x : Binary64}

/-- A power of two is above zero. -/
theorem two_zpow_pos (exponent : Int) : (0 : ℚ) < 2 ^ exponent := zpow_pos (by norm_num) exponent

/-- The finite numbers above zero are those that are not at most zero. -/
theorem isPositive_iff : x.IsPositive ↔ x.isFinite = true ∧ x.isNonpositive = false := by
  cases x with
  | finite negative significand exponent =>
    simp only [IsPositive, value?, Option.some.injEq, exists_eq_left',
      mul_pos_iff_of_pos_right (two_zpow_pos exponent), Int.cast_pos, isFinite, isNonpositive]
    cases negative <;> simp [signed, Nat.pos_iff_ne_zero]
  | _ => simp [IsPositive, value?, isFinite]

/-- The finite numbers not below zero are those that are not strictly below it. -/
theorem isNonnegative_iff : x.IsNonnegative ↔ x.isFinite = true ∧ x.isNegative = false := by
  cases x with
  | finite negative significand exponent =>
    simp only [IsNonnegative, value?, Option.some.injEq, exists_eq_left',
      mul_nonneg_iff_of_pos_right (two_zpow_pos exponent), Int.cast_nonneg_iff, isFinite,
      isNegative]
    cases negative <;> simp [signed]
  | _ => simp [IsNonnegative, value?, isFinite]

end Binary64

namespace Config

/-! ## Times in the environment -/

variable {env : Environment} {setting : String} {default x : Binary64} {config : Config}

/-- The variable has a text that reads as NaN or as infinity. -/
def GivesNonFinite (env : Environment) (setting : String) : Prop :=
  ∃ text x, numberText? env setting = some text ∧ Number.readReal? text = some x ∧
    x.isFinite = false

/-- A time that was read is finite unless its text is not, where the default is. -/
theorem isFinite_iff_of_readReal (hdefault : default.isFinite = true)
    (h : readReal env setting default = .ok x) :
    x.isFinite = true ↔ ¬ GivesNonFinite env setting := by
  unfold readReal at h
  unfold GivesNonFinite
  cases htext : numberText? env setting with
  | none =>
    rw [htext] at h
    obtain rfl := Except.ok.inj h
    simp [hdefault]
  | some text =>
    rw [htext] at h
    simp only at h
    cases hread : Number.readReal? text with
    | none =>
      rw [hread] at h
      cases h
    | some y =>
      rw [hread] at h
      obtain rfl := Except.ok.inj h
      simp [hread]

/-- A value that is checked after it was read is one that is not refused. -/
theorem checked_eq_ok_iff {ε α : Type} {value : Except ε α} {refuses : α → Bool} {fault : α → ε}
    {a : α} : (do
      let x ← value
      if refuses x then throw (fault x)
      pure x) = Except.ok a ↔ value = .ok a ∧ refuses a = false := by
  cases value with
  | error e => exact iff_of_false nofun nofun
  | ok other =>
    rw [Except.ok.injEq]
    cases hother : refuses other with
    | true =>
      refine iff_of_false ?_ ?_
      · simp only [Bind.bind, Except.bind, hother]
        nofun
      · rintro ⟨rfl, hnot⟩
        rw [hother] at hnot
        cases hnot
    | false =>
      simp only [Bind.bind, Except.bind, hother]
      constructor
      · intro h
        obtain rfl := Except.ok.inj h
        exact ⟨rfl, hother⟩
      · rintro ⟨rfl, -⟩
        rfl

/-- A time that has to be above zero is read as one that is not at most zero. -/
theorem readPositive_eq_ok_iff : readPositive env setting default = .ok x ↔
    readReal env setting default = .ok x ∧ x.isNonpositive = false := checked_eq_ok_iff

/-- A time that must not be negative is read as one that is not strictly below zero. -/
theorem readNonnegative_eq_ok_iff : readNonnegative env setting default = .ok x ↔
    readReal env setting default = .ok x ∧ x.isNegative = false := checked_eq_ok_iff

/-- A count is at least one. -/
theorem one_le_of_readCount {default n : Nat} (hdefault : 1 ≤ default)
    (h : readCount env setting default = .ok n) : 1 ≤ n := by
  unfold readCount at h
  split at h
  · obtain rfl := Except.ok.inj h
    exact hdefault
  · split at h
    · cases h
    · next count _ =>
      split at h
      · cases h
      · obtain rfl := Except.ok.inj h
        omega

/-- The times and the number of attempts are read from their variables. -/
theorem reads_of_ofEnvironment (h : ofEnvironment env = .ok config) :
    readPositive env timeoutVariable ({} : Config).stepTimeout = .ok config.stepTimeout ∧
      readCount env attemptsVariable ({} : Config).retryAttempts = .ok config.retryAttempts ∧
      readNonnegative env backoffVariable ({} : Config).retryBackoff =
        .ok config.retryBackoff := by
  unfold ofEnvironment at h
  simp only [bind_eq_ok_iff, pure_eq_ok_iff] at h
  obtain ⟨variant, -, stem, -, timeout, htimeout, attempts, hattempts, backoff, hbackoff, rfl⟩ := h
  exact ⟨htimeout, hattempts, hbackoff⟩

end Config

/-! ## Clients -/

namespace Kubectl

open Cluster (Call Kind)

variable {client : Client} {c : Call}

/-- The time that a request may take is put in words exactly if the time limit is finite. -/
theorem requestTimeout_cases (client : Client) :
    client.timeout.isFinite = true ∧ (∃ words, client.requestTimeout = .ok words) ∨
      client.timeout.isFinite = false ∧ ∃ f, client.requestTimeout = .error f := by
  unfold Client.requestTimeout
  cases client.timeout with
  | finite negative significand exponent => exact .inl ⟨rfl, _, rfl⟩
  | _ => exact .inr ⟨rfl, _, rfl⟩

/-- Under a finite time limit a call that can be put as a command is run. -/
theorem handle_runs (hfinite : client.timeout.isFinite = true) (hc : HasCommand c) (s : Session) :
    ∃ r n, 1 ≤ n ∧ (client.handle c s).2.runs = s.runs ++ List.replicate n r := by
  obtain ⟨negative, significand, exponent, hlimit⟩ : ∃ negative significand exponent,
      client.timeout = .finite negative significand exponent := by
    cases hlimit : client.timeout with
    | finite negative significand exponent => exact ⟨_, _, _, rfl⟩
    | _ =>
      rw [hlimit] at hfinite
      cases hfinite
  obtain ⟨plan, -, hplan⟩ := exists_plan hlimit hc
  obtain ⟨repeated, h⟩ :=
    attempted plan.summary (repeatsOf c) client.backoff plan.run (client.attempts - 1) 1 s
  have hhandle : client.handle c s = Client.afterwards (attempt plan.summary (repeatsOf c)
      client.backoff plan.run (client.attempts - 1) 1 s) plan.read := hplan client.attempts s
  refine ⟨plan.run, repeated + 1, Nat.succ_pos repeated, ?_⟩
  rw [hhandle]
  exact h.runs

/-- Where the time that a request may take cannot be put in words, a call fails for this reason and
nothing is run, unless it is a create whose manifest cannot be submitted. -/
theorem handle_of_requestTimeout_error {f : Cluster.Failure}
    (hlimit : client.requestTimeout = .error f)
    (hc : ∀ kind manifest, c = .create kind manifest → HasCommand c) (s : Session) :
    client.handle c s = (.error f, s) := by
  have hstart (kind : Kind) (ns : Json) : client.start kind ns = .error f := by
    rw [Client.start, hlimit]
    rfl
  cases c with
  | create kind manifest =>
    obtain ⟨⟨fields, hmetadata⟩, hwritable⟩ := hc kind manifest rfl
    obtain ⟨display, hsubmission⟩ := submission_ok hmetadata hwritable
    simp only [Client.handle, Client.create, hsubmission, hstart, Client.execute]
    rfl
  | get kind name ns =>
    simp only [Client.handle, Client.get, hstart, Client.execute]
    rfl
  | list kind ns =>
    simp only [Client.handle, Client.list, hstart, Client.execute]
    rfl
  | delete kind name ns =>
    simp only [Client.handle, Client.delete, hstart, Client.execute]
    rfl

end Kubectl

namespace Config

open Cluster (Call)
open Kubectl (Client HasCommand Session)

/-- Settings that are accepted have at least one attempt, a time limit that is finite and above zero
and a backoff that is finite and not below zero, except that a time is not finite where its variable
has a text that reads as NaN or as infinity. If the time limit is finite then the client runs
something for every call that can be put as a command. If it is not then every such call, and every
other one but a create, fails while the time that the request may take is put in words, and nothing
is run. -/
theorem ofEnvironment_usable {env : Environment} {config : Config}
    (h : ofEnvironment env = .ok config) :
    1 ≤ config.retryAttempts ∧
    (config.stepTimeout.IsPositive ↔ ¬ GivesNonFinite env timeoutVariable) ∧
    (config.retryBackoff.IsNonnegative ↔ ¬ GivesNonFinite env backoffVariable) ∧
    ∀ (c : Call) (s : Session),
      (config.stepTimeout.IsPositive → HasCommand c → ∃ r n, 1 ≤ n ∧
        ((Client.ofConfig config).handle c s).2.runs = s.runs ++ List.replicate n r) ∧
      (¬ config.stepTimeout.IsPositive →
        (∀ kind manifest, c = .create kind manifest → HasCommand c) →
        ∃ f, (Client.ofConfig config).requestTimeout = .error f ∧
          (Client.ofConfig config).handle c s = (.error f, s)) := by
  obtain ⟨htimeout, hattempts, hbackoff⟩ := reads_of_ofEnvironment h
  obtain ⟨htimeout, hpositive⟩ := readPositive_eq_ok_iff.mp htimeout
  obtain ⟨hbackoff, hnonnegative⟩ := readNonnegative_eq_ok_iff.mp hbackoff
  have hlimit : config.stepTimeout.IsPositive ↔ config.stepTimeout.isFinite = true :=
    Binary64.isPositive_iff.trans (and_iff_left hpositive)
  refine ⟨one_le_of_readCount (by decide) hattempts,
    hlimit.trans (isFinite_iff_of_readReal rfl htimeout),
    (Binary64.isNonnegative_iff.trans (and_iff_left hnonnegative)).trans
      (isFinite_iff_of_readReal rfl hbackoff), fun c s ↦ ?_⟩
  rw [hlimit]
  rcases Kubectl.requestTimeout_cases (Client.ofConfig config) with
    ⟨hfinite, -⟩ | ⟨hinfinite, f, hf⟩
  · exact ⟨fun _ hc ↦ Kubectl.handle_runs hfinite hc s, fun hnot ↦ absurd hfinite hnot⟩
  · refine ⟨fun hfinite ↦ ?_, fun _ hc ↦
      ⟨f, hf, Kubectl.handle_of_requestTimeout_error hf hc s⟩⟩
    cases hinfinite.symm.trans hfinite

/-- With nothing set the client runs something to delete a namespace. -/
theorem ofEnvironment_usable_default :
    let c : Call := .delete Cluster.Kind.namespaces (.str "a") .null
    ofEnvironment [] = .ok {} ∧ ({} : Config).stepTimeout.IsPositive ∧
      ∀ s : Session, ((Client.ofConfig {}).handle c s).2.runs ≠ s.runs := by
  intro c
  have h : ofEnvironment [] = .ok {} := by rfl
  obtain ⟨-, hpositive, -, hcalls⟩ := ofEnvironment_usable h
  have htimeout : ({} : Config).stepTimeout.IsPositive := by
    rw [hpositive]
    rintro ⟨text, x, htext, -⟩
    cases htext
  refine ⟨h, htimeout, fun s hsame ↦ ?_⟩
  obtain ⟨r, n, hn, hruns⟩ := (hcalls c s).1 htimeout ⟨trivial, rfl⟩
  rw [hsame, List.self_eq_append_right, List.replicate_eq_nil_iff] at hruns
  omega

/-- Not a number and infinity are accepted as time limits, and no call comes to run anything: the
one is reported as a value that cannot be used, the other is a defect. -/
theorem non_finite_limits_accepted :
    let c : Call := .delete Cluster.Kind.namespaces (.str "a") .null
    let s : Session := .constant (.finished 0 none none)
    ofEnvironment [(timeoutVariable, "nan")] = .ok { stepTimeout := .nan } ∧
      ofEnvironment [(timeoutVariable, "inf")] = .ok { stepTimeout := .infinite false } ∧
      (Client.ofConfig { stepTimeout := .nan }).handle c s =
        (.error (.cause (.value .limitNotNumber)), s) ∧
      (Client.ofConfig { stepTimeout := .infinite false }).handle c s =
        (.error (.defect .outOfRange), s) :=
  ⟨by rfl, by rfl, by rfl, by rfl⟩

end Config

end TenantBroker
