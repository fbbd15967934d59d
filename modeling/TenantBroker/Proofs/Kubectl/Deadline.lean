import TenantBroker.Proofs.Kubectl.Words
import TenantBroker.Proofs.Text.Utf8

/-!
# Runs whose time limit expires

A run whose time limit expires is reported as a retryable failure of which nothing proves that the
server never saw the request, whatever was captured before. So reads and deletes are run again and
creates are not. All of this holds only if what was captured is a text: bytes that are none, such as
those that are cut off inside a character, end the call.
-/

namespace TenantBroker.Kubectl

open Cluster (Call CommandFailure Failure Kind)

variable {client : Client} {command : Command} {captured : Captured} {text : String} {c : Call}

/-! ## What was captured -/

/-- What was captured is a text: nothing is the empty one, and bytes are its encoding. -/
def Captured.Spells : Captured → String → Prop
  | .nothing, text => text = ""
  | .text value, text => text = value
  | .bytes value, text => value = Text.Utf8.encode text.toList

/-- What was captured is decoded to a text exactly if it is this text. -/
theorem Captured.decode_eq_ok_iff : captured.decode = .ok text ↔ captured.Spells text := by
  cases captured with
  | nothing => simp [Captured.decode, Captured.Spells, eq_comm]
  | text value => simp [Captured.decode, Captured.Spells, eq_comm]
  | bytes value =>
    rw [Captured.Spells, ← Text.Utf8.decode_eq_ok_iff]
    simp only [Captured.decode]
    cases Text.Utf8.decode value with
    | ok cs =>
      simp only [Except.ok.injEq]
      constructor
      · rintro rfl
        exact String.toList_ofList.symm
      · rintro rfl
        exact String.ofList_toList
    | error fault => exact iff_of_false (by rintro ⟨⟩) (by rintro ⟨⟩)

/-- What is no text is not decoded for this reason. -/
theorem Captured.decode_undecodable (h : ∀ text, ¬ captured.Spells text) :
    ∃ fault, captured.decode = .error (.cause (.value (.undecodable fault))) := by
  cases captured with
  | nothing => exact absurd rfl (h "")
  | text value => exact absurd rfl (h value)
  | bytes value =>
    cases hdecoded : Text.Utf8.decode value with
    | error fault => exact ⟨fault, by simp only [Captured.decode, hdecoded]⟩
    | ok cs =>
      refine absurd ?_ (h (String.ofList cs))
      rw [← decode_eq_ok_iff, Captured.decode, hdecoded]

/-- Bytes that are cut off inside a character are no text. -/
theorem Captured.not_spells_cut {char : Char} {cut tail : List UInt8}
    (hcut : String.utf8EncodeChar char = cut ++ tail) (hsome : cut ≠ []) (htail : tail ≠ [])
    (before : List Char) (text : String) :
    ¬ (Captured.bytes (Text.Utf8.encode before ++ cut)).Spells text :=
  Text.Utf8.encode_append_cut_ne hcut hsome htail before text.toList

/-! ## What an expired limit is reported as -/

/-- How a run is reported whose time limit expired. -/
inductive Expiry {α : Type} (limit : Option Number) (captured : Captured) :
    Except Failure α → Prop
  | retryable (f : CommandFailure) (htext : captured.Spells f.stdout)
      (hstderr : f.stderr = "command timed out after " ++ limitText limit ++ "s")
      (hcode : f.returncode = -1) (hcategory : f.category = .retryable)
      (hunsent : isUnsent f = false) : Expiry limit captured (.error (.cause (.command f)))
  | undecodable (fault : Text.Utf8.Fault) (htext : ∀ text, ¬ captured.Spells text) :
      Expiry limit captured (.error (.cause (.value (.undecodable fault))))

/-- A failure is reported as such where the output would be read. -/
theorem Expiry.bind {α β : Type} {limit : Option Number} {result : Except Failure α}
    (h : Expiry limit captured result) (read : α → Except Failure β) :
    Expiry limit captured (result >>= read) := by
  cases h with
  | retryable f htext hstderr hcode hcategory hunsent =>
    exact .retryable f htext hstderr hcode hcategory hunsent
  | undecodable fault htext => exact .undecodable fault htext

/-- What was captured of a command of texts is reported. -/
theorem expiry_conclude (summary : String) (limit : Option Number) (words : List String)
    (captured : Captured) :
    Expiry limit captured (conclude summary limit (words.map .str) (.expired captured)) := by
  by_cases htext : ∃ text, captured.Spells text
  · obtain ⟨text, htext⟩ := htext
    have hdecoded := Captured.decode_eq_ok_iff.mpr htext
    simp only [conclude, Outcome.result, hdecoded]
    show Expiry limit captured (.error (Result.failure _ summary _))
    rw [Result.failure, words?_map_str]
    exact .retryable _ htext rfl rfl rfl rfl
  · have hnone (text : String) : ¬ captured.Spells text := fun h ↦ htext ⟨text, h⟩
    obtain ⟨fault, hdecoded⟩ := Captured.decode_undecodable hnone
    simp only [conclude, Outcome.result, hdecoded]
    exact .undecodable fault hnone

/-- A call runs its command again after an expired limit exactly if what was captured is a text and
the call is no create. -/
theorem repeats_expired_iff {r : Run} {words : List String} (hwords : r.command = words.map .str)
    (summary : String) (c : Call) (captured : Captured) :
    Repeats summary (repeatsOf c) r (.expired captured) ↔
      (∃ text, captured.Spells text) ∧ ∀ kind manifest, c ≠ .create kind manifest := by
  have hexpiry : Expiry r.limit captured (conclude summary r.limit r.command (.expired captured)) :=
    hwords ▸ expiry_conclude summary r.limit words captured
  unfold Repeats
  generalize conclude summary r.limit r.command (.expired captured) = result at hexpiry
  cases hexpiry with
  | retryable f htext hstderr hcode hcategory hunsent =>
    have hagain : repeatsOf c (.cause (.command f)) = true ↔
        ∀ kind manifest, c ≠ .create kind manifest := by
      cases c with
      | create kind manifest => simp [repeatsOf, repeatsCreate, hunsent]
      | _ => simp [repeatsOf, repeatsRead, Failure.isRetryable, Failure.category?,
          Cluster.Cause.category?, hcategory]
    simp only [Except.error.injEq, exists_eq_left', hagain]
    exact (and_iff_right ⟨f.stdout, htext⟩).symm
  | undecodable fault hnone =>
    refine iff_of_false ?_ ?_
    · rintro ⟨f, hf, hagain⟩
      obtain rfl := Except.error.inj hf
      cases c <;> cases hagain
    · rintro ⟨⟨text, htext⟩, -⟩
      exact hnone text htext

/-! ## What calls do about it -/

/-- How a call that makes `n` runs deals with those whose time limit expires. The command is run
again after such a run if what was captured is a text and attempts remain, and never if it is to
create something. The last run decides what the call comes to. -/
structure Expirations (client : Client) (c : Call) (s : Session) (r : Run) (n : Nat) : Prop where
  command : Spelled r.command
  limit : r.limit = some (.real client.timeout)
  manifest : r.manifest = submitted? c
  first : 1 ≤ n
  runs : (client.handle c s).2.runs = s.runs ++ List.replicate n r
  again : ∀ i < n, ∀ captured, s.outcome r i = .expired captured →
    (i + 1 < n ↔ (∃ text, captured.Spells text) ∧
      (∀ kind manifest, c ≠ .create kind manifest) ∧ i + 1 < client.attempts)
  last : ∀ captured, s.outcome r (n - 1) = .expired captured →
    Expiry r.limit captured (client.handle c s).1

/-- Under a finite time limit every call whose command is made of texts deals with expired limits
so. -/
theorem exists_expirations
    (htimeout : ∃ negative significand exponent,
      client.timeout = .finite negative significand exponent) (hc : Worded c) (s : Session) :
    ∃ r n, Expirations client c s r n := by
  obtain ⟨limit, hlimit⟩ := exists_requestTimeout htimeout
  obtain ⟨plan, hspelled, hrun, hmanifest, hhandle, -⟩ := exists_wording hlimit hc s
  obtain ⟨repeated, h⟩ := attempted plan.summary (repeatsOf c) client.backoff plan.run
    (client.attempts - 1) 1 s
  obtain ⟨program, words, hwords⟩ := id hspelled
  have hrepeats := repeats_expired_iff hwords plan.summary c
  have hbound := h.bound
  refine ⟨plan.run, repeated + 1, hspelled, hrun, hmanifest, Nat.succ_pos repeated, ?_,
    fun i hi captured hexpired ↦ ⟨fun hmore ↦ ?_, ?_⟩, fun captured hexpired ↦ ?_⟩
  · rw [hhandle]
    exact h.runs
  · have hagain := h.earlier i (Nat.lt_of_succ_lt_succ hmore)
    rw [hexpired, hrepeats] at hagain
    exact ⟨hagain.1, hagain.2, by omega⟩
  · rintro ⟨htext, hcreate, hleft⟩
    apply Nat.lt_of_le_of_ne hi
    intro hlast
    obtain rfl : i = repeated := Nat.succ.inj hlast
    refine h.last (by omega) ?_
    rw [hexpired, hrepeats]
    exact ⟨htext, hcreate⟩
  · rw [Nat.add_sub_cancel] at hexpired
    rw [hhandle, Client.afterwards, h.result, hexpired, hwords]
    exact (expiry_conclude _ _ _ _).bind _

/-- A run of a command of texts whose time limit expires is reported as a retryable failure, with
the return code -1, of which nothing proves that the server never saw the request, exactly if what
was captured is a text. Bytes that are cut off inside a character are none. Under a finite time
limit a call that is no create is run again after such a run while attempts remain, exactly if what
was captured is a text, and a create is never run again. -/
theorem expired_limit (client : Client) :
    (∀ (summary : String) (limit : Option Number) (words : List String) (captured : Captured),
      Expiry limit captured (conclude summary limit (words.map .str) (.expired captured))) ∧
    (∀ (before : List Char) (char : Char) (cut tail : List UInt8),
      String.utf8EncodeChar char = cut ++ tail → cut ≠ [] → tail ≠ [] →
      ∀ text, ¬ (Captured.bytes (Text.Utf8.encode before ++ cut)).Spells text) ∧
    ((∃ negative significand exponent, client.timeout = .finite negative significand exponent) →
      ∀ (c : Call) (s : Session), Worded c → ∃ r n, Expirations client c s r n) :=
  ⟨expiry_conclude, fun before _ _ _ hcut hsome htail ↦
    Captured.not_spells_cut hcut hsome htail before, fun htimeout _ s hc ↦
    exists_expirations htimeout hc s⟩

/-- A delete whose limit expires every time is run as often as there are attempts, and a create
once. -/
theorem expired_limit_silent :
    let s : Session := .constant (.expired .nothing)
    let delete : Call := .delete Kind.namespaces (.str "a") .null
    let create : Call := .create Kind.namespaces (.obj [("metadata", .obj [("name", .str "a")])])
    Worded delete ∧ Worded create ∧
      (({} : Client).handle delete s).2.runs.length = 3 ∧
      (({} : Client).handle create s).2.runs.length = 1 := by
  intro s delete create
  have hplace : Located Kind.namespaces .null := nofun
  have hdelete : Worded delete := ⟨⟨"a", rfl⟩, hplace⟩
  have hcreate : Worded create := ⟨rfl, [("name", .str "a")], rfl, hplace⟩
  have hruns (c : Call) (hc : Worded c) : ∃ n, 1 ≤ n ∧
      (({} : Client).handle c s).2.runs.length = n ∧
      ∀ i < n, i + 1 < n ↔ (∀ kind manifest, c ≠ .create kind manifest) ∧ i + 1 < 3 := by
    obtain ⟨r, n, h⟩ := (expired_limit {}).2.2 ⟨_, _, _, rfl⟩ c s hc
    refine ⟨n, h.first, by rw [h.runs]; exact List.length_replicate, fun i hi ↦ ?_⟩
    rw [h.again i hi .nothing rfl]
    exact and_iff_right ⟨"", rfl⟩
  refine ⟨hdelete, hcreate, ?_, ?_⟩
  · obtain ⟨n, hfirst, hlength, hagain⟩ := hruns delete hdelete
    have hattempts : ¬ n - 1 + 1 < 3 := fun hleft ↦
      absurd ((hagain (n - 1) (by omega)).mpr ⟨nofun, hleft⟩) (by omega)
    have hbound : ¬ 2 + 1 < n := fun hmore ↦
      absurd ((hagain 2 (by omega)).mp hmore).2 (by omega)
    omega
  · obtain ⟨n, hfirst, hlength, hagain⟩ := hruns create hcreate
    have honce : ¬ 0 + 1 < n := fun hmore ↦ ((hagain 0 (by omega)).mp hmore).1 _ _ rfl
    omega

/-- A byte that begins a character of two, captured before a limit of five seconds expired, is not
reported as a failed command, and a delete that might be run three times is run once. -/
theorem cut_output_not_retried :
    let cut : Outcome := .expired (.bytes [0xC3])
    conclude "get failed" (some (.int 5)) (["kubectl", "get", "ns"].map .str) cut =
        .error (.cause (.value (.undecodable ⟨0, 0xC3, 1, .unexpectedEnd⟩))) ∧
      (({} : Client).handle (.delete Kind.namespaces (.str "a") .null)
        (.constant cut)).2.runs.length = 1 ∧
      ({} : Client).attempts = 3 := by
  intro cut
  exact ⟨rfl, by decide +kernel, rfl⟩

end TenantBroker.Kubectl
