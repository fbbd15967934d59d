import TenantBroker.Identity
import TenantBroker.Proofs.Json.Reading
import TenantBroker.Proofs.Json.Writing
import TenantBroker.Proofs.Text.Base64
import TenantBroker.Proofs.Text.Encoding

/-!
# The user that an identity names

An identity names a user exactly if its text after the first space is base64 of a JSON record whose
last member `username` is the user's name. So the name of the user comes through whatever the
platform is called, however the record is laid out, and whatever blanks stand around the header;
nothing but such a name is taken for a user.
-/

namespace TenantBroker.Identity

open Json (IsDocument IsRecordDocument LastMember gathered)

/-! ## Trimming -/

/-- Trimming takes off what is around a text that neither begins nor ends with a character of the
class. -/
theorem trimBoth_append {p : Char → Bool} {before core after : List Char}
    (hbefore : ∀ c ∈ before, p c = true) (hafter : ∀ c ∈ after, p c = true)
    (hfirst : ∀ c ∈ core.head?, p c = false) (hlast : ∀ c ∈ core.getLast?, p c = false)
    (hsome : core ≠ []) : Text.trimBoth p (before ++ (core ++ after)) = core := by
  have hdrop {cs : List Char} (hcs : cs ≠ []) (hhead : ∀ c ∈ cs.head?, p c = false)
      (rest : List Char) : (cs ++ rest).dropWhile p = cs ++ rest := by
    obtain ⟨c, tail, rfl⟩ := List.exists_cons_of_ne_nil hcs
    simp [hhead c rfl]
  have hend : (core.reverse ++ []).dropWhile p = core.reverse ++ [] :=
    hdrop (by simpa using hsome) (by simpa using hlast) []
  rw [List.append_nil] at hend
  rw [Text.trimBoth, List.dropWhile_append_of_pos hbefore, hdrop hsome hfirst, List.reverse_append,
    List.dropWhile_append_of_pos (by simpa using hafter), hend, List.reverse_reverse]

/-! ## The two parts -/

/-- The platform ends at the first space. -/
theorem split_append {platform : List Char} (h : ' ' ∉ platform) (encoded : List Char) :
    (platform ++ ' ' :: encoded).takeWhile (· ≠ ' ') = platform ∧
      ((platform ++ ' ' :: encoded).dropWhile (· ≠ ' ')).drop 1 = encoded := by
  have hall : ∀ c ∈ platform, decide (c ≠ ' ') = true := by
    intro c hc
    simpa using fun hspace : c = ' ' ↦ h (hspace ▸ hc)
  rw [List.takeWhile_append_of_pos hall, List.dropWhile_append_of_pos hall]
  simp

/-- Without a space in it a text has nothing after its first space. -/
theorem drop_dropWhile_eq_nil {cs : List Char} (h : ' ' ∉ cs) :
    (cs.dropWhile (· ≠ ' ')).drop 1 = [] := by
  have hnil : cs.dropWhile (· ≠ ' ') = [] := by
    rw [List.dropWhile_eq_nil_iff]
    intro c hc
    simpa using fun hspace : c = ' ' ↦ h (hspace ▸ hc)
  rw [hnil]
  rfl

variable {header : Option String} {user text : String} {platform encoded : List Char}

/-- A header with a space in it is read as a platform and the text after the space. -/
theorem read_of_parts
    (hheader : Text.trimBoth Text.isBlank text.toList = platform ++ ' ' :: encoded)
    (hplatform : ' ' ∉ platform) (hencoded : encoded ≠ []) :
    read (some text) = readParts platform encoded := by
  have hsome : text ≠ "" := by
    rintro rfl
    exact absurd (congrArg List.length hheader) (by simp [Text.trimBoth])
  obtain ⟨htake, hdrop⟩ := split_append hplatform encoded
  rw [read, if_neg hsome, hheader]
  dsimp only
  rw [htake, hdrop, if_neg (by simpa using hencoded)]

/-- A header that is read has two parts. -/
theorem exists_parts (h : read header = .ok user) :
    ∃ text platform encoded, header = some text ∧
      Text.trimBoth Text.isBlank text.toList = platform ++ ' ' :: encoded ∧ ' ' ∉ platform ∧
      encoded ≠ [] ∧ readParts platform encoded = .ok user := by
  cases header with
  | none => cases h
  | some text =>
    rw [read] at h
    split at h
    · cases h
    · dsimp only at h
      split at h
      · cases h
      · rename_i hencoded
        have hspace : ' ' ∈ Text.trimBoth Text.isBlank text.toList := by
          by_contra hnone
          exact hencoded (by rw [drop_dropWhile_eq_nil hnone]; rfl)
        obtain ⟨platform, encoded, hheader, hplatform⟩ := List.eq_append_cons_of_mem hspace
        obtain ⟨htake, hdrop⟩ := split_append hplatform encoded
        rw [hheader, hdrop] at hencoded
        rw [hheader, htake, hdrop] at h
        exact ⟨text, platform, encoded, rfl, hheader, hplatform, by simpa using hencoded, h⟩

/-! ## The payload -/

/-- A record document is a document of its gathered members. -/
theorem isDocument_obj_iff {document : List Char} {fields : List (String × Json)} :
    IsDocument document (.obj fields) ↔
      ∃ members, fields = gathered members ∧ IsRecordDocument document members := by
  constructor
  · rintro ⟨before, text, after, hbefore, hafter, hspells, rfl⟩
    generalize hvalue : Json.obj fields = value at hspells
    cases hspells with
    | word h =>
      subst hvalue
      simp [Json.words] at h
    | record h =>
      obtain rfl := Json.obj.inj hvalue
      exact ⟨_, rfl, before, text, after, hbefore, hafter, h, rfl⟩
    | number | string | noItems | items => cases hvalue
  · rintro ⟨members, rfl, before, text, after, hbefore, hafter, hspells, rfl⟩
    exact ⟨before, text, after, hbefore, hafter, .record hspells, rfl⟩

/-- The value that a payload stands for. -/
theorem readPayload_eq_ok_iff {payload : Json} :
    readPayload encoded = .ok payload ↔
      ∃ bytes document, Text.Base64.decode encoded = .ok bytes ∧
        Text.decodeDetected bytes = .ok document ∧ IsDocument document payload := by
  have hdocument (bytes : List UInt8) : Json.readBytes bytes = .ok payload ↔
      ∃ document, Text.decodeDetected bytes = .ok document ∧ IsDocument document payload := by
    rw [Json.readBytes]
    cases Text.decodeDetected bytes with
    | error fault => simp
    | ok document =>
      simp only [mapError_eq_ok_iff, Except.ok.injEq, exists_eq_left',
        ← Json.readDocument_eq_ok_iff]
      unfold Json.readChecked
      split <;> simp_all
  rw [readPayload]
  cases Text.Base64.decode encoded with
  | error fault => simp
  | ok bytes => simp [hdocument]

/-- A payload names a user. -/
theorem username?_eq_some_iff {payload : Json} :
    username? payload = some user ↔
      user ≠ "" ∧ ∃ fields, payload = .obj fields ∧
        Json.field? fields "username" = some (.str user) := by
  cases payload with
  | obj fields =>
    simp only [username?, Option.filter_eq_some_iff, Json.bind_text?_eq_some_iff, bne_iff_ne,
      Json.obj.injEq, exists_eq_left', and_comm]
  | _ => simp [username?]

/-- A text is base64 of a record whose last member `username` is the name of a user. -/
def Carries (encoded : List Char) (user : String) : Prop :=
  ∃ bytes document members, Text.Base64.decode encoded = .ok bytes ∧
    Text.decodeDetected bytes = .ok document ∧ IsRecordDocument document members ∧
      LastMember members "username" (.str user)

/-- A user is read behind the platform exactly if the text there carries it. -/
theorem readParts_eq_ok_iff :
    readParts platform encoded = .ok user ↔
      user ≠ "" ∧ Carries (Text.trimBoth Text.isBlank encoded) user := by
  have hread : readParts platform encoded = .ok user ↔
      ∃ payload, readPayload (Text.trimBoth Text.isBlank encoded) = .ok payload ∧
        username? payload = some user := by
    rw [readParts]
    cases readPayload (Text.trimBoth Text.isBlank encoded) with
    | error fault => simp
    | ok payload => cases h : username? payload <;> simp [h]
  simp only [hread, readPayload_eq_ok_iff, username?_eq_some_iff]
  constructor
  · rintro ⟨_, ⟨bytes, document, hbytes, hdocument, his⟩, hne, fields, rfl, hfield⟩
    obtain ⟨members, rfl, hrecord⟩ := isDocument_obj_iff.mp his
    exact ⟨hne, bytes, document, members, hbytes, hdocument, hrecord,
      Json.field?_gathered_eq_some_iff.mp hfield⟩
  · rintro ⟨hne, bytes, document, members, hbytes, hdocument, hrecord, hlast⟩
    exact ⟨_, ⟨bytes, document, hbytes, hdocument, isDocument_obj_iff.mpr ⟨members, rfl, hrecord⟩⟩,
      hne, _, rfl, Json.field?_gathered_eq_some_iff.mpr hlast⟩

/-- Nothing carries no user. -/
theorem Carries.ne_nil (h : Carries encoded user) : encoded ≠ [] := by
  rintro rfl
  obtain ⟨bytes, document, members, hbytes, hdocument, hrecord, -⟩ := h
  obtain ⟨before, text, after, -, -, hspells, rfl⟩ := hrecord
  obtain rfl : [] = bytes := Except.ok.inj hbytes
  have hnil := Except.ok.inj hdocument
  cases hspells <;> simp at hnil

/-! ## Headers -/

/-- A header names a user: the text after its first space carries the name. -/
def Names (header : Option String) (user : String) : Prop :=
  ∃ text platform encoded, header = some text ∧
    Text.trimBoth Text.isBlank text.toList = platform ++ ' ' :: encoded ∧ ' ' ∉ platform ∧
      Carries (Text.trimBoth Text.isBlank encoded) user

/-- A header is read as a user exactly if it names one whose name is not empty. -/
theorem read_eq_ok_iff : read header = .ok user ↔ user ≠ "" ∧ Names header user := by
  constructor
  · intro h
    obtain ⟨text, platform, encoded, rfl, hheader, hplatform, -, hparts⟩ := exists_parts h
    obtain ⟨hne, hcarries⟩ := readParts_eq_ok_iff.mp hparts
    exact ⟨hne, text, platform, encoded, rfl, hheader, hplatform, hcarries⟩
  · rintro ⟨hne, text, platform, encoded, rfl, hheader, hplatform, hcarries⟩
    have hencoded : encoded ≠ [] := by
      rintro rfl
      exact hcarries.ne_nil rfl
    rw [read_of_parts hheader hplatform hencoded]
    exact readParts_eq_ok_iff.mpr ⟨hne, hcarries⟩

/-! ## Headers that carry a record -/

variable {document before after : List Char} {members : List (String × Json)}

/-- A blank of JSON is an ASCII character other than zero. -/
theorem toNat_of_isSpace {c : Char} (h : Json.isSpace c = true) :
    c.toNat < 0x80 ∧ c.toNat ≠ 0 := by
  simp only [Json.isSpace, Bool.or_eq_true, decide_eq_true_eq, or_assoc] at h
  rcases h with rfl | rfl | rfl | rfl <;> decide

/-- A record document begins with two characters that show it is in UTF-8. -/
theorem exists_head_of_record (h : IsRecordDocument document members) :
    ∃ c d tail, c.toNat < 0x80 ∧ c.toNat ≠ 0 ∧ d.toNat ≠ 0 ∧ document = c :: d :: tail := by
  obtain ⟨before, text, after, hbefore, -, hspells, rfl⟩ := h
  have hinside : ∃ d tail, d.toNat ≠ 0 ∧ text = '\x7b' :: d :: tail := by
    have hspace {blanks : List Char} (hblanks : Json.IsBlanks blanks) {d : Char}
        (hd : d.toNat ≠ 0) (rest : List Char) :
        ∃ e tail, e.toNat ≠ 0 ∧ blanks ++ d :: rest = e :: tail := by
      cases blanks with
      | nil => exact ⟨d, rest, hd, rfl⟩
      | cons e blanks => exact ⟨e, _, (toNat_of_isSpace (hblanks e List.mem_cons_self)).2, rfl⟩
    cases hspells with
    | none hblanks =>
      obtain ⟨d, tail, hd, heq⟩ := hspace hblanks (d := '\x7d') (by decide) []
      exact ⟨d, tail, hd, by rw [heq]⟩
    | some hblanks _ hmembers =>
      obtain ⟨rest, rfl⟩ := hmembers.head
      obtain ⟨d, tail, hd, heq⟩ := hspace hblanks (d := '"') (by decide) _
      exact ⟨d, tail, hd, by rw [List.cons_append, heq]⟩
  obtain ⟨d, tail, hd, rfl⟩ := hinside
  match before, hbefore with
  | [], _ => exact ⟨'\x7b', d, tail ++ after, by decide, by decide, hd, rfl⟩
  | [c], hbefore =>
    obtain ⟨hascii, hzero⟩ := toNat_of_isSpace (hbefore c List.mem_cons_self)
    exact ⟨c, '\x7b', _, hascii, hzero, by decide, rfl⟩
  | c :: e :: more, hbefore =>
    obtain ⟨hascii, hzero⟩ := toNat_of_isSpace (hbefore c List.mem_cons_self)
    exact ⟨c, e, _, hascii, hzero,
      (toNat_of_isSpace (hbefore e (List.mem_cons_of_mem _ List.mem_cons_self))).2, rfl⟩

/-- The header of a platform and a document in UTF-8, with blanks around it. -/
def headerOf (before platform document after : List Char) : String :=
  String.ofList (before ++
    ((platform ++ ' ' :: Text.Base64.encode (Text.Utf8.encode document)) ++ after))

/-- The payload of a record document is the record. -/
theorem readPayload_encode (h : IsRecordDocument document members) :
    readPayload (Text.Base64.encode (Text.Utf8.encode document)) =
      .ok (.obj (gathered members)) := by
  obtain ⟨c, d, tail, hascii, hzero, hd, rfl⟩ := exists_head_of_record h
  exact readPayload_eq_ok_iff.mpr ⟨_, _, Text.Base64.decode_encode _,
    Text.decodeDetected_encode tail hascii hzero hd, isDocument_obj_iff.mpr ⟨members, rfl, h⟩⟩

/-- A header with a record document is read as the user that the record names. -/
theorem read_headerOf (hsome : platform ≠ []) (hplatform : ∀ c ∈ platform, Text.isBlank c = false)
    (hbefore : ∀ c ∈ before, Text.isBlank c = true) (hafter : ∀ c ∈ after, Text.isBlank c = true)
    (h : IsRecordDocument document members) :
    read (some (headerOf before platform document after)) =
      (username? (.obj (gathered members))).elim
        (.error (.noUsername (String.ofList platform))) .ok := by
  obtain ⟨c, d, tail, -, -, -, hdocument⟩ := exists_head_of_record h
  have hbytes : Text.Utf8.encode document ≠ [] := by
    obtain ⟨first, more, hfirst, -⟩ := Text.Utf8.spells_encodeChar c
    rw [hdocument, Text.Utf8.encode_cons, hfirst]
    nofun
  have hpayload := readPayload_encode h
  have hink := Text.Base64.forall_mem_encode_isInk (Text.Utf8.encode document)
  have hne := Text.Base64.encode_ne_nil hbytes
  rw [headerOf]
  generalize Text.Base64.encode (Text.Utf8.encode document) = encoded at hpayload hink hne ⊢
  have hfirst : ∀ c ∈ encoded.head?, Text.isBlank c = false := fun c hc ↦
    (hink c (List.mem_of_head? hc)).2
  have hlast : ∀ c ∈ encoded.getLast?, Text.isBlank c = false := fun c hc ↦
    (hink c (List.mem_of_getLast? hc)).2
  have hspace : ' ' ∉ platform := fun hmem ↦ absurd (hplatform ' ' hmem) (by decide)
  have htrimmed : Text.trimBoth Text.isBlank encoded = encoded := by
    have hnothing : Text.trimBoth Text.isBlank ([] ++ (encoded ++ [])) = encoded :=
      trimBoth_append nofun nofun hfirst hlast hne
    simpa using hnothing
  have hheader : Text.trimBoth Text.isBlank
      (String.ofList (before ++ ((platform ++ ' ' :: encoded) ++ after))).toList =
      platform ++ ' ' :: encoded := by
    rw [String.toList_ofList]
    refine trimBoth_append hbefore hafter (fun c hc ↦ ?_) (fun c hc ↦ ?_) (by simp)
    · obtain ⟨p, ps, rfl⟩ := List.exists_cons_of_ne_nil hsome
      exact hplatform c (List.mem_of_head? hc)
    · obtain ⟨init, d, rfl⟩ := (List.eq_nil_or_concat encoded).resolve_left hne
      rw [List.concat_eq_append] at hlast hc
      rw [← List.cons_append, ← List.append_assoc, List.getLast?_concat] at hc
      exact hlast c (by rw [List.getLast?_concat]; exact hc)
  rw [read_of_parts hheader hspace hne]
  simp only [readParts, htrimmed, hpayload]
  cases username? (.obj (gathered members)) <;> rfl

/-- A header with a record document is read as the user that the record names, if the name is not
empty; otherwise the identity is said to have no user. -/
theorem read_of_field (hsome : platform ≠ []) (hplatform : ∀ c ∈ platform, Text.isBlank c = false)
    (hbefore : ∀ c ∈ before, Text.isBlank c = true) (hafter : ∀ c ∈ after, Text.isBlank c = true)
    (h : IsRecordDocument document members) {IsName : String → Prop}
    (hname : ∀ user, (Json.field? (gathered members) "username").bind Json.text? = some user ↔
      IsName user) :
    (∀ user, user ≠ "" → IsName user →
      read (some (headerOf before platform document after)) = .ok user) ∧
    ((∀ user, IsName user → user = "") →
      read (some (headerOf before platform document after)) =
        .error (.noUsername (String.ofList platform))) := by
  have hread := read_headerOf hsome hplatform hbefore hafter h
  have husername (user : String) : username? (.obj (gathered members)) = some user ↔
      user ≠ "" ∧ IsName user := by
    rw [username?, Option.filter_eq_some_iff, hname, bne_iff_ne, and_comm]
  constructor
  · intro user hne huser
    rw [hread, (husername user).mpr ⟨hne, huser⟩]
    rfl
  · intro hnone
    have hno : username? (.obj (gathered members)) = none := by
      refine Option.eq_none_iff_forall_ne_some.mpr fun user hsome ↦ ?_
      obtain ⟨hne, huser⟩ := (husername user).mp hsome
      exact hne (hnone user huser)
    rw [hread, hno]
    rfl

/-- Headers and users. A header made of a platform, a space and the base64 text of a JSON record in
UTF-8, with blanks around it, is read as the user that the record names last, however the record is
laid out; so it is in particular for the text that the record itself is written as. A record that
names none, or not by a text, or by the empty one, gives a fault. Whatever a header is, reading it
gives a user with a name or a fault, and a user only if the header names this one. A name is told up
to surrogates outside a pair, each of which is the replacement character in the record and in the
user alike. -/
theorem read_exact :
    (∀ platform before after : List Char, platform ≠ [] →
      (∀ c ∈ platform, Text.isBlank c = false) → (∀ c ∈ before, Text.isBlank c = true) →
      (∀ c ∈ after, Text.isBlank c = true) →
      (∀ {document : List Char} {members : List (String × Json)},
        IsRecordDocument document members →
        let result := read (some (headerOf before platform document after))
        (∀ user, user ≠ "" → LastMember members "username" (.str user) → result = .ok user) ∧
        ((∀ user, LastMember members "username" (.str user) → user = "") →
          result = .error (.noUsername (String.ofList platform)))) ∧
      ∀ fields : List (String × Json), (fields.map (·.1)).Nodup →
        (∀ i ∈ Json.integersOfFields fields, Json.IsShort i) →
        let result := read (some (headerOf before platform (Json.written (.obj fields)) after))
        (∀ user, user ≠ "" → Json.field? fields "username" = some (.str user) →
          result = .ok user) ∧
        ((∀ user, Json.field? fields "username" = some (.str user) → user = "") →
          result = .error (.noUsername (String.ofList platform)))) ∧
    (∀ header, (∃ user, user ≠ "" ∧ read header = .ok user) ∨
      ∃ fault, read header = .error fault) ∧
    ∀ header user, read header = .ok user ↔ user ≠ "" ∧ Names header user := by
  refine ⟨fun platform before after hsome hplatform hbefore hafter ↦ ⟨fun h ↦ ?_,
    fun fields hnodup hshort ↦ ?_⟩, fun header ↦ ?_, fun header user ↦ read_eq_ok_iff⟩
  · refine read_of_field hsome hplatform hbefore hafter h fun user ↦ ?_
    rw [Json.bind_text?_eq_some_iff, Json.field?_gathered_eq_some_iff]
  · obtain ⟨members, hspells, htexts⟩ := Json.exists_spellsRecord_written fields hshort
    have hdocument : IsRecordDocument (Json.written (.obj fields)) members :=
      ⟨[], _, [], Json.isBlanks_nil, Json.isBlanks_nil, hspells, (List.append_nil _).symm⟩
    refine read_of_field hsome hplatform hbefore hafter hdocument fun user ↦ ?_
    rw [Json.text_gathered htexts hnodup, Json.bind_text?_eq_some_iff]
  · cases h : read header with
    | ok user => exact .inl ⟨user, (read_eq_ok_iff.mp h).1, rfl⟩
    | error fault => exact .inr ⟨fault, rfl⟩

/-- A record that has the name of a user twice, first as a number and then as an escaped letter, is
read as the user with this letter. A record that is written with a name gives it back, unless the
name is empty. -/
theorem read_exact_cloudfoundry :
    read (some "\tcloudfoundry eyJ1c2VybmFtZSI6MSwidXNlcm5hbWUiOiJcdTAwNjEifQ==\n") = .ok "a" ∧
      read (some "cloudfoundry eyJ1c2VybmFtZSI6ICJhbGljZSJ9 ") = .ok "alice" ∧
      read (some "cloudfoundry eyJ1c2VybmFtZSI6ICIifQ== ") =
        .error (.noUsername "cloudfoundry") := by
  have hletters : ∀ c ∈ "cloudfoundry".toList, Text.isBlank c = false :=
    Text.forall_not_isBlank (by decide)
  have hname : Json.SpellsString "\"username\"".toList "username" :=
    Json.spellsString_written "username"
  have hnumber : Json.SpellsNumber ['1'] (.int 1) :=
    (.int ⟨⟨nofun, List.forall_mem_singleton.mpr rfl⟩, by decide⟩ (by decide) : Json.SpellsNumber
      (Json.minus false ++ ['1']) (.int (Json.signed false 1)))
  have hunit : Json.SpellsUnit "0061".toList 0x61 := ⟨rfl, rfl⟩
  have hstring : Json.SpellsString "\"\\u0061\"".toList "a" :=
    .quoted (.unit hunit nofun .nil)
  have htwice : IsRecordDocument "\x7b\"username\":1,\"username\":\"\\u0061\"\x7d".toList
      [("username", .num (.int 1)), ("username", .str "a")] :=
    ⟨[], _, [], Json.isBlanks_nil, Json.isBlanks_nil,
      .some Json.isBlanks_nil Json.isBlanks_nil
        (.cons (.colon hname Json.isBlanks_nil Json.isBlanks_nil (.number hnumber))
          Json.isBlanks_nil Json.isBlanks_nil
          (.one (.colon hname Json.isBlanks_nil Json.isBlanks_nil (.string hstring)))), rfl⟩
  have hlast : LastMember [("username", .num (.int 1)), ("username", .str "a")] "username"
      (.str "a") := ⟨[_], [], rfl, nofun⟩
  obtain ⟨hrecord, -⟩ := read_exact.1 "cloudfoundry".toList ['\t'] ['\n'] (by decide) hletters
    (List.forall_mem_singleton.mpr rfl) (List.forall_mem_singleton.mpr rfl)
  obtain ⟨-, hwritten⟩ := read_exact.1 "cloudfoundry".toList [] [' '] (by decide) hletters nofun
    (List.forall_mem_singleton.mpr rfl)
  refine ⟨?_, ?_, ?_⟩
  · exact (hrecord htwice).1 "a" (by decide) hlast
  · exact (hwritten [("username", .str "alice")] (by decide) nofun).1 "alice"
      (by decide) rfl
  · refine (hwritten [("username", .str "")] (by decide) nofun).2 fun user huser ↦ ?_
    exact (Json.str.inj (Option.some.inj huser)).symm

end TenantBroker.Identity
