import TenantBroker.Proofs.Success
import TenantBroker.Text.Utf8

/-!
# Strict decoding is the inverse of encoding

Bytes are decoded strictly to some characters exactly if they are the encoding of these. No
character is encoded by the first bytes of another one, so bytes that are cut off inside a character
are no text.
-/

namespace TenantBroker.Text.Utf8

/-! ## The bytes of one character -/

/-- A first byte and those after it spell the character with a code. -/
inductive Spells : UInt8 → List UInt8 → Nat → Prop
  | one {a : UInt8} {code : Nat} (ha : a.toNat < 0x80) (hcode : code = a.toNat) : Spells a [] code
  | two {a b : UInt8} {code : Nat} (ha : 0xC2 ≤ a.toNat) (ha' : a.toNat < 0xE0)
      (hb : mayFollow a b = true) (hcode : code = (a.toNat - 0xC0) * 0x40 + payload b) :
      Spells a [b] code
  | three {a b c : UInt8} {code : Nat} (ha : 0xE0 ≤ a.toNat) (ha' : a.toNat < 0xF0)
      (hb : mayFollow a b = true) (hc : isContinuation c = true)
      (hcode : code = ((a.toNat - 0xE0) * 0x40 + payload b) * 0x40 + payload c) :
      Spells a [b, c] code
  | four {a b c d : UInt8} {code : Nat} (ha : 0xF0 ≤ a.toNat) (ha' : a.toNat ≤ 0xF4)
      (hb : mayFollow a b = true) (hc : isContinuation c = true) (hd : isContinuation d = true)
      (hcode : code =
        (((a.toNat - 0xF0) * 0x40 + payload b) * 0x40 + payload c) * 0x40 + payload d) :
      Spells a [b, c, d] code

variable {a b first : UInt8} {more rest : List UInt8} {code n : Nat}

/-- Bytes that spell a character are read as this one, whatever comes after them. -/
theorem Spells.head (h : Spells first more code) (rest : List UInt8) :
    head first (more ++ rest) = .scalar code more.length := by
  unfold Utf8.head
  cases h with
  | one ha hcode => simp [ha, hcode]
  | two ha ha' hb hcode =>
    have hnot : ¬ first.toNat < 0x80 := by omega
    have hlead : ¬ (first.toNat < 0xC2 ∨ 0xF4 < first.toNat) := by omega
    simp [hnot, hlead, hb, ha', hcode]
  | three ha ha' hb hc hcode =>
    have hnot : ¬ first.toNat < 0x80 := by omega
    have hlead : ¬ (first.toNat < 0xC2 ∨ 0xF4 < first.toNat) := by omega
    simp [hnot, hlead, Nat.not_lt.mpr ha, hb, hc, ha', hcode]
  | four ha ha' hb hc hd hcode =>
    have hnot : ¬ first.toNat < 0x80 := by omega
    have hlead : ¬ (first.toNat < 0xC2 ∨ 0xF4 < first.toNat) := by omega
    have hthree : ¬ first.toNat < 0xE0 := by omega
    simp [hnot, hlead, hthree, Nat.not_lt.mpr ha, hb, hc, hd, hcode]

/-- What is read as a character is spelled by the bytes up to the last one that was read. -/
theorem spells_of_head (h : head first rest = .scalar code n) :
    ∃ more tail, rest = more ++ tail ∧ more.length = n ∧ Spells first more code := by
  revert h
  fun_cases head first rest with
  | case1 rest lead ha =>
    intro h
    obtain ⟨rfl, rfl⟩ := Head.scalar.inj h
    exact ⟨[], rest, rfl, rfl, .one ha rfl⟩
  | case5 lead hplain hlead b tail hb ha =>
    rintro ⟨⟩
    exact ⟨[b], tail, rfl, rfl, .two (by omega) ha (by simpa using hb) rfl⟩
  | case8 lead hplain hlead b hb hthree c tail hc ha =>
    rintro ⟨⟩
    exact ⟨[b, c], tail, rfl, rfl,
      .three (by omega) ha (by simpa using hb) (by simpa using hc) rfl⟩
  | case11 lead hplain hlead b hb hthree c hc hfour d tail hd =>
    rintro ⟨⟩
    exact ⟨[b, c, d], tail, rfl, rfl, .four (by omega) (by omega) (by simpa using hb)
      (by simpa using hc) (by simpa using hd) rfl⟩
  -- All other runs are broken off.
  | _ => nofun

/-- A continuation byte by its value. -/
theorem isContinuation_iff : isContinuation b = true ↔ 0x80 ≤ b.toNat ∧ b.toNat ≤ 0xBF := by
  simp [isContinuation]

/-- A second byte by its value. -/
theorem mayFollow_iff : mayFollow a b = true ↔ (0x80 ≤ b.toNat ∧ b.toNat ≤ 0xBF) ∧
    (a.toNat = 0xE0 → 0xA0 ≤ b.toNat) ∧ (a.toNat = 0xED → b.toNat < 0xA0) ∧
    (a.toNat = 0xF0 → 0x90 ≤ b.toNat) ∧ (a.toNat = 0xF4 → b.toNat < 0x90) := by
  simp only [mayFollow, isContinuation, Bool.and_eq_true, Bool.or_eq_true, decide_eq_true_eq,
    bne_iff_ne, ne_eq, and_assoc, Decidable.imp_iff_not_or]

/-- The bytes of a code. -/
def bytesOf (code : Nat) : List UInt8 :=
  if code ≤ 0x7F then [UInt8.ofNat code]
  else if code ≤ 0x7FF then
    [UInt8.ofNat (code / 64 % 0x20 + 0xC0), UInt8.ofNat (code % 0x40 + 0x80)]
  else if code ≤ 0xFFFF then
    [UInt8.ofNat (code / 4096 % 0x10 + 0xE0), UInt8.ofNat (code / 64 % 0x40 + 0x80),
      UInt8.ofNat (code % 0x40 + 0x80)]
  else
    [UInt8.ofNat (code / 262144 % 8 + 0xF0), UInt8.ofNat (code / 4096 % 0x40 + 0x80),
      UInt8.ofNat (code / 64 % 0x40 + 0x80), UInt8.ofNat (code % 0x40 + 0x80)]

/-- A character is encoded by the bytes of its code. -/
theorem utf8EncodeChar_eq (c : Char) : String.utf8EncodeChar c = bytesOf c.toNat := rfl

/-- The bytes of a code spell the character with this code. -/
theorem spells_bytesOf (h : code.isValidChar) :
    ∃ first more, bytesOf code = first :: more ∧ Spells first more code := by
  have hbyte {n : Nat} (hn : n < 256) : (UInt8.ofNat n).toNat = n := UInt8.toNat_ofNat_of_lt' hn
  unfold bytesOf
  split
  · have h0 : (UInt8.ofNat code).toNat = code := hbyte (by omega)
    exact ⟨_, _, rfl, .one (by omega) h0.symm⟩
  · split
    · have h0 := hbyte (n := code / 64 % 0x20 + 0xC0) (by omega)
      have h1 := hbyte (n := code % 0x40 + 0x80) (by omega)
      refine ⟨_, _, rfl, .two ?_ ?_ (mayFollow_iff.mpr ?_) ?_⟩
      all_goals simp only [payload, h0, h1]; omega
    · split
      · have h0 := hbyte (n := code / 4096 % 0x10 + 0xE0) (by omega)
        have h1 := hbyte (n := code / 64 % 0x40 + 0x80) (by omega)
        have h2 := hbyte (n := code % 0x40 + 0x80) (by omega)
        refine ⟨_, _, rfl, .three ?_ ?_ (mayFollow_iff.mpr ?_) (isContinuation_iff.mpr ?_) ?_⟩
        all_goals simp only [payload, h0, h1, h2]; omega
      · have h0 := hbyte (n := code / 262144 % 8 + 0xF0) (by omega)
        have h1 := hbyte (n := code / 4096 % 0x40 + 0x80) (by omega)
        have h2 := hbyte (n := code / 64 % 0x40 + 0x80) (by omega)
        have h3 := hbyte (n := code % 0x40 + 0x80) (by omega)
        refine ⟨_, _, rfl, .four ?_ ?_ (mayFollow_iff.mpr ?_) (isContinuation_iff.mpr ?_)
          (isContinuation_iff.mpr ?_) ?_⟩
        all_goals simp only [payload, h0, h1, h2, h3]; omega

/-- Bytes that spell a character are those of its code, which is that of a character. -/
theorem Spells.bytesOf (h : Spells first more code) :
    code.isValidChar ∧ Utf8.bytesOf code = first :: more := by
  have hbyte {n : Nat} {b : UInt8} (hn : b.toNat = n) : UInt8.ofNat n = b := by
    rw [← hn, UInt8.ofNat_toNat]
  cases h with
  | one ha hcode =>
    refine ⟨by omega, ?_⟩
    rw [Utf8.bytesOf, if_pos (by omega), hbyte hcode.symm]
  | two ha ha' hb hcode =>
    rw [mayFollow_iff] at hb
    simp only [payload] at hcode
    refine ⟨by omega, ?_⟩
    rw [Utf8.bytesOf, if_neg (by omega), if_pos (by omega)]
    congr
    all_goals exact hbyte (by omega)
  | three ha ha' hb hc hcode =>
    rw [mayFollow_iff] at hb
    rw [isContinuation_iff] at hc
    simp only [payload] at hcode
    refine ⟨by omega, ?_⟩
    rw [Utf8.bytesOf, if_neg (by omega), if_neg (by omega), if_pos (by omega)]
    congr
    all_goals exact hbyte (by omega)
  | four ha ha' hb hc hd hcode =>
    rw [mayFollow_iff] at hb
    rw [isContinuation_iff] at hc hd
    simp only [payload] at hcode
    refine ⟨by omega, ?_⟩
    rw [Utf8.bytesOf, if_neg (by omega), if_neg (by omega), if_neg (by omega)]
    congr
    all_goals exact hbyte (by omega)

/-- The bytes of a character spell it. -/
theorem spells_encodeChar (c : Char) :
    ∃ first more, String.utf8EncodeChar c = first :: more ∧ Spells first more c.toNat :=
  spells_bytesOf c.valid

/-- Bytes that spell a character are its encoding. -/
theorem Spells.encodeChar (h : Spells first more code) :
    String.utf8EncodeChar (Char.ofNat code) = first :: more := by
  obtain ⟨hvalid, hbytes⟩ := h.bytesOf
  have hcode : (Char.ofNat code).toNat = code := by
    rw [Char.ofNat, dif_pos hvalid]
    rfl
  rw [utf8EncodeChar_eq, hcode, hbytes]

/-! ## The bytes of a text -/

/-- The bytes of a character and more after them tell the character and the rest apart. -/
theorem encodeChar_append_inj {c d : Char} {x y : List UInt8}
    (h : String.utf8EncodeChar c ++ x = String.utf8EncodeChar d ++ y) : c = d ∧ x = y := by
  obtain ⟨first, more, hc, hspells⟩ := spells_encodeChar c
  obtain ⟨first', more', hd, hspells'⟩ := spells_encodeChar d
  have hcd : c = d := by
    rw [hc, hd] at h
    obtain ⟨rfl, hrest⟩ := List.cons.inj h
    have hhead := hspells.head x
    rw [show more ++ x = more' ++ y from hrest, hspells'.head y] at hhead
    exact (Char.toNat_inj.mp (Head.scalar.inj hhead).1).symm
  subst hcd
  exact ⟨rfl, List.append_cancel_left h⟩

/-- A text is encoded character by character. -/
theorem encode_cons (c : Char) (cs : List Char) :
    encode (c :: cs) = String.utf8EncodeChar c ++ encode cs := rfl

/-- A text that begins with the bytes of a character begins with the character. -/
theorem encodeChar_append_eq_encode_iff {c : Char} {bytes : List UInt8} {cs : List Char} :
    String.utf8EncodeChar c ++ bytes = encode cs ↔
      ∃ rest, cs = c :: rest ∧ bytes = encode rest := by
  constructor
  · intro h
    cases cs with
    | nil =>
      obtain ⟨first, more, hc, -⟩ := spells_encodeChar c
      rw [hc] at h
      cases h
    | cons d rest =>
      obtain ⟨rfl, hbytes⟩ := encodeChar_append_inj h
      exact ⟨rest, rfl, hbytes⟩
  · rintro ⟨rest, rfl, rfl⟩
    rfl

/-- A text that begins with the bytes of another one begins with this one. -/
theorem encode_append_eq_encode_iff {cs others : List Char} {bytes : List UInt8} :
    encode cs ++ bytes = encode others ↔ ∃ rest, others = cs ++ rest ∧ bytes = encode rest := by
  induction cs generalizing others with
  | nil => simp [encode]
  | cons c cs ih =>
    rw [encode_cons, List.append_assoc, encodeChar_append_eq_encode_iff]
    constructor
    · rintro ⟨rest, rfl, h⟩
      obtain ⟨rest', rfl, hbytes⟩ := ih.mp h
      exact ⟨rest', rfl, hbytes⟩
    · rintro ⟨rest, rfl, hbytes⟩
      exact ⟨cs ++ rest, rfl, ih.mpr ⟨rest, rfl, hbytes⟩⟩

/-- Bytes that are cut off inside a character are not those of a text. -/
theorem encode_append_cut_ne {c : Char} {cut tail : List UInt8}
    (hcut : String.utf8EncodeChar c = cut ++ tail) (hsome : cut ≠ []) (htail : tail ≠ [])
    (cs others : List Char) : encode cs ++ cut ≠ encode others := by
  intro h
  obtain ⟨rest, -, hrest⟩ := encode_append_eq_encode_iff.mp h
  cases rest with
  | nil => exact hsome hrest
  | cons d ds =>
    have hsame : String.utf8EncodeChar c ++ [] =
        String.utf8EncodeChar d ++ (encode ds ++ tail) := by
      rw [List.append_nil, hcut, hrest, encode_cons, List.append_assoc]
    have hnil := (encodeChar_append_inj hsame).2
    exact htail (List.append_eq_nil_iff.mp hnil.symm).2

/-! ## Decoding -/

/-- Bytes that are skipped have no pieces. -/
theorem piecesFrom_skip (surrogates : Bool) (position : Nat) (more tail : List UInt8) :
    piecesFrom surrogates more.length position (more ++ tail) =
      piecesFrom surrogates 0 (position + more.length) tail := by
  induction more generalizing position with
  | nil => rfl
  | cons b more ih =>
    rw [List.cons_append, List.length_cons, piecesFrom, ih, Nat.add_right_comm, Nat.add_assoc]

/-- The pieces of some bytes are characters exactly if the bytes are the encoding of these. The
induction is on the number of the bytes. -/
theorem characters_piecesFrom_iff (position : Nat) (bytes : List UInt8) (cs : List Char) :
    characters (piecesFrom false 0 position bytes) = .ok cs ↔ bytes = encode cs := by
  induction hlength : bytes.length using Nat.strongRecOn generalizing position bytes cs with
  | ind length ih =>
    cases bytes with
    | nil =>
      cases cs with
      | nil => exact iff_of_true rfl rfl
      | cons c cs =>
        obtain ⟨first, more, hc, -⟩ := spells_encodeChar c
        rw [encode_cons, hc]
        exact iff_of_false (by rintro ⟨⟩) (by rintro ⟨⟩)
    | cons first rest =>
      rw [piecesFrom, Bool.false_and, if_neg Bool.false_ne_true]
      cases hhead : head first rest with
      | scalar code n =>
        obtain ⟨more, tail, rfl, rfl, hspells⟩ := spells_of_head hhead
        have htail : tail.length < length := by
          rw [← hlength, List.length_cons, List.length_append]
          omega
        have hsplit :
            first :: (more ++ tail) = String.utf8EncodeChar (Char.ofNat code) ++ tail := by
          rw [hspells.encodeChar, List.cons_append]
        simp only [characters, piecesFrom_skip, map_eq_ok_iff]
        rw [hsplit, encodeChar_append_eq_encode_iff]
        refine exists_congr fun others ↦ ?_
        rw [ih _ htail _ tail others rfl, eq_comm (a := cs), and_comm]
      | broken n reason =>
        refine iff_of_false (by rintro ⟨⟩) fun h ↦ ?_
        cases cs with
        | nil => cases h
        | cons c cs =>
          obtain ⟨first', more, hc, hspells⟩ := spells_encodeChar c
          rw [encode_cons, hc] at h
          obtain ⟨rfl, hrest⟩ := List.cons.inj h
          rw [show rest = more ++ encode cs from hrest, hspells.head] at hhead
          cases hhead

/-- Bytes are decoded to a text exactly if they are its encoding. -/
theorem decode_eq_ok_iff {bytes : List UInt8} {cs : List Char} :
    decode bytes = .ok cs ↔ bytes = encode cs := characters_piecesFrom_iff 0 bytes cs

end TenantBroker.Text.Utf8
