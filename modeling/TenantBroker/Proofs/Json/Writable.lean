import TenantBroker.Json.Writable
import TenantBroker.Proofs.Json.Reading
import TenantBroker.Proofs.Number.Decimal

/-!
# What was read has a text

No document spells a whole number that is too long to be written, so every value that comes out of
a document can be written and shown again.
-/

namespace TenantBroker

namespace Json

variable {cs : List Char} {name text : String} {value : Json}

/-- A number that is spelled has a text. -/
theorem SpellsNumber.isWritable {number : Number} (h : SpellsNumber cs number) :
    (Json.num number).isWritable = true := by
  cases h with
  | int hwhole hshort =>
    rename_i negative whole
    have hlt := Number.ofDigits_lt hwhole.1.2
    exact isWritable_int (by cases negative <;> simpa [signed] using hlt) hshort
  | real => rfl

/-- A record that has a text has one after a field is set to a value that has one. -/
theorem isWritable_setField {fields : List (String × Json)}
    (h : (Json.obj fields).isWritable = true) (hvalue : value.isWritable = true) :
    (Json.obj (setField fields name value)).isWritable = true := by
  rw [isWritable_obj] at h ⊢
  induction fields with
  | nil => simpa [setField] using hvalue
  | cons field rest ih =>
    obtain ⟨hfield, hrest⟩ := List.forall_mem_cons.mp h
    unfold setField
    split
    · exact List.forall_mem_cons.mpr ⟨hvalue, hrest⟩
    · exact List.forall_mem_cons.mpr ⟨hfield, ih hrest⟩

/-- The record of members that have a text has one. -/
theorem isWritable_gathered {members : List (String × Json)}
    (h : ∀ member ∈ members, member.2.isWritable = true) :
    (Json.obj (gathered members)).isWritable = true := by
  induction members using List.reverseRecOn with
  | nil => rfl
  | append_singleton members member ih =>
    rw [gathered, setFields, List.foldl_append]
    exact isWritable_setField (ih fun other hother ↦ h other (List.mem_append_left _ hother))
      (h member (by simp))

mutual

/-- A value that is spelled has a text. -/
theorem Spells.isWritable : ∀ {cs : List Char} {value : Json},
    Spells cs value → value.isWritable = true
  | _, _, .word h => by
    simp only [words, List.mem_cons, Prod.mk.injEq, List.not_mem_nil, or_false] at h
    rcases h with ⟨-, rfl⟩ | ⟨-, rfl⟩ | ⟨-, rfl⟩ | ⟨-, rfl⟩ | ⟨-, rfl⟩ | ⟨-, rfl⟩ <;> rfl
  | _, _, .number h => h.isWritable
  | _, _, .string _ => rfl
  | _, _, .noItems _ => rfl
  | _, _, .items _ _ h => isWritable_arr.mpr (SpellsItems.isWritable h)
  | _, _, .record h => isWritable_gathered (SpellsRecord.isWritable h)

/-- The items of a list that is spelled have a text. -/
theorem SpellsItems.isWritable : ∀ {cs : List Char} {items : List Json},
    SpellsItems cs items → ∀ item ∈ items, item.isWritable = true
  | _, _, .one h => List.forall_mem_singleton.mpr (Spells.isWritable h)
  | _, _, .cons h _ _ rest =>
    List.forall_mem_cons.mpr ⟨Spells.isWritable h, SpellsItems.isWritable rest⟩

/-- The members of a record that is spelled have a text. -/
theorem SpellsRecord.isWritable : ∀ {cs : List Char} {members : List (String × Json)},
    SpellsRecord cs members → ∀ member ∈ members, member.2.isWritable = true
  | _, _, .none _ => List.forall_mem_nil _
  | _, _, .some _ _ h => SpellsMembers.isWritable h

/-- Members that are spelled have a text. -/
theorem SpellsMembers.isWritable : ∀ {cs : List Char} {members : List (String × Json)},
    SpellsMembers cs members → ∀ member ∈ members, member.2.isWritable = true
  | _, _, .one h => List.forall_mem_singleton.mpr (SpellsMember.isWritable h)
  | _, _, .cons h _ _ rest =>
    List.forall_mem_cons.mpr ⟨SpellsMember.isWritable h, SpellsMembers.isWritable rest⟩

/-- A member that is spelled has a text. -/
theorem SpellsMember.isWritable : ∀ {cs : List Char} {member : String × Json},
    SpellsMember cs member → member.2.isWritable = true
  | _, _, .colon _ _ _ h => Spells.isWritable h

end

/-- A value that is read has a text. -/
theorem isWritable_of_read (h : read text = .ok value) : value.isWritable = true := by
  unfold read at h
  split at h
  · cases h
  · have hread : readDocument text.toList = .ok value := by
      unfold readChecked at h
      split at h
      · next hread => rw [hread, Except.ok.inj h]
      · cases h
      · cases h
    obtain ⟨before, inner, after, -, -, hspells, -⟩ := readDocument_eq_ok_iff.mp hread
    exact hspells.isWritable

end Json

end TenantBroker
