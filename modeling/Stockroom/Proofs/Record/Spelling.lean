import Stockroom.Record.Writing
import Stockroom.Proofs.Calendar.Written
import Mathlib.Data.List.Pairwise

/-! # Records under either spelling

A record may be written out with each of its fields under either spelling, beside members that mean
nothing to it and in any order. No spelling belongs to two fields, so each field finds its own value,
and every value is accepted as it was written. Reading therefore gives the record back.
-/
namespace Stockroom

section Members
variable {members : Members} {name : Text}

theorem mem_of_lastMember?_eq_some {value : Document} (h : lastMember? name members = some value) :
    (name, value) ∈ members := by
  obtain ⟨m, hm, rfl⟩ := Option.map_eq_some_iff.mp h
  have hname : m.1 = name := by simpa using List.find?_some hm
  rw [← hname]
  exact List.mem_reverse.mp (List.mem_of_find?_eq_some hm)

theorem lastMember?_eq_none_iff : lastMember? name members = none ↔ ∀ m ∈ members, m.1 ≠ name := by
  simp [lastMember?]

end Members

namespace FieldName

def spellings (f : FieldName) : List Text := [f.plain, f.preferred]

def Apart (f g : FieldName) : Prop := ∀ name ∈ f.spellings, name ∉ g.spellings

instance (f g : FieldName) : Decidable (f.Apart g) :=
  inferInstanceAs (Decidable (∀ name ∈ f.spellings, name ∉ g.spellings))

theorem Apart.symm {f g : FieldName} (h : f.Apart g) : g.Apart f :=
  fun name hg hf => h name hf hg

variable {f : FieldName} {members : Members} {name : Text} {value : Document}

/-- A field finds its value if a member gives it under some spelling and no member gives another. -/
theorem exists_find?_eq_some (hname : name ∈ f.spellings) (hmem : (name, value) ∈ members)
    (hone : ∀ m ∈ members, m.1 ∈ f.spellings → m.2 = value) :
    ∃ found, f.find? members = some (found, value) := by
  have hvalue {n : Text} (hn : n ∈ f.spellings) {v : Document} (hv : lastMember? n members = some v) :
      v = value := hone (n, v) (mem_of_lastMember?_eq_some hv) hn
  rw [find?]
  cases hp : lastMember? f.preferred members with
  | some v =>
    rw [hvalue (by simp [spellings]) hp]
    exact ⟨f.preferred, rfl⟩
  | none =>
    have hplain : name = f.plain := by
      rcases List.mem_cons.mp hname with h | h
      · exact h
      · exact absurd (List.mem_singleton.mp h) (lastMember?_eq_none_iff.mp hp _ hmem)
    cases hq : lastMember? f.plain members with
    | some v =>
      rw [hvalue (by simp [spellings]) hq]
      exact ⟨f.plain, rfl⟩
    | none => exact absurd hplain (lastMember?_eq_none_iff.mp hq _ hmem)

variable {α : Type} {accept : Document → Except Mismatch α} {x : α}

theorem required_of_find? (h : ∃ found, f.find? members = some (found, value))
    (ha : accept value = .ok x) : f.required accept members = .valid x := by
  obtain ⟨found, hf⟩ := h
  simp only [required, hf, ha]
  rfl

theorem optional_of_find? (h : ∃ found, f.find? members = some (found, value))
    (ha : accept value = .ok x) (default : α) : f.optional default accept members = .valid x := by
  obtain ⟨found, hf⟩ := h
  simp only [optional, hf, ha]
  rfl

end FieldName

/-- The fields as members, each under the spelling chosen for it. -/
def asMembers (spelling : FieldName → Text) (fields : List (FieldName × Document)) : Members :=
  fields.map fun field => (spelling field.1, field.2)

/-- The members hold every field once, with its value and under the spelling chosen for it, beside
other members that no field is named by, in any order. -/
structure WritesOut (fields : List (FieldName × Document)) (spelling : FieldName → Text)
    (others members : Members) : Prop where
  spelling_mem : ∀ field ∈ fields, spelling field.1 ∈ field.1.spellings
  others_foreign : ∀ m ∈ others, ∀ field ∈ fields, m.1 ∉ field.1.spellings
  perm : members.Perm (asMembers spelling fields ++ others)

/-- Where no spelling belongs to two fields, every field finds the value that was written out. -/
theorem WritesOut.exists_find?_eq_some {fields : List (FieldName × Document)}
    {spelling : FieldName → Text} {others members : Members}
    (h : WritesOut fields spelling others members)
    (hapart : (fields.map Prod.fst).Pairwise FieldName.Apart) :
    ∀ field ∈ fields, ∃ found, field.1.find? members = some (found, field.2) := by
  intro field hf
  apply FieldName.exists_find?_eq_some (h.spelling_mem field hf)
  · apply h.perm.symm.subset
    exact List.mem_append_left _ (List.mem_map_of_mem hf)
  · intro m hm hmf
    rcases List.mem_append.mp (h.perm.subset hm) with hm | hm
    · obtain ⟨other, hother, rfl⟩ := List.mem_map.mp hm
      by_contra hne
      have hdiff : field ≠ other := by
        rintro rfl
        exact hne rfl
      have : Std.Symm fun a b : FieldName × Document => a.1.Apart b.1 := ⟨fun _ _ => .symm⟩
      have hfo := (List.pairwise_map.mp hapart).forall hf hother hdiff
      exact hfo _ hmf (h.spelling_mem other hother)
    · exact absurd hmf (h.others_foreign m hm field hf)

namespace Accept

theorem text_text (value : Text) : text (.text value) = .ok value := rfl

theorem int_integer (value : Int) : int (.integer value) = .ok value := rfl

theorem bool_bool (value : Bool) : bool (.bool value) = .ok value := rfl

theorem orNull_text_ofOptionText (value : Option Text) :
    orNull text (.ofOptionText value) = .ok value := by
  cases value <;> rfl

theorem movement_label (m : Movement) : movement (.text m.label) = .ok m := by
  cases m <;> rfl

theorem orNull_timestamp_ofOptionTimestamp (value : Option Timestamp) :
    orNull timestamp (.ofOptionTimestamp value) = .ok value := by
  cases value with
  | none => rfl
  | some t =>
    rw [Document.ofOptionTimestamp, orNull, timestamp, t.ofText_toText]
    · rfl
    · nofun

end Accept

section Records
open FieldName Accept

variable {spelling : FieldName → Text} {others members : Members}

theorem Item.pairwise_apart (item : Item) : (item.fields.map Prod.fst).Pairwise Apart := by
  have h : [idName, nameName, brandName, modelName, typeName, quantityName, gondolaQuantityName,
      gondolaLimitName, packSizeName, barcodeName, discontinuedName, locationName, voltageName,
      chemistryName, sourceName, notesName, minStockThresholdName].Pairwise Apart := by
    decide
  exact h

theorem Item.ofDocument_of_writesOut {item : Item}
    (h : WritesOut item.fields spelling others members) :
    ofDocument (.object members) = .valid item := by
  have hall := h.exists_find?_eq_some item.pairwise_apart
  simp only [fields, List.forall_mem_cons] at hall
  obtain ⟨hid, hname, hbrand, hmodel, htype, hquantity, hgondolaQuantity, hgondolaLimit, hpackSize,
    hbarcode, hdiscontinued, hlocation, hvoltage, hchemistry, hsource, hnotes, hthreshold, _⟩ := hall
  have ht := text_text
  have hi := int_integer
  have ho := orNull_text_ofOptionText
  rw [ofDocument, ofMembers, optional_of_find? hid (ht _), optional_of_find? hname (ho _),
    required_of_find? hbrand (ht _), required_of_find? hmodel (ht _),
    optional_of_find? htype (ho _), optional_of_find? hquantity (hi _),
    optional_of_find? hgondolaQuantity (hi _), optional_of_find? hgondolaLimit (hi _),
    optional_of_find? hpackSize (hi _), optional_of_find? hbarcode (ht _),
    optional_of_find? hdiscontinued (bool_bool _), optional_of_find? hlocation (ho _),
    optional_of_find? hvoltage (ho _), optional_of_find? hchemistry (ho _),
    optional_of_find? hsource (ho _), optional_of_find? hnotes (ho _),
    optional_of_find? hthreshold (hi _)]
  rfl

theorem Entry.pairwise_apart (entry : Entry) : (entry.fields.map Prod.fst).Pairwise Apart := by
  have h : [idName, batteryIdName, batteryNameName, movementName, locationName, quantityName,
      reasonName, sourceName, timestampName].Pairwise Apart := by
    decide
  exact h

theorem Entry.ofDocument_of_writesOut {entry : Entry}
    (h : WritesOut entry.fields spelling others members) :
    ofDocument (.object members) = .valid entry := by
  have hall := h.exists_find?_eq_some entry.pairwise_apart
  simp only [fields, List.forall_mem_cons] at hall
  obtain ⟨hid, hbatteryId, hbatteryName, hmovement, hlocation, hquantity, hreason, hsource,
    htimestamp, _⟩ := hall
  have ht := text_text
  rw [ofDocument, ofMembers, optional_of_find? hid (ht _), optional_of_find? hbatteryId (ht _),
    optional_of_find? hbatteryName (ht _), required_of_find? hmovement (movement_label _),
    optional_of_find? hlocation (ht _), optional_of_find? hquantity (int_integer _),
    optional_of_find? hreason (ht _), optional_of_find? hsource (ht _),
    optional_of_find? htimestamp (orNull_timestamp_ofOptionTimestamp _)]
  rfl

end Records

/-- Every record is read back from its fields, each under either of its spellings, whatever other
members stand beside them and in whatever order. -/
theorem written_records_read_back :
    (∀ (item : Item) (spelling : FieldName → Text) (others members : Members),
      WritesOut item.fields spelling others members →
      Item.ofDocument (.object members) = .valid item) ∧
    ∀ (entry : Entry) (spelling : FieldName → Text) (others members : Members),
      WritesOut entry.fields spelling others members →
      Entry.ofDocument (.object members) = .valid entry :=
  ⟨fun _ _ _ _ h => Item.ofDocument_of_writesOut h,
    fun _ _ _ _ h => Entry.ofDocument_of_writesOut h⟩

def Item.disguised : Item :=
  ⟨"12".toList, some "null".toList, "in".toList, "true".toList, none, -5, 7, 0, 4, "0012".toList,
    true, some [], none, none, some "2026-01-10".toList, none, 3⟩

def Entry.early : Entry :=
  ⟨"1".toList, "12".toList, [], .outward, "type".toList, 0, [], "movement".toList,
    some ⟨⟨999, 5, 6, by decide, by decide, by decide⟩,
      ⟨7, 8, 9, 500, by decide, by decide, by decide, by decide⟩,
      some ⟨true, 3, 30, by decide, by decide, by decide⟩⟩⟩

def mixedSpelling (f : FieldName) : Text :=
  if f.plain ∈ ["gondola_quantity".toList, "battery_id".toList] then f.plain else f.preferred

def foreignMembers : Members :=
  [("Type".toList, .null), ("packsize".toList, .bool true), ("Type".toList, .text "in".toList)]

/-- Both spellings mixed, with foreign members in front, and with the fields from last to first. -/
theorem written_records_read_back_mixed :
    WritesOut Item.disguised.fields mixedSpelling foreignMembers
      (foreignMembers ++ asMembers mixedSpelling Item.disguised.fields) ∧
    Item.ofDocument (.object (foreignMembers ++ asMembers mixedSpelling Item.disguised.fields)) =
      .valid .disguised ∧
    WritesOut Entry.early.fields mixedSpelling foreignMembers
      (asMembers mixedSpelling Entry.early.fields ++ foreignMembers).reverse ∧
    Entry.ofDocument
      (.object (asMembers mixedSpelling Entry.early.fields ++ foreignMembers).reverse) =
      .valid .early := by
  have hitem : WritesOut Item.disguised.fields mixedSpelling foreignMembers
      (foreignMembers ++ asMembers mixedSpelling Item.disguised.fields) := {
    spelling_mem := by decide
    others_foreign := by decide
    perm := List.perm_append_comm }
  have hentry : WritesOut Entry.early.fields mixedSpelling foreignMembers
      (asMembers mixedSpelling Entry.early.fields ++ foreignMembers).reverse := {
    spelling_mem := by decide
    others_foreign := by decide
    perm := List.reverse_perm _ }
  exact ⟨hitem, written_records_read_back.1 _ _ _ _ hitem, hentry,
    written_records_read_back.2 _ _ _ _ hentry⟩

end Stockroom
