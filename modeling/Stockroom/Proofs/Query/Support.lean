import Stockroom.Proofs.Query.SearchedField

/-! # What a verdict depends on

The support of a node is the list of fields that its evaluation may look at: the searched fields for a
term, the restricted field for a restriction. Two records of whatever kinds that agree on the support
get the same verdict. What no query can name, such as identifiers, dates and flags, therefore
decides nothing, and the movement counts only where a restriction names it.
-/
namespace Stockroom

namespace Node

mutual

/-- The fields that the verdict of a node may depend on. A restriction of an unknown key depends on
none. -/
def support : Node → List Field
  | term _ => TextField.searched.map .text
  | tag t => t.field.toList
  | not inner => inner.support
  | anyOf branches => supportAll branches

def supportAll : List Node → List Field
  | [] => []
  | branch :: rest => branch.support ++ supportAll rest

end

inductive Restricts (f : Field) : Node → Prop
  | tag {t : Tag} (h : t.field = some f) : Restricts f (.tag t)
  | not {inner : Node} (h : Restricts f inner) : Restricts f (.not inner)
  | anyOf {branches : List Node} {branch : Node} (hb : branch ∈ branches)
      (h : Restricts f branch) : Restricts f (.anyOf branches)

end Node

def Record.AgreesOn (r r' : Record) : Field → Prop
  | .text f => r.text f = r'.text f
  | .number f => r.number f = r'.number f

instance (r r' : Record) (f : Field) : Decidable (r.AgreesOn r' f) :=
  match f with
  | .text f => inferInstanceAs (Decidable (r.text f = r'.text f))
  | .number f => inferInstanceAs (Decidable (r.number f = r'.number f))

variable {r r' : Record}

theorem Pattern.inSomeField_congr (p : Pattern)
    (h : ∀ f ∈ TextField.searched, r.text f = r'.text f) : p.inSomeField r = p.inSomeField r' := by
  rw [inSomeField, inSomeField, Bool.eq_iff_iff, List.any_eq_true, List.any_eq_true]
  apply exists_congr
  intro f
  constructor
  · rintro ⟨hf, hp⟩
    exact ⟨hf, h f hf ▸ hp⟩
  · rintro ⟨hf, hp⟩
    exact ⟨hf, (h f hf).symm ▸ hp⟩

theorem Tag.holds_congr (t : Tag) (h : ∀ f ∈ t.field.toList, r.AgreesOn r' f) :
    t.holds r = t.holds r' := by
  obtain ⟨key, field, operator, value⟩ := t
  cases field with
  | none => rfl
  | some f =>
    have hf : r.AgreesOn r' f := h f List.mem_cons_self
    cases f with
    | text f =>
      have he : r.text f = r'.text f := hf
      simp only [Tag.holds, he]
    | number f =>
      have he : r.number f = r'.number f := hf
      simp only [Tag.holds, he]

namespace Node

mutual

/-- Evaluation looks at the support only. -/
theorem holds_congr : ∀ n : Node, (∀ f ∈ n.support, r.AgreesOn r' f) → n.holds r = n.holds r'
  | term p, h => p.inSomeField_congr fun f hf => h (.text f) (List.mem_map_of_mem hf)
  | tag t, h => t.holds_congr h
  | not inner, h => by
    rw [support] at h
    rw [holds, holds, holds_congr inner h]
  | anyOf branches, h => by
    rw [support] at h
    rw [holds, holds, anyHolds_congr branches h]

theorem anyHolds_congr : ∀ branches : List Node, (∀ f ∈ supportAll branches, r.AgreesOn r' f) →
    anyHolds r branches = anyHolds r' branches
  | [], _ => rfl
  | branch :: rest, h => by
    rw [supportAll, List.forall_mem_append] at h
    rw [anyHolds, anyHolds, holds_congr branch h.1, anyHolds_congr rest h.2]

end

mutual

/-- A field of the support is searched by every term, or some restriction names it. -/
theorem restricts_of_mem_support {f : Field} (hf : f ∉ TextField.searched.map .text) :
    ∀ n : Node, f ∈ n.support → n.Restricts f
  | term _, h => absurd h hf
  | tag _, h => .tag (Option.mem_toList.mp h)
  | not inner, h => .not (restricts_of_mem_support hf inner (by rwa [support] at h))
  | anyOf branches, h => by
    rw [support] at h
    obtain ⟨branch, hb, hr⟩ := exists_restricts_of_mem_supportAll hf branches h
    exact .anyOf hb hr

theorem exists_restricts_of_mem_supportAll {f : Field} (hf : f ∉ TextField.searched.map .text) :
    ∀ branches : List Node, f ∈ supportAll branches → ∃ branch ∈ branches, branch.Restricts f
  | [], h => absurd h List.not_mem_nil
  | branch :: rest, h => by
    rw [supportAll, List.mem_append] at h
    rcases h with h | h
    · exact ⟨branch, List.mem_cons_self, restricts_of_mem_support hf branch h⟩
    · obtain ⟨b, hb, hr⟩ := exists_restricts_of_mem_supportAll hf rest h
      exact ⟨b, List.mem_cons_of_mem branch hb, hr⟩

end

end Node

theorem Record.matchesText_congr {query : Text}
    (h : ∀ n ∈ (Query.ofText query).clauses, ∀ f ∈ n.support, r.AgreesOn r' f) :
    r.matchesText query = r'.matchesText query := by
  rw [matchesText, matchesText, Query.holds, Query.holds, Bool.eq_iff_iff, List.all_eq_true,
    List.all_eq_true]
  apply forall₂_congr
  intro n hn
  rw [n.holds_congr (h n hn)]

/-- Records that agree on every field are the same to every query. -/
theorem Record.matchesText_eq (ht : ∀ f, r.text f = r'.text f) (hn : ∀ f, r.number f = r'.number f)
    (query : Text) : r.matchesText query = r'.matchesText query := by
  apply matchesText_congr
  intro _ _ f _
  cases f with
  | text f => exact ht f
  | number f => exact hn f

/-- Entries that differ in the movement alone agree on every other field. -/
theorem Entry.agreesOn_of_ne_movement (entry : Entry) (movement : Movement) {f : Field}
    (h : f ≠ .text .movement) :
    (Record.entry { entry with movement }).AgreesOn (.entry entry) f := by
  rcases f with f | f
  · cases f with
    | movement => exact absurd rfl h
    | _ => rfl
  · cases f <;> rfl

def Record.text? : Record → TextField → Option Text
  | .item i, .name => i.name
  | .item i, .brand => some i.brand
  | .item i, .model => some i.model
  | .item i, .type => i.type
  | .item i, .barcode => some i.barcode
  | .item i, .location => i.location
  | .item i, .notes => i.notes
  | .item i, .voltage => i.voltage
  | .item i, .chemistry => i.chemistry
  | .item i, .source => i.source
  | .item _, .batteryName | .item _, .reason | .item _, .movement => none
  | .entry e, .batteryName => some e.batteryName
  | .entry e, .location => some e.location
  | .entry e, .reason => some e.reason
  | .entry e, .source => some e.source
  | .entry e, .movement => some e.movement.label
  | .entry _, _ => none

def Record.number? : Record → NumericField → Option Int
  | .item i, f => some (i.number f)
  | .entry e, .quantity => some e.quantity
  | .entry _, _ => none

theorem Record.text_eq_getD (r : Record) (f : TextField) : r.text f = (r.text? f).getD [] := by
  cases r <;> cases f <;> rfl

theorem Record.number_eq_getD (r : Record) (f : NumericField) :
    r.number f = (r.number? f).getD 0 := by
  cases r <;> cases f <;> rfl

def Item.filled (item : Item) : Item :=
  { item with
    name := some (item.name.getD [])
    type := some (item.type.getD [])
    location := some (item.location.getD [])
    voltage := some (item.voltage.getD [])
    chemistry := some (item.chemistry.getD [])
    source := some (item.source.getD [])
    notes := some (item.notes.getD []) }

/-- Records of any kinds that agree on the support of every clause of a query get the same verdict.
So identifiers, timestamps, flags and thresholds decide nothing, the movement decides only where a
restriction names it, and a value that is not there counts as empty or as zero. -/
theorem verdict_depends_on_support :
    (∀ (query : Text) (r r' : Record),
      (∀ n ∈ (Query.ofText query).clauses, ∀ f ∈ n.support, r.AgreesOn r' f) →
      r.matchesText query = r'.matchesText query) ∧
    (∀ (query : Text) (item : Item) (id : Text) (discontinued : Bool) (minStockThreshold : Int),
      (Record.item { item with id, discontinued, minStockThreshold }).matchesText query =
        (Record.item item).matchesText query) ∧
    (∀ (query : Text) (entry : Entry) (id batteryId : Text) (timestamp : Option Timestamp),
      (Record.entry { entry with id, batteryId, timestamp }).matchesText query =
        (Record.entry entry).matchesText query) ∧
    (∀ (query : Text) (entry : Entry) (movement : Movement),
      (∀ n ∈ (Query.ofText query).clauses, ¬n.Restricts (.text .movement)) →
      (Record.entry { entry with movement }).matchesText query =
        (Record.entry entry).matchesText query) ∧
    (∀ (query : Text) (item : Item),
      (Record.item item.filled).matchesText query = (Record.item item).matchesText query) ∧
    ∀ r : Record, (∀ f, r.text f = (r.text? f).getD []) ∧
      ∀ f, r.number f = (r.number? f).getD 0 := by
  refine ⟨?support, ?item, ?entry, ?movement, ?filled, ?missing⟩
  case support =>
    intro query r r' h
    exact Record.matchesText_congr h
  case item =>
    intro query item id discontinued minStockThreshold
    apply Record.matchesText_eq
    · intro f
      cases f <;> rfl
    · intro f
      cases f <;> rfl
  case entry =>
    intro query entry id batteryId timestamp
    apply Record.matchesText_eq
    · intro f
      cases f <;> rfl
    · intro f
      cases f <;> rfl
  case movement =>
    intro query entry movement h
    apply Record.matchesText_congr
    intro n hn f hf
    apply entry.agreesOn_of_ne_movement movement
    rintro rfl
    exact h n hn (Node.restricts_of_mem_support (by decide) n hf)
  case filled =>
    intro query item
    apply Record.matchesText_eq
    · intro f
      cases f <;> rfl
    · intro f
      cases f <;> rfl
  case missing =>
    intro r
    exact ⟨r.text_eq_getD, r.number_eq_getD⟩

def Item.spare : Item :=
  ⟨"7".toList, some "Pilha".toList, "Duracell".toList, "MN21".toList, none, 5, 0, 0, 4, [], true,
    some "Gaveta 2".toList, none, none, none, none, 1⟩

def Entry.stored : Entry :=
  ⟨"8".toList, "7".toList, "Rayovac".toList, .outward, "GAVETA 2".toList, 5, "compra".toList, [],
    none⟩

/-- An item and an entry that agree on the amount and on no text, under a query of the amount and of
an unknown key; and a movement that a term does not see. -/
theorem verdict_of_amount_only :
    (∀ n ∈ (Query.ofText "(qty:>=7~-qtd:<3) -id:8".toList).clauses, ∀ f ∈ n.support,
      (Record.item .spare).AgreesOn (.entry .stored) f) ∧
    (Record.item .spare).matchesText "(qty:>=7~-qtd:<3) -id:8".toList =
      (Record.entry .stored).matchesText "(qty:>=7~-qtd:<3) -id:8".toList ∧
    (∀ n ∈ (Query.ofText "in".toList).clauses, ¬n.Restricts (.text .movement)) ∧
    (Record.entry { Entry.stored with movement := .inward }).matchesText "in".toList =
      (Record.entry .stored).matchesText "in".toList := by
  have hs : ∀ n ∈ (Query.ofText "(qty:>=7~-qtd:<3) -id:8".toList).clauses, ∀ f ∈ n.support,
      (Record.item .spare).AgreesOn (.entry .stored) f := by decide +kernel
  have hm : ∀ n ∈ (Query.ofText "in".toList).clauses, ¬n.Restricts (.text .movement) := by
    have hv : Text.IsTermValue "in".toList := {
      trim := by decide
      head := by
        rintro c ⟨⟩
        decide
      colon := fun h => absurd h (by decide) }
    have hc : clauseTexts "in".toList = ["in".toList] := by decide
    rw [Query.ofText, hc, List.map_singleton, Node.ofText_termValue hv, List.forall_mem_singleton]
    intro h
    cases h
  exact ⟨hs, verdict_depends_on_support.1 _ _ _ hs, hm,
    verdict_depends_on_support.2.2.2.1 _ _ _ hm⟩

end Stockroom
