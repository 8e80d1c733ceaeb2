import Stockroom.Catalog.Loading

/-! # What loading can come to

The octets of a file load as a catalog, or one stage of loading refuses them, and the fault tells
which stage it was. The fault of a missing file is none of these, and it is the only one that is no
failure of a value. So whatever the octets of a file are, what they raise is a failure of a value,
unless a text among them has half of a pair in it.
-/
namespace Stockroom

/-- The octets hold, as text with unified line ends, the document of an object. -/
def HoldObject (octets : List UInt8) (members : Members) : Prop :=
  ∃ t, Utf8.decode octets = .ok t ∧ Document.ofText (unifyLineEnds t) = .ok (.object members)

/-- The stage at which loading stops, and the fault that it leaves. -/
inductive Unloadable (path : Text) (octets : List UInt8) : LoadFault → Prop
  | undecodable {fault : Utf8.Fault} (h : Utf8.decode octets = .error fault) :
    Unloadable path octets (.undecodable fault)
  | malformed {t : Text} {problem : Document.Problem} {place : Nat}
    (ht : Utf8.decode octets = .ok t)
    (h : Document.ofText (unifyLineEnds t) = .error (.malformed problem place)) :
    Unloadable path octets
      (.malformed path problem (Document.placeText (unifyLineEnds t) place))
  | tooManyDigits {t : Text} {count : Nat} (ht : Utf8.decode octets = .ok t)
    (h : Document.ofText (unifyLineEnds t) = .error (.tooManyDigits count)) :
    Unloadable path octets (.tooManyDigits count)
  | loneHalf {t : Text} (ht : Utf8.decode octets = .ok t)
    (h : Document.ofText (unifyLineEnds t) = .error .loneHalf) : Unloadable path octets .loneHalf
  | notObject {t : Text} {document : Document} (ht : Utf8.decode octets = .ok t)
    (h : Document.ofText (unifyLineEnds t) = .ok document)
    (hd : ∀ members, document ≠ .object members) : Unloadable path octets (.notObject path)
  | flawed {members : Members} {flaws : List Flaw} (h : HoldObject octets members)
    (hf : Catalog.ofMembers members = .flawed flaws) : Unloadable path octets (.flawed flaws)

theorem Unloadable.ne_noFile {path : Text} {octets : List UInt8} {fault : LoadFault}
    (h : Unloadable path octets fault) (missing : Text) : fault ≠ .noFile missing := by
  cases h <;> exact LoadFault.noConfusion

theorem LoadFault.isA_value_iff {fault : LoadFault} {kind : FailureKind}
    (h : fault.kind? = some kind) :
    kind.isA .value = true ↔ ∀ missing, fault ≠ .noFile missing := by
  cases fault with
  | noFile path =>
    cases h
    exact ⟨fun hk => absurd hk (by decide), fun hne => absurd rfl (hne path)⟩
  | loneHalf => cases h
  | undecodable | malformed | tooManyDigits | notObject | flawed =>
    cases h
    exact ⟨fun _ _ => LoadFault.noConfusion, fun _ => by decide⟩

namespace Catalog

variable {path : Text} {octets : List UInt8}

/-- Every way in which a file loads. -/
theorem load_cases (path : Text) (octets : List UInt8) :
    (∃ fault, load path (some octets) = .error fault ∧ Unloadable path octets fault) ∨
      ∃ catalog members, load path (some octets) = .ok catalog ∧ HoldObject octets members ∧
        ofMembers members = .valid catalog := by
  rw [load, ofOctets]
  cases ht : Utf8.decode octets with
  | error fault => exact .inl ⟨_, rfl, .undecodable ht⟩
  | ok t =>
    simp only [ofText]
    split
    · next h => exact .inl ⟨_, rfl, .malformed ht h⟩
    · next h => exact .inl ⟨_, rfl, .tooManyDigits ht h⟩
    · next h => exact .inl ⟨_, rfl, .loneHalf ht h⟩
    · next members h =>
      cases hm : ofMembers members with
      | valid catalog => exact .inr ⟨_, members, rfl, ⟨t, ht, h⟩, hm⟩
      | flawed flaws => exact .inl ⟨_, rfl, .flawed ⟨t, ht, h⟩ hm⟩
    · next hd h => exact .inl ⟨_, rfl, .notObject ht h fun members he => hd members (he ▸ rfl)⟩

/-- A file fails to load exactly at one of the stages, with the fault of that stage. -/
theorem load_eq_error_iff {fault : LoadFault} :
    load path (some octets) = .error fault ↔ Unloadable path octets fault := by
  constructor
  · intro h
    rcases load_cases path octets with ⟨fault', he, hu⟩ | ⟨catalog, members, he, -⟩
    · rw [h] at he
      cases he
      exact hu
    · rw [h] at he
      cases he
  · intro h
    cases h with
    | undecodable h => simp [load, ofOctets, h]
    | malformed ht h => simp [load, ofOctets, ofText, ht, h]
    | tooManyDigits ht h => simp [load, ofOctets, ofText, ht, h]
    | loneHalf ht h => simp [load, ofOctets, ofText, ht, h]
    | notObject ht h hd => simp [load, ofOctets, ofText, ht, h]
    | flawed h hf =>
      obtain ⟨t, ht, h⟩ := h
      simp [load, ofOctets, ofText, ht, h, hf]

theorem load_eq_ok_iff {catalog : Catalog} :
    load path (some octets) = .ok catalog ↔
      ∃ members, HoldObject octets members ∧ ofMembers members = .valid catalog := by
  constructor
  · intro h
    rcases load_cases path octets with ⟨fault, he, -⟩ | ⟨catalog', members, he, ho, hm⟩
    · rw [h] at he
      cases he
    · rw [h] at he
      cases he
      exact ⟨members, ho, hm⟩
  · rintro ⟨members, ⟨t, ht, h⟩, hm⟩
    simp [load, ofOctets, ofText, ht, h, hm]

/-- Whatever a file holds, a fault that it is refused with is raised as a failure of a value. -/
theorem isA_value_of_load_eq_error {fault : LoadFault}
    (h : load path (some octets) = .error fault) (hhalf : fault ≠ .loneHalf) :
    ∃ kind, fault.kind? = some kind ∧ kind.isA .value = true := by
  have hkind : fault.kind? ≠ none := by
    cases fault with
    | loneHalf => exact absurd rfl hhalf
    | noFile | undecodable | malformed | tooManyDigits | notObject | flawed =>
      exact Option.some_ne_none _
  obtain ⟨kind, hk⟩ := Option.ne_none_iff_exists'.mp hkind
  exact ⟨kind, hk, (LoadFault.isA_value_iff hk).mpr (load_eq_error_iff.mp h).ne_noFile⟩

end Catalog

end Stockroom
