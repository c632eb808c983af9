import PanelClient.Record.Reader

/-!
# What a record was read from

A value that was read as a record holds its members, by name or by place
(`RecordReader.held?`), and the record was read from these (`RecordReader.read_of_decode`). So what
the record says can be told from the value: the rules here lead from a record back to each of its
members, one for each way to put readers together and one for each kind of member.
-/

namespace PanelClient

variable {α β : Type}

/-- The number, if the value is an integer. -/
def Json.integer? : Json → Option Int
  | integer n => some n
  | _ => none

namespace Record

namespace RecordReader

/-- What a value holds of a member: an object under its name, an array at its place. -/
def held? (reader : RecordReader α) : Json → String → Option Json
  | .object members => ofMembers members
  | .array items => ofItems reader.names items
  | _ => fun _ => none

theorem read_of_decode {reader : RecordReader α} {title : String} {value : Json} {record : α}
    (h : reader.decode title value = .ok record) :
    reader.read (reader.held? value) = .ok record := by
  cases value with
  | object members =>
    simp only [decode] at h
    split at h
    · next hread =>
      cases h
      exact hread
    · cases h
    · cases h
  | array items =>
    simp only [decode] at h
    split at h
    · next hread =>
      split at h
      · cases h
      · cases h
        exact hread
    · cases h
    · cases h
  | _ => cases h

/-! ## Back to the members -/

variable {held : String → Option Json}

theorem read_map_eq_ok {reader : RecordReader α} {f : α → β} {value : β} :
    (f <$> reader).read held = .ok value ↔ ∃ a, reader.read held = .ok a ∧ f a = value := by
  show (reader.read held).map f = .ok value ↔ _
  cases reader.read held <;> simp [Except.map]

theorem read_seq_eq_ok {makers : RecordReader (α → β)} {reader : RecordReader α} {value : β} :
    (makers <*> reader).read held = .ok value ↔
      ∃ f a, makers.read held = .ok f ∧ reader.read held = .ok a ∧ f a = value := by
  show (RecordReader.seq makers reader).read held = .ok value ↔ _
  simp only [RecordReader.seq]
  cases makers.read held <;> cases reader.read held <;> simp

/-- A member is what the record has without it, or what the value there is read as. -/
theorem held_of_read_member {name : String} {absent value : α} {kind : Kind α}
    (h : (member name absent kind).read held = .ok value) :
    held name = none ∧ value = absent ∨
      ∃ found, held name = some found ∧ kind found = .ok value := by
  simp only [member] at h
  cases hheld : held name with
  | none =>
    rw [hheld] at h
    cases h
    exact .inl ⟨rfl, rfl⟩
  | some found =>
    cases hkind : kind found with
    | error reason => simp [hheld, hkind] at h
    | ok a =>
      simp only [hheld, hkind, Except.ok.injEq] at h
      exact .inr ⟨found, rfl, by rw [hkind, h]⟩

/-- A value that is read is `part?` of what was found, and `null` has no such part. -/
structure IsPart (part? : Json → Option α) (kind : Kind α) : Prop where
  part {found : Json} {value : α} : kind found = .ok value → part? found = some value
  null : part? .null = none

theorem isPart_signed : IsPart Json.integer? signed where
  part {found value} h := by
    cases found with
    | integer n =>
      simp only [signed] at h
      split at h
      · cases h
        rfl
      · cases h
    | _ => cases h
  null := rfl

theorem isPart_words : IsPart Json.text? words where
  part {found value} h := by
    cases found with
    | text value =>
      cases h
      rfl
    | _ => cases h
  null := rfl

variable {part? : Json → Option α} {kind : Kind α} {name : String}

/-- A member that may be missing is there exactly if its part is. -/
theorem eq_of_read_optional (hpart : IsPart part? kind) {value : Option α}
    (h : (member name none (optional kind)).read held = .ok value) :
    value = (held name).bind part? := by
  rcases held_of_read_member h with ⟨hnone, rfl⟩ | ⟨found, hfound, hkind⟩
  · rw [hnone, Option.bind_none]
  · rw [hfound, Option.bind_some]
    by_cases hnull : found = .null
    · subst hnull
      cases hkind
      exact hpart.null.symm
    · have hread : (kind found).map some = .ok value := by
        cases found with
        | null => exact absurd rfl hnull
        | _ => exact hkind
      cases hvalue : kind found with
      | error reason =>
        rw [hvalue] at hread
        cases hread
      | ok a =>
        rw [hvalue] at hread
        cases hread
        exact (hpart.part hvalue).symm

/-- A member that has a default is its part, or the default without one. -/
theorem eq_of_read_withDefault (hpart : IsPart part? kind) {default value : α}
    (h : (member name default (withDefault default kind)).read held = .ok value) :
    value = ((held name).bind part?).getD default := by
  rcases held_of_read_member h with ⟨hnone, rfl⟩ | ⟨found, hfound, hkind⟩
  · rw [hnone, Option.bind_none, Option.getD_none]
  · rw [hfound, Option.bind_some]
    by_cases hnull : found = .null
    · subst hnull
      cases hkind
      rw [hpart.null, Option.getD_none]
    · have hread : kind found = .ok value := by
        cases found with
        | null => exact absurd rfl hnull
        | _ => exact hkind
      rw [hpart.part hread, Option.getD_some]

end RecordReader

end Record

end PanelClient
