import StoryWorld.Json.Fields
import StoryWorld.Proofs.Attempts
import StoryWorld.Proofs.Related
import StoryWorld.Proofs.Table

/-!
# Reading values and records

A list, a table or a finite double is read back from its written form (`list_map`, `table_ofTable`,
`double_ofFloat`), and a double that has been read is finite.

Whether a record can be read from the members of an object is said field by field
(`Fields.Reads`): a field that is there is read by its reader, one that is missing has its default,
and records are put together as their descriptions are. This needs that no key stands twice.

The other way round, whatever a description builds, from an object or from an array, comes from what
is found under its keys (`build_seq_iff`, `build_of_withDefault`, `exists_build`).
-/

set_option autoImplicit false

namespace StoryWorld.Json

variable {α β : Type}

/-! ## Values -/

namespace Reader

theorem list_map {reader : Reader α} {write : α → Json} {values : List α}
    (back : ∀ value ∈ values, reader (write value) = .ok value) :
    list reader (.array (values.map write)) = .ok values := by
  refine mapM_eq_ok_iff.2 ?_
  rw [List.forall₂_map_left_iff, List.forall₂_same]
  exact back

/-- A table is read back when each of its values is. -/
theorem table_ofTable {reader : Reader α} {write : α → Json} {written : Table String α}
    (back : ∀ entry ∈ written.entries, reader (write entry.2) = .ok entry.2) :
    table reader (.ofTable write written) = .ok written := by
  refine bind_eq_ok_iff.2 ⟨written.entries, mapM_eq_ok_iff.2 ?_, ?_⟩
  · rw [List.forall₂_map_left_iff, List.forall₂_same]
    intro entry member
    exact bind_eq_ok_iff.2 ⟨entry.2, back entry member, rfl⟩
  · rw [Table.ofList_entries]
    rfl

theorem double_ofFloat {x : Float} (finite : x.isFinite = true) :
    double (.ofFloat x) = .ok x := by
  rw [ofFloat, dif_pos finite]
  rfl

/-- A double that has been read is finite. -/
theorem isFinite_of_double {json : Json} {x : Float} (read : double json = .ok x) :
    x.isFinite = true := by
  unfold double at read
  split at read
  · rename_i finite
    cases read
    exact finite
  · dsimp only at read
    split at read
    · rename_i finite
      cases read
      exact finite
    · cases read
  · cases read

theorem forall_of_list {reader : Reader α} {property : α → Prop}
    (valid : ∀ json value, reader json = .ok value → property value) {json : Json}
    {values : List α} (read : list reader json = .ok values) :
    ∀ value ∈ values, property value := by
  unfold list at read
  split at read
  · intro value member
    obtain ⟨item, -, read⟩ := exists_left_of_forall₂ (mapM_eq_ok_iff.1 read) member
    exact valid item value read
  · cases read

theorem forall_of_table {reader : Reader α} {property : α → Prop}
    (valid : ∀ json value, reader json = .ok value → property value) {json : Json}
    {result : Table String α} (read : table reader json = .ok result) :
    ∀ entry ∈ result.entries, property entry.2 := by
  unfold table at read
  split at read
  · obtain ⟨pairs, pairsRead, same⟩ := bind_eq_ok_iff.1 read
    cases same
    rintro ⟨key, value⟩ member
    have bound := Table.mem_of_get?_ofList (Table.get?_eq_some_iff.2 member)
    obtain ⟨item, -, read⟩ := exists_left_of_forall₂ (mapM_eq_ok_iff.1 pairsRead) bound
    obtain ⟨other, valueRead, same⟩ := bind_eq_ok_iff.1 read
    cases same
    exact valid item.2 value valueRead
  · cases read

end Reader

/-! ## Members -/

theorem lookup_eq_of_mem {members : List (String × α)} (distinct : (members.map Prod.fst).Nodup)
    {key : String} {value : α} (member : (key, value) ∈ members) :
    members.lookup key = some value := by
  induction members with
  | nil => cases member
  | cons first rest ih =>
    rw [List.map_cons, List.nodup_cons] at distinct
    rw [List.lookup_cons]
    rcases List.mem_cons.1 member with rfl | later
    · simp
    · have differ : (key == first.1) = false := by
        rw [beq_eq_false_iff_ne]
        intro same
        exact distinct.1 (same ▸ List.mem_map_of_mem (f := Prod.fst) later)
      rw [differ]
      exact ih distinct.2 later

namespace Fields

/-! ## Records that can be read -/

/-- A record is read from members: none of them is at fault, and the record is built from them. -/
structure Reads (fields : Fields α) (members : List (String × Json)) (value : α) : Prop where
  accepted : ∀ member ∈ members, fields.check member.1 member.2 = .ok ()
  built : fields.build (fun key => members.lookup key) = .ok value

variable {members : List (String × Json)}

theorem Reads.readMembers_eq {fields : Fields α} {value : α} (reads : fields.Reads members value) :
    fields.readMembers members = .ok value :=
  bind_eq_ok_iff.2 ⟨(), forM_eq_ok_iff.2 reads.accepted, reads.built⟩

/-- A record of two descriptions is read where both are. -/
theorem Reads.seq {first : Fields (α → β)} {second : Fields α} {f : α → β} {value : α}
    (left : first.Reads members f) (right : second.Reads members value) :
    (first <*> second).Reads members (f value) where
  accepted := fun member inside =>
    bind_eq_ok_iff.2 ⟨(), left.accepted member inside, right.accepted member inside⟩
  built := bind_eq_ok_iff.2 ⟨f, left.built, bind_eq_ok_iff.2 ⟨value, right.built, rfl⟩⟩

theorem Reads.map {fields : Fields α} {value : α} (f : α → β) (reads : fields.Reads members value) :
    (f <$> fields).Reads members (f value) :=
  have constant : (Fields.pure f).Reads members f := ⟨fun _ _ => rfl, rfl⟩
  constant.seq reads

/-- A field that is there is read by its reader. -/
theorem reads_field (distinct : (members.map Prod.fst).Nodup) {key : String} {reader : Reader α}
    {missing : Except Fault α} {found : Json} {value : α}
    (here : members.lookup key = some found) (read : reader found = .ok value) :
    (field key reader missing).Reads members value where
  accepted := by
    rintro ⟨other, json⟩ inside
    simp only [field]
    split
    · rename_i same
      subst same
      rw [lookup_eq_of_mem distinct inside] at here
      cases here
      rw [read]
      rfl
    · rfl
  built := by
    simp only [field, here]
    exact read

theorem reads_of_mem (distinct : (members.map Prod.fst).Nodup) {key : String} {reader : Reader α}
    {missing : Except Fault α} (found : Json) {value : α} (here : (key, found) ∈ members)
    (read : reader found = .ok value) : (field key reader missing).Reads members value :=
  reads_field distinct (lookup_eq_of_mem distinct here) read

/-- A field that is missing has its default. -/
theorem reads_missing {key : String} {reader : Reader α} {missing : Except Fault α} {value : α}
    (absent : members.lookup key = none) (default : missing = .ok value) :
    (field key reader missing).Reads members value where
  accepted := by
    rintro ⟨other, json⟩ inside
    simp only [field]
    split
    · rename_i same
      subst same
      rw [List.lookup_eq_none_iff] at absent
      have differ := absent _ inside
      simp at differ
    · rfl
  built := by
    simp only [field, absent]
    exact default

/-- An object is read as a record just if the record is read from its members. -/
theorem readMembers_eq_ok_iff {fields : Fields α} {value : α} :
    fields.readMembers members = .ok value ↔ fields.Reads members value := by
  constructor
  · intro read
    obtain ⟨⟨⟩, accepted, built⟩ := bind_eq_ok_iff.1 read
    exact ⟨forM_eq_ok_iff.1 accepted, built⟩
  · exact Reads.readMembers_eq

/-- With no key twice, a field is read just if what is found under its key gives its value. -/
theorem reads_field_iff (distinct : (members.map Prod.fst).Nodup) {key : String}
    {reader : Reader α} {missing : Except Fault α} {value : α} :
    (field key reader missing).Reads members value ↔
      (field key reader missing).build (fun key => members.lookup key) = .ok value := by
  refine ⟨Reads.built, fun built => ?_⟩
  simp only [field] at built
  split at built
  · rename_i here
    exact reads_field distinct here built
  · rename_i absent
    exact reads_missing absent built

/-! ## What is built -/

theorem build_seq_iff {first : Fields (α → β)} {second : Fields α} {find : String → Option Json}
    {result : β} :
    (first <*> second).build find = .ok result ↔
      ∃ f, first.build find = .ok f ∧
        ∃ value, second.build find = .ok value ∧ f value = result := by
  change (first.build find >>= fun f => second.build find >>= fun value => pure (f value)) = _ ↔ _
  simp only [bind_eq_ok_iff, pure_eq_ok_iff]

theorem build_map_iff {fields : Fields α} {f : α → β} {find : String → Option Json} {result : β} :
    (f <$> fields).build find = .ok result ↔
      ∃ value, fields.build find = .ok value ∧ f value = result := by
  change (pure f >>= fun f => fields.build find >>= fun value => pure (f value)) = _ ↔ _
  simp only [bind_eq_ok_iff, pure_eq_ok_iff, exists_eq_left']

/-- A record of two descriptions is made of what each of them reads. -/
theorem exists_reads_seq {first : Fields (α → β)} {second : Fields α} {property : β → Prop} :
    (∃ result, (first <*> second).Reads members result ∧ property result) ↔
      ∃ f, first.Reads members f ∧ ∃ value, second.Reads members value ∧ property (f value) := by
  constructor
  · rintro ⟨result, ⟨accepted, built⟩, holds⟩
    obtain ⟨f, left, value, right, rfl⟩ := build_seq_iff.1 built
    have both : ∀ member ∈ members, first.check member.1 member.2 = .ok () ∧
        second.check member.1 member.2 = .ok () := by
      intro member inside
      obtain ⟨⟨⟩, here, there⟩ := bind_eq_ok_iff.1 (accepted member inside)
      exact ⟨here, there⟩
    exact ⟨f, ⟨fun member inside => (both member inside).1, left⟩, value,
      ⟨fun member inside => (both member inside).2, right⟩, holds⟩
  · rintro ⟨f, left, value, right, holds⟩
    exact ⟨f value, left.seq right, holds⟩

theorem exists_reads_map {fields : Fields α} {f : α → β} {property : β → Prop} :
    (∃ result, (f <$> fields).Reads members result ∧ property result) ↔
      ∃ value, fields.Reads members value ∧ property (f value) := by
  constructor
  · intro found
    obtain ⟨g, ⟨-, constant⟩, read⟩ := exists_reads_seq.1 found
    cases constant
    exact read
  · rintro ⟨value, read, holds⟩
    exact ⟨f value, read.map f, holds⟩

theorem build_of_withDefault {key : String} {default value : α} {reader : Reader α}
    {find : String → Option Json}
    (built : (withDefault key default reader).build find = .ok value) :
    value = default ∨ ∃ json, reader json = .ok value := by
  simp only [withDefault, field] at built
  split at built
  · exact Or.inr ⟨_, built⟩
  · exact Or.inl (Except.ok.inj built).symm

theorem build_of_required {key : String} {value : α} {reader : Reader α}
    {find : String → Option Json} (built : (required key reader).build find = .ok value) :
    ∃ json, reader json = .ok value := by
  simp only [required, field] at built
  split at built
  · exact ⟨_, built⟩
  · cases built

theorem exists_build_of_readMembers {fields : Fields α} {value : α}
    (read : fields.readMembers members = .ok value) :
    ∃ find, fields.build find = .ok value := by
  obtain ⟨-, -, built⟩ := bind_eq_ok_iff.1 read
  exact ⟨_, built⟩

theorem exists_build_of_readItems {fields : Fields α} {wanted fewer : String} {items : List Json}
    {value : α} (read : fields.readItems wanted fewer items = .ok value) :
    ∃ find, fields.build find = .ok value := by
  obtain ⟨-, -, read⟩ := bind_eq_ok_iff.1 read
  refine ⟨fun key => (fields.keys.zip items).lookup key, ?_⟩
  cases built : fields.build fun key => (fields.keys.zip items).lookup key with
  | error fault =>
    rw [built] at read
    cases fault <;> cases read
  | ok record =>
    rw [built] at read
    simp only at read
    split at read
    · cases read
    · exact read

/-- Whatever is read as a record is built by its description. -/
theorem exists_build {fields : Fields α} {wanted : String} {json : Json} {value : α}
    (read : fields.reader wanted json = .ok value) : ∃ find, fields.build find = .ok value := by
  unfold reader at read
  split at read
  · exact exists_build_of_readMembers read
  · exact exists_build_of_readItems read
  · cases read

end Fields

end StoryWorld.Json
