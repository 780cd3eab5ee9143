import ChainRpc.Proofs.Entries
import ChainRpc.Proofs.Value.Plain
import ChainRpc.Proofs.Checked
import ChainRpc.Shape.Decode
import ChainRpc.Shape.Encode
import Mathlib.Data.List.Forall2

/-!
# Items of lists and fields of records

A list checks item by item. Where the names of fields are distinct, checking and writing the members of a
record is a matter of the single fields: what is found under the name of a field is checked against its
shape, and under the wire name of a field stands the wire form of its value, unless it has none.
-/

namespace ChainRpc.Shape

variable {mode : Mode} {f : FieldName × Shape} {fields : List (FieldName × Shape)}
  {entries members values : Entries Value} {name : FieldName} {v : Value}

/-! ### Options and items -/

lemma option_eq_ok {options : List Text} {t : Text} (h : option options v = .ok t) :
    v = .str t ∧ t.IsScalar ∧ t ∈ options := by
  unfold option at h
  split at h
  · split at h
    · cases h
    · next hscalar =>
      split at h
      · next hmem =>
        cases h
        exact ⟨rfl, not_not.mp hscalar, hmem⟩
      · cases h
  · cases h

/-- A list checks just where each item does. -/
lemma listItems_eq_ok_iff {decode : Value → Checked Value} {position : Nat} {items typed : List Value} :
    listItems decode position items = .ok typed ↔
      List.Forall₂ (fun x v => decode x = .ok v) items typed := by
  induction items generalizing position typed with
  | nil => simp [listItems, eq_comm]
  | cons x rest ih =>
    rw [listItems, Checked.map_both_eq_ok_iff, List.forall₂_cons_left_iff]
    simp only [Checked.under_eq_ok_iff, ih, eq_comm (b := typed), exists_and_left]

/-- An array checks just where each of its items does. -/
lemma listItems_ofJsonItems_eq_ok_iff {decode : Value → Checked Value} {position : Nat}
    {items : List Json} {typed : List Value} :
    listItems decode position (Value.ofJsonItems items) = .ok typed ↔
      List.Forall₂ (fun w v => decode (.ofJson w) = .ok v) items typed := by
  rw [listItems_eq_ok_iff, Value.ofJsonItems_eq_map, List.forall₂_map_left_iff]

lemma forall_of_listItems {decode : Value → Checked Value} {P Q : Value → Prop} {position : Nat}
    {items typed : List Value} (hdecode : ∀ x v, P x → decode x = .ok v → Q v)
    (hitems : ∀ x ∈ items, P x) (h : listItems decode position items = .ok typed) :
    ∀ v ∈ typed, Q v := by
  rw [listItems_eq_ok_iff] at h
  induction h with
  | nil => exact nofun
  | cons hv _ ih =>
    obtain ⟨hx, hrest⟩ := List.forall_mem_cons.mp hitems
    exact List.forall_mem_cons.mpr ⟨hdecode _ _ hx hv, ih hrest⟩

/-! ### Names -/

/-- The names of fields are told apart: in a record, on the wire, and between the two. -/
structure ClearNames (fields : List (FieldName × Shape)) : Prop where
  own : (fields.map (·.1.name)).Nodup
  wire : (fields.map (·.1.wire)).Nodup
  apart : ∀ f ∈ fields, ∀ g ∈ fields, f.1.name = g.1.wire → f.1 = g.1

instance (fields : List (FieldName × Shape)) : Decidable (ClearNames fields) :=
  decidable_of_iff ((fields.map (·.1.name)).Nodup ∧ (fields.map (·.1.wire)).Nodup ∧
      ∀ f ∈ fields, ∀ g ∈ fields, f.1.name = g.1.wire → f.1 = g.1)
    ⟨fun ⟨own, wire, apart⟩ => ⟨own, wire, apart⟩, fun h => ⟨h.own, h.wire, h.apart⟩⟩

/-! ### Checking -/

/-- What is given for a field checks as this value; an optional field may be left out. -/
def HasValue (mode : Mode) (entries : Entries Value) (f : FieldName × Shape) (v : Value) : Prop :=
  match entryOf f.1 entries with
  | some e => decode mode f.2 e.2 = .ok v
  | none   => f.2.isOptional ∧ v = .null

lemma decodeFields_cons_eq_ok_iff :
    decodeFields mode (f :: fields) entries = .ok members ↔
      ∃ v rest, HasValue mode entries f v ∧ decodeFields mode fields entries = .ok rest ∧
        (f.1.name, v) :: rest = members := by
  obtain ⟨name, shape⟩ := f
  rw [decodeFields, Checked.map_both_eq_ok_iff]
  refine exists_congr fun v => exists_congr fun rest => and_congr_left fun _ => ?_
  unfold HasValue
  cases entryOf name entries with
  | some e => exact Checked.under_eq_ok_iff
  | none =>
    dsimp only
    split
    · next h => simp [h, eq_comm]
    · next h => simp [h]

/-- A record checks just where it has a value for every field. -/
lemma decodeFields_eq_ok_iff (hn : (fields.map (·.1.name)).Nodup) :
    decodeFields mode fields entries = .ok members ↔
      Entries.names members = fields.map (·.1.name) ∧
        ∀ f ∈ fields, ∀ v, Entries.get? f.1.name members = some v → HasValue mode entries f v := by
  induction fields generalizing members with
  | nil =>
    rw [decodeFields]
    cases members <;> simp [Entries.names]
  | cons f rest ih =>
    rw [List.map_cons, List.nodup_cons] at hn
    have hother {g : FieldName × Shape} (hg : g ∈ rest) : f.1.name ≠ g.1.name := fun h =>
      hn.1 (h ▸ List.mem_map_of_mem hg)
    rw [decodeFields_cons_eq_ok_iff]
    constructor
    · rintro ⟨v, tail, hv, htail, rfl⟩
      obtain ⟨hnames, hvalues⟩ := (ih hn.2).mp htail
      refine ⟨by rw [Entries.names_cons, hnames, List.map_cons], ?_⟩
      rw [List.forall_mem_cons]
      constructor
      · intro w hw
        rw [Entries.get?, if_pos rfl] at hw
        cases hw
        exact hv
      · intro g hg w hw
        rw [Entries.get?, if_neg (hother hg)] at hw
        exact hvalues g hg w hw
    · rintro ⟨hnames, hvalues⟩
      cases members with
      | nil => cases hnames
      | cons e tail =>
        obtain ⟨key, v⟩ := e
        obtain ⟨rfl, htail⟩ := List.cons.inj hnames
        rw [List.forall_mem_cons] at hvalues
        refine ⟨v, tail, hvalues.1 v (if_pos rfl), (ih hn.2).mpr ⟨htail, ?_⟩, rfl⟩
        intro g hg w hw
        apply hvalues.2 g hg w
        rw [Entries.get?, if_neg (hother hg), hw]

/-- What is read of dictionaries that give every field the same value is the same. -/
lemma decodeFields_congr {others : Entries Value}
    (h : ∀ f ∈ fields, ∀ v, HasValue mode entries f v ↔ HasValue mode others f v) :
    decodeFields mode fields entries = .ok members ↔ decodeFields mode fields others = .ok members := by
  induction fields generalizing members with
  | nil => exact Iff.rfl
  | cons f rest ih =>
    obtain ⟨hf, hrest⟩ := List.forall_mem_cons.mp h
    simp only [decodeFields_cons_eq_ok_iff, hf, ih hrest]

lemma mem_of_entryOf {e : Text × Value} (h : entryOf name entries = some e) : e ∈ entries := by
  unfold entryOf at h
  split at h
  · next v hv =>
    cases h
    exact Entries.mem_of_get? hv
  · obtain ⟨v, hv, rfl⟩ := Option.map_eq_some_iff.mp h
    exact Entries.mem_of_get? hv

/-- The values of fields come from values that were given, but for null. -/
lemma forall_of_decodeFields {P Q : Value → Prop} (hnull : Q .null)
    (hdecode : ∀ f ∈ fields, ∀ x v, P x → decode mode f.2 x = .ok v → Q v)
    (hentries : ∀ e ∈ entries, P e.2) (h : decodeFields mode fields entries = .ok members) :
    ∀ m ∈ members, Q m.2 := by
  induction fields generalizing members with
  | nil =>
    cases h
    exact nofun
  | cons f rest ih =>
    obtain ⟨hf, hrest⟩ := List.forall_mem_cons.mp hdecode
    obtain ⟨v, tail, hv, htail, rfl⟩ := decodeFields_cons_eq_ok_iff.mp h
    refine List.forall_mem_cons.mpr ⟨?_, ih hrest htail⟩
    unfold HasValue at hv
    split at hv
    · next e he => exact hf _ v (hentries e (mem_of_entryOf he)) hv
    · obtain ⟨_, rfl⟩ := hv
      exact hnull

lemma exists_value (hnames : Entries.names members = fields.map (·.1.name)) (hf : f ∈ fields) :
    ∃ v, Entries.get? f.1.name members = some v := by
  apply Option.isSome_iff_exists.mp
  apply Entries.has_iff.mpr
  rw [hnames]
  exact List.mem_map_of_mem hf

/-! ### Writing -/

/-- The wire form of the value of a field, unless it has none. -/
def written? (values : Entries Value) (f : FieldName × Shape) : Option Json :=
  match (values.get? f.1.name).getD .null with
  | .null => none
  | v     => some (encode f.2 v)

lemma written?_of_null (h : Entries.get? f.1.name values = some .null) :
    written? values f = none := by
  rw [written?, h]
  rfl

lemma written?_of_ne_null (h : Entries.get? f.1.name values = some v) (hv : v ≠ .null) :
    written? values f = some (encode f.2 v) := by
  rw [written?, h, Option.getD_some]
  cases v <;> first | rfl | exact absurd rfl hv

lemma written?_eq_some_iff {j : Json} :
    written? values f = some j ↔
      ∃ v, Entries.get? f.1.name values = some v ∧ v ≠ .null ∧ encode f.2 v = j := by
  cases hv : Entries.get? f.1.name values with
  | none => simp [written?, hv]
  | some v =>
    by_cases hnull : v = .null
    · subst hnull
      simp [written?_of_null hv]
    · simp [written?_of_ne_null hv hnull, hnull]

lemma encodeFields_cons :
    encodeFields (f :: fields) values = match written? values f with
      | none   => encodeFields fields values
      | some j => (f.1.wire, j) :: encodeFields fields values := by
  obtain ⟨name, shape⟩ := f
  rw [encodeFields, written?]
  cases (values.get? name.name).getD .null <;> rfl

lemma names_encodeFields_sublist (fields : List (FieldName × Shape)) (values : Entries Value) :
    (Entries.names (encodeFields fields values)).Sublist (fields.map (·.1.wire)) := by
  induction fields with
  | nil => exact .slnil
  | cons f rest ih =>
    rw [encodeFields_cons, List.map_cons]
    split
    · exact ih.cons _
    · exact ih.cons_cons _

/-- What is written is the wire form of the value of some field. -/
lemma exists_of_mem_encodeFields {e : Text × Json} (he : e ∈ encodeFields fields values) :
    ∃ f ∈ fields, ∃ v, Entries.get? f.1.name values = some v ∧ v ≠ .null ∧
      (f.1.wire, encode f.2 v) = e := by
  induction fields with
  | nil => cases he
  | cons f rest ih =>
    have hrest (he : e ∈ encodeFields rest values) :
        ∃ g ∈ f :: rest, ∃ v, Entries.get? g.1.name values = some v ∧ v ≠ .null ∧
          (g.1.wire, encode g.2 v) = e := by
      obtain ⟨g, hg, hwritten⟩ := ih he
      exact ⟨g, List.mem_cons_of_mem f hg, hwritten⟩
    rw [encodeFields_cons] at he
    split at he
    · exact hrest he
    · next j hj =>
      rcases List.mem_cons.mp he with rfl | he
      · obtain ⟨v, hv, hnull, rfl⟩ := written?_eq_some_iff.mp hj
        exact ⟨f, List.mem_cons_self, v, hv, hnull, rfl⟩
      · exact hrest he

lemma get?_encodeFields (hn : (fields.map (·.1.wire)).Nodup) (hf : f ∈ fields) :
    Entries.get? f.1.wire (encodeFields fields values) = written? values f := by
  induction fields with
  | nil => cases hf
  | cons g rest ih =>
    rw [List.map_cons, List.nodup_cons] at hn
    have hrest : Entries.get? g.1.wire (encodeFields rest values) = none :=
      Entries.get?_eq_none_iff.mpr fun h => hn.1 ((names_encodeFields_sublist rest values).subset h)
    rw [encodeFields_cons]
    rcases List.mem_cons.mp hf with rfl | hf
    · split
      · next h => rw [h, hrest]
      · next j h => rw [h, Entries.get?, if_pos rfl]
    · have hname : g.1.wire ≠ f.1.wire := fun h => hn.1 (h ▸ List.mem_map_of_mem hf)
      split
      · exact ih hn.2 hf
      · rw [Entries.get?, if_neg hname, ih hn.2 hf]

/-- Where a field is not given under its own name, it is found under its wire name only. -/
lemma entryOf_ofJsonEntries {entries : Entries Json}
    (h : f.1.name = f.1.wire ∨ Entries.get? f.1.name entries = none) :
    entryOf f.1 (Value.ofJsonEntries entries) =
      (Entries.get? f.1.wire entries).map fun j => (f.1.wire, Value.ofJson j) := by
  rw [entryOf, Value.get?_ofJsonEntries, Value.get?_ofJsonEntries]
  cases hwire : Entries.get? f.1.wire entries with
  | some j => rfl
  | none =>
    rcases h with hname | hown
    · rw [hname, hwire]
      rfl
    · rw [hown]
      rfl

/-- The member that gives a field its value: the one under its wire name goes first. -/
def memberOf (name : FieldName) (entries : Entries Json) : Option Json :=
  (entries.get? name.wire).or (entries.get? name.name)

/-- What a JSON object gives for a field is read off its member. -/
lemma hasValue_ofJsonEntries_iff {entries : Entries Json} :
    HasValue mode (Value.ofJsonEntries entries) f v ↔ match memberOf f.1 entries with
      | some w => decode mode f.2 (.ofJson w) = .ok v
      | none   => f.2.isOptional ∧ v = .null := by
  rw [HasValue, entryOf, memberOf, Value.get?_ofJsonEntries, Value.get?_ofJsonEntries]
  cases Entries.get? f.1.wire entries with
  | some w => rfl
  | none => cases Entries.get? f.1.name entries <;> rfl

/-- What is written has no field under its own name, if that is not its wire name. -/
lemma name_eq_wire_or_get?_encodeFields (hclear : ClearNames fields) (hf : f ∈ fields) :
    f.1.name = f.1.wire ∨ Entries.get? f.1.name (encodeFields fields values) = none := by
  rw [or_iff_not_imp_right, Entries.get?_eq_none_iff, not_not]
  intro hmem
  obtain ⟨g, hg, hname⟩ := List.mem_map.mp ((names_encodeFields_sublist _ _).subset hmem)
  rw [← hname, hclear.apart f hf g hg hname.symm]

lemma entryOf_encodeFields (hclear : ClearNames fields) (hf : f ∈ fields) :
    entryOf f.1 (Value.ofJsonEntries (encodeFields fields values)) =
      (written? values f).map fun j => (f.1.wire, Value.ofJson j) := by
  rw [entryOf_ofJsonEntries (name_eq_wire_or_get?_encodeFields hclear hf),
    get?_encodeFields hclear.wire hf]

end ChainRpc.Shape
