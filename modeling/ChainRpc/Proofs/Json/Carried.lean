import ChainRpc.Proofs.Json.RoundTrip
import ChainRpc.Request

/-!
# What a body carries of a JSON value

A JSON value can be written if its texts are whole and each of its parts stands in fewer containers than the
writer goes into. A body then carries the value, but for floating-point numbers that are not finite: in
their place a null is written and read.
-/

namespace ChainRpc

/-! ### Values that can be written -/

/-- Every part of the value stands in fewer than `room` containers, and its texts are whole. -/
inductive Json.Writable : (room : Nat) → Json → Prop
  | null {room : Nat} : Writable (room + 1) .null
  | bool {room : Nat} (b : Bool) : Writable (room + 1) (.bool b)
  | int {room : Nat} (n : Int) : Writable (room + 1) (.int n)
  | float {room : Nat} (x : Binary64) : Writable (room + 1) (.float x)
  | str {room : Nat} {t : Text} (h : t.IsWhole) : Writable (room + 1) (.str t)
  | list {room : Nat} {items : List Json} (h : ∀ j ∈ items, Writable room j) :
    Writable (room + 1) (.list items)
  | dict {room : Nat} {entries : List (Text × Json)} (hnames : ∀ e ∈ entries, e.1.IsWhole)
    (h : ∀ e ∈ entries, Writable room e.2) : Writable (room + 1) (.dict entries)

namespace Json

variable {room : Nat} {j : Json} {items : List Json} {entries : List (Text × Json)}

/-- Nothing stands in the way of writing what can be written, and of nothing else. -/
lemma obstacleWithin_eq_none_iff : j.obstacleWithin room = none ↔ j.Writable room := by
  induction room generalizing j with
  | zero =>
    refine ⟨fun h => ?_, nofun⟩
    cases j <;> cases h
  | succ room ih =>
    cases j with
    | null => exact iff_of_true rfl .null
    | bool b => exact iff_of_true rfl (.bool b)
    | int n => exact iff_of_true rfl (.int n)
    | float x => exact iff_of_true rfl (.float x)
    | str t =>
      rw [obstacleWithin, surrogatesOf_eq_none_iff]
      refine ⟨.str, fun h => ?_⟩
      cases h
      assumption
    | list items =>
      rw [obstacleWithin, obstacleOfItems_eq_none_iff]
      simp only [ih]
      refine ⟨.list, fun h => ?_⟩
      cases h
      assumption
    | dict entries =>
      rw [obstacleWithin, obstacleOfEntries_eq_none_iff]
      simp only [ih]
      refine ⟨fun h => .dict h.1 h.2, fun h => ?_⟩
      cases h
      exact ⟨‹_›, ‹_›⟩

/-! ### Numbers that are not finite -/

mutual

/-- The floating-point numbers in a value, from left to right. -/
def floats : Json → List Binary64
  | .float x      => [x]
  | .list items   => floatsOfItems items
  | .dict entries => floatsOfEntries entries
  | _             => []
termination_by structural v => v

/-- The floating-point numbers in the items of an array. -/
def floatsOfItems : List Json → List Binary64
  | []           => []
  | item :: rest => floats item ++ floatsOfItems rest
termination_by structural items => items

/-- The floating-point numbers in the members of an object. -/
def floatsOfEntries : List (Text × Json) → List Binary64
  | []                 => []
  | (_, value) :: rest => floats value ++ floatsOfEntries rest
termination_by structural entries => entries

end

mutual

/-- What a request carries of a value: a number that is not finite becomes null. -/
def carried : Json → Json
  | .float x      => if x.isFinite then .float x else .null
  | .list items   => .list (carriedItems items)
  | .dict entries => .dict (carriedEntries entries)
  | j             => j
termination_by structural v => v

/-- What a request carries of the items of an array. -/
def carriedItems : List Json → List Json
  | []           => []
  | item :: rest => carried item :: carriedItems rest
termination_by structural items => items

/-- What a request carries of the members of an object. -/
def carriedEntries : List (Text × Json) → List (Text × Json)
  | []                    => []
  | (name, value) :: rest => (name, carried value) :: carriedEntries rest
termination_by structural entries => entries

end

lemma carriedItems_eq_map (items : List Json) : carriedItems items = items.map carried := by
  induction items with
  | nil => rfl
  | cons j rest ih => rw [carriedItems, ih, List.map_cons]

lemma carriedEntries_eq_map (entries : List (Text × Json)) :
    carriedEntries entries = entries.map fun e => (e.1, e.2.carried) := by
  induction entries with
  | nil => rfl
  | cons e rest ih => rw [carriedEntries, ih, List.map_cons]

mutual

/-- A value is carried as it is just where its numbers are finite. -/
lemma carried_eq_self_iff : (j : Json) → (j.carried = j ↔ ∀ x ∈ j.floats, x.isFinite)
  | .null | .bool _ | .int _ | .str _ => iff_of_true rfl nofun
  | .float x => by
    rw [carried, floats, List.forall_mem_singleton]
    split
    · next h => exact iff_of_true rfl h
    · next h => exact iff_of_false nofun h
  | .list items => by
    rw [carried, floats, list.injEq]
    exact carriedItems_eq_self_iff items
  | .dict entries => by
    rw [carried, floats, dict.injEq]
    exact carriedEntries_eq_self_iff entries
termination_by structural j => j

lemma carriedItems_eq_self_iff : (items : List Json) →
    (carriedItems items = items ↔ ∀ x ∈ floatsOfItems items, x.isFinite)
  | [] => iff_of_true rfl nofun
  | item :: rest => by
    rw [carriedItems, floatsOfItems, List.cons.injEq, List.forall_mem_append,
      carried_eq_self_iff item, carriedItems_eq_self_iff rest]
termination_by structural items => items

lemma carriedEntries_eq_self_iff : (entries : List (Text × Json)) →
    (carriedEntries entries = entries ↔ ∀ x ∈ floatsOfEntries entries, x.isFinite)
  | [] => iff_of_true rfl nofun
  | (name, value) :: rest => by
    rw [carriedEntries, floatsOfEntries, List.cons.injEq, List.forall_mem_append, Prod.mk.injEq,
      eq_self, true_and, carried_eq_self_iff value, carriedEntries_eq_self_iff rest]
termination_by structural entries => entries

end

mutual

/-- A value is written as what a request carries of it. -/
lemma write_carried : (j : Json) → j.carried.write Request.writeFloat = j.write Request.writeFloat
  | .null | .bool _ | .int _ | .str _ => rfl
  | .float x => by
    rw [carried, write, Request.writeFloat]
    split <;> simp [write, Request.writeFloat, *]
  | .list [] => rfl
  | .list (item :: rest) => by
    simp only [carried, carriedItems, write, write_carried item, writeItems_carried rest]
  | .dict [] => rfl
  | .dict ((name, value) :: rest) => by
    simp only [carried, carriedEntries, write, write_carried value, writeEntries_carried rest]
termination_by structural j => j

lemma writeItems_carried : (items : List Json) →
    writeItems Request.writeFloat (carriedItems items) = writeItems Request.writeFloat items
  | [] => rfl
  | item :: rest => by
    simp only [carriedItems, writeItems, write_carried item, writeItems_carried rest]
termination_by structural items => items

lemma writeEntries_carried : (entries : List (Text × Json)) →
    writeEntries Request.writeFloat (carriedEntries entries) =
      writeEntries Request.writeFloat entries
  | [] => rfl
  | (name, value) :: rest => by
    simp only [carriedEntries, writeEntries, write_carried value, writeEntries_carried rest]
termination_by structural entries => entries

end

/-- Finite floating-point numbers in a request are written so that they are read back. -/
lemma carriesFloats_writeFloat :
    Reader.CarriesFloats Request.writeFloat fun x => x.isFinite = true where
  startsNumber hx := by
    rw [Request.writeFloat, if_pos hx]
    exact Reader.startsNumber_render _ hx
  isClean hx := by
    rw [Request.writeFloat, if_pos hx]
    exact Reader.isClean_render _ hx
  number_eq hx limits rest hrest := by
    rw [Request.writeFloat, if_pos hx]
    exact Reader.number_render _ hx hrest

end Json

/-! ### Values of callers -/

/-- A value as callers have it: its texts are of code points and its dictionaries have distinct names. What
is no JSON is not looked into. -/
inductive Value.IsRegular : Value → Prop
  | null : IsRegular .null
  | bool (b : Bool) : IsRegular (.bool b)
  | int (n : Int) : IsRegular (.int n)
  | float (x : Binary64) : IsRegular (.float x)
  | str {t : Text} (h : ∀ c ∈ t, c < 0x110000) : IsRegular (.str t)
  | bytes (b : Bytes) : IsRegular (.bytes b)
  | buffer (b : Bytes) : IsRegular (.buffer b)
  | list {items : List Value} (h : ∀ v ∈ items, IsRegular v) : IsRegular (.list items)
  | tuple (items : List Value) : IsRegular (.tuple items)
  | dict {entries : Entries Value} (hn : (Entries.names entries).Nodup)
    (hnames : ∀ e ∈ entries, ∀ c ∈ e.1, c < 0x110000) (h : ∀ e ∈ entries, IsRegular e.2) :
    IsRegular (.dict entries)
  | record (cls : RecordClass) (fields : List (Text × Value)) : IsRegular (.record cls fields)

namespace Json

variable {room : Nat} {j : Json}

lemma isScalar_of_isWhole {t : Text} (h : t.IsWhole) (hrange : ∀ c ∈ t, c < 0x110000) : t.IsScalar :=
  fun c hc => ⟨hrange c hc, h c hc⟩

/-- What a request carries of a value is carried by its text. -/
lemma Writable.portableWith_carried (h : j.Writable room) (hregular : (Value.ofJson j).IsRegular)
    (hl : j.IsLegible) : j.carried.PortableWith (fun x => x.isFinite = true) room := by
  induction h with
  | null => exact .null
  | bool b => exact .bool b
  | int n => exact .int (hl n (List.mem_singleton_self n))
  | float x =>
    rw [carried]
    split
    · next hx => exact .float hx
    · exact .null
  | str ht =>
    cases hregular with
    | str hrange => exact .str (isScalar_of_isWhole ht hrange)
  | list h ih =>
    rw [isLegible_list_iff] at hl
    rw [carried, carriedItems_eq_map]
    rw [Value.ofJson, Value.ofJsonItems_eq_map] at hregular
    cases hregular with
    | list hitems =>
      rw [List.forall_mem_map] at hitems
      exact .list (List.forall_mem_map.mpr fun j hj => ih j hj (hitems j hj) (hl j hj))
  | dict hnames h ih =>
    rw [isLegible_dict_iff] at hl
    rw [carried, carriedEntries_eq_map]
    rw [Value.ofJson, Value.ofJsonEntries_eq_map] at hregular
    cases hregular with
    | dict hn hrange hentries =>
      rw [List.forall_mem_map] at hrange hentries
      refine .dict ?_ (List.forall_mem_map.mpr fun e he => ?_)
        (List.forall_mem_map.mpr fun e he => ih e he (hentries e he) (hl e he))
      · rw [Entries.names, List.map_map] at hn ⊢
        exact hn
      · exact isScalar_of_isWhole (hnames e he) (hrange e he)

end Json

end ChainRpc
