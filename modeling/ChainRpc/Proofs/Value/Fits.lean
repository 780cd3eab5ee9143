import ChainRpc.Json.Carried
import ChainRpc.Proofs.Entries
import ChainRpc.Proofs.Text.Whole
import ChainRpc.Shape.Encode
import ChainRpc.Value.Plain

/-!
# Values that can be sent

A value fits in some room if its containers are not nested deeper and its texts have a UTF-8 form. What
fits stays so when it is taken for JSON or for a value of a caller, and a JSON value that fits in less
than the room of a writer can be written.
-/

namespace ChainRpc

/-! ### Values and JSON values that fit -/

/-- At most `room` containers stand around any part of the JSON value, and its texts are whole. -/
inductive Json.Fits : (room : Nat) → Json → Prop
  | null {room : Nat} : Fits room .null
  | bool {room : Nat} (b : Bool) : Fits room (.bool b)
  | int {room : Nat} (n : Int) : Fits room (.int n)
  | float {room : Nat} (x : Binary64) : Fits room (.float x)
  | str {room : Nat} {t : Text} (h : t.IsWhole) : Fits room (.str t)
  | list {room : Nat} {items : List Json} (h : ∀ j ∈ items, Fits room j) : Fits (room + 1) (.list items)
  | dict {room : Nat} {entries : List (Text × Json)} (hnames : ∀ e ∈ entries, e.1.IsWhole)
    (h : ∀ e ∈ entries, Fits room e.2) : Fits (room + 1) (.dict entries)

/-- At most `room` containers stand around any part of the value, and its texts are whole. -/
inductive Value.Fits : (room : Nat) → Value → Prop
  | null {room : Nat} : Fits room .null
  | bool {room : Nat} (b : Bool) : Fits room (.bool b)
  | int {room : Nat} (n : Int) : Fits room (.int n)
  | float {room : Nat} (x : Binary64) : Fits room (.float x)
  | str {room : Nat} {t : Text} (h : t.IsWhole) : Fits room (.str t)
  | bytes {room : Nat} (b : Bytes) : Fits room (.bytes b)
  | buffer {room : Nat} (b : Bytes) : Fits room (.buffer b)
  | list {room : Nat} {items : List Value} (h : ∀ v ∈ items, Fits room v) :
    Fits (room + 1) (.list items)
  | tuple {room : Nat} {items : List Value} (h : ∀ v ∈ items, Fits room v) :
    Fits (room + 1) (.tuple items)
  | dict {room : Nat} {entries : List (Text × Value)} (hnames : ∀ e ∈ entries, e.1.IsWhole)
    (h : ∀ e ∈ entries, Fits room e.2) : Fits (room + 1) (.dict entries)
  | record {room : Nat} {cls : RecordClass} {fields : List (Text × Value)}
    (h : ∀ f ∈ fields, Fits room f.2) : Fits (room + 1) (.record cls fields)

/-! ### Writing -/

namespace Json

lemma surrogatesOf_eq_none_iff {t : Text} : surrogatesOf t = none ↔ t.IsWhole := by
  rw [surrogatesOf, Option.map_eq_none_iff]
  exact Utf8.firstSurrogates_eq_none_iff

lemma obstacleOfItems_eq_none_iff {room : Nat} {items : List Json} :
    obstacleOfItems room items = none ↔ ∀ j ∈ items, obstacleWithin room j = none := by
  induction items with
  | nil => exact iff_of_true rfl nofun
  | cons j rest ih =>
    rw [obstacleOfItems, Option.orElse_eq_or, Option.or_eq_none_iff, ih, List.forall_mem_cons]

lemma obstacleOfEntries_eq_none_iff {room : Nat} {entries : List (Text × Json)} :
    obstacleOfEntries room entries = none ↔
      (∀ e ∈ entries, e.1.IsWhole) ∧ ∀ e ∈ entries, obstacleWithin room e.2 = none := by
  induction entries with
  | nil => exact iff_of_true rfl ⟨nofun, nofun⟩
  | cons e rest ih =>
    rw [obstacleOfEntries, Option.orElse_eq_or, Option.or_eq_none_iff, Option.orElse_eq_or,
      Option.or_eq_none_iff, ih, surrogatesOf_eq_none_iff, List.forall_mem_cons, List.forall_mem_cons]
    tauto

/-- What fits in less than the room of a writer can be written. -/
lemma Fits.obstacleWithin_eq_none {room : Nat} {j : Json} (h : j.Fits room) {within : Nat}
    (hroom : room < within) : j.obstacleWithin within = none := by
  induction h generalizing within with
  | null | bool | int | float =>
    cases within with
    | zero => cases hroom
    | succ => rfl
  | str ht =>
    cases within with
    | zero => cases hroom
    | succ =>
      rw [obstacleWithin, surrogatesOf, Utf8.firstSurrogates_of_isWhole ht]
      rfl
  | list h ih =>
    cases within with
    | zero => cases hroom
    | succ =>
      exact obstacleOfItems_eq_none_iff.mpr fun j hj => ih j hj (Nat.lt_of_succ_lt_succ hroom)
  | dict hnames h ih =>
    cases within with
    | zero => cases hroom
    | succ =>
      exact obstacleOfEntries_eq_none_iff.mpr
        ⟨hnames, fun e he => ih e he (Nat.lt_of_succ_lt_succ hroom)⟩

end Json

/-! ### JSON values among values -/

namespace Value

lemma fits_ofJson {room : Nat} {j : Json} (h : j.Fits room) : (ofJson j).Fits room := by
  induction h with
  | null => exact .null
  | bool b => exact .bool b
  | int n => exact .int n
  | float x => exact .float x
  | str ht => exact .str ht
  | list h ih =>
    rw [ofJson, ofJsonItems_eq_map]
    exact .list (List.forall_mem_map.mpr ih)
  | dict hnames h ih =>
    rw [ofJson, ofJsonEntries_eq_map]
    exact .dict (List.forall_mem_map.mpr hnames) (List.forall_mem_map.mpr ih)

lemma fits_of_jsonItems? {room limit : Nat} {items : List Value} {js : List Json}
    (h : ∀ v ∈ items, ∀ j, json? limit v = some j → j.Fits room)
    (hjs : jsonItems? limit items = some js) : ∀ j ∈ js, j.Fits room := by
  induction items generalizing js with
  | nil =>
    cases hjs
    exact nofun
  | cons v rest ih =>
    obtain ⟨hv, hrest⟩ := List.forall_mem_cons.mp h
    simp only [jsonItems?, bind, pure, Option.bind_eq_some_iff] at hjs
    obtain ⟨j, hj, js, hjs, heq⟩ := hjs
    cases heq
    exact List.forall_mem_cons.mpr ⟨hv j hj, ih hrest hjs⟩

lemma fits_of_jsonEntries? {room limit : Nat} {entries : List (Text × Value)}
    {js : List (Text × Json)} (hnames : ∀ e ∈ entries, e.1.IsWhole)
    (h : ∀ e ∈ entries, ∀ j, json? limit e.2 = some j → j.Fits room)
    (hjs : jsonEntries? limit entries = some js) :
    (∀ e ∈ js, e.1.IsWhole) ∧ ∀ e ∈ js, e.2.Fits room := by
  induction entries generalizing js with
  | nil =>
    cases hjs
    exact ⟨nofun, nofun⟩
  | cons e rest ih =>
    obtain ⟨hv, hrest⟩ := List.forall_mem_cons.mp h
    obtain ⟨hname, hnames⟩ := List.forall_mem_cons.mp hnames
    simp only [jsonEntries?, bind, pure, Option.bind_eq_some_iff] at hjs
    obtain ⟨j, hj, js, hjs, heq⟩ := hjs
    cases heq
    obtain ⟨ihnames, ihvalues⟩ := ih hnames hrest hjs
    exact ⟨List.forall_mem_cons.mpr ⟨hname, ihnames⟩,
      List.forall_mem_cons.mpr ⟨hv j hj, ihvalues⟩⟩

/-- A value that fits is JSON that fits, if it is JSON at all. -/
lemma Fits.of_json? {room limit : Nat} {v : Value} {j : Json} (h : v.Fits room)
    (hj : v.json? limit = some j) : j.Fits room := by
  induction h generalizing limit j with
  | null | bool | int | float =>
    cases limit <;> cases hj
    constructor
  | str ht =>
    cases limit <;> cases hj
    exact .str ht
  | bytes | buffer | tuple | record => cases limit <;> cases hj
  | list h ih =>
    cases limit with
    | zero => cases hj
    | succ limit =>
      obtain ⟨js, hjs, rfl⟩ := Option.map_eq_some_iff.mp hj
      exact .list (fits_of_jsonItems? (fun v hv j hj => ih v hv hj) hjs)
  | dict hnames h ih =>
    cases limit with
    | zero => cases hj
    | succ limit =>
      obtain ⟨js, hjs, rfl⟩ := Option.map_eq_some_iff.mp hj
      obtain ⟨hkeys, hvalues⟩ := fits_of_jsonEntries? hnames (fun e he j hj => ih e he hj) hjs
      exact .dict hkeys hvalues

lemma Fits.of_toJson {room : Nat} {v : Value} {j : Json} (h : v.Fits room)
    (hj : v.toJson = .ok j) : j.Fits room := by
  unfold toJson at hj
  split at hj
  · next hjson =>
    cases hj
    exact h.of_json? hjson
  · cases hj

lemma fits_of_toJsonItems {room : Nat} {items : List Value} {js : List Json}
    (h : ∀ v ∈ items, v.Fits room) (hjs : toJsonItems items = .ok js) : ∀ j ∈ js, j.Fits room := by
  unfold toJsonItems at hjs
  split at hjs
  · next hitems =>
    cases hjs
    exact fits_of_jsonItems? (fun v hv j hj => (h v hv).of_json? hj) hitems
  · cases hjs

lemma jsonItems?_ofJsonItems {limit : Nat} {items : List Json}
    (h : ∀ j ∈ items, json? limit (ofJson j) = some j) :
    jsonItems? limit (ofJsonItems items) = some items := by
  induction items with
  | nil => rfl
  | cons j rest ih =>
    obtain ⟨hj, hrest⟩ := List.forall_mem_cons.mp h
    rw [ofJsonItems, jsonItems?, hj, ih hrest]
    rfl

lemma jsonEntries?_ofJsonEntries {limit : Nat} {entries : List (Text × Json)}
    (h : ∀ e ∈ entries, json? limit (ofJson e.2) = some e.2) :
    jsonEntries? limit (ofJsonEntries entries) = some entries := by
  induction entries with
  | nil => rfl
  | cons e rest ih =>
    obtain ⟨hj, hrest⟩ := List.forall_mem_cons.mp h
    rw [ofJsonEntries, jsonEntries?, hj, ih hrest]
    rfl

/-- A JSON value that is not nested too deep is JSON when it is taken for a value. -/
lemma json?_ofJson {room limit : Nat} {j : Json} (h : j.Fits room) (hroom : room < limit) :
    json? limit (ofJson j) = some j := by
  obtain ⟨limit, rfl⟩ := Nat.exists_eq_succ_of_ne_zero (by omega : limit ≠ 0)
  induction h generalizing limit with
  | null | bool | int | float | str => rfl
  | list h ih =>
    obtain ⟨limit, rfl⟩ := Nat.exists_eq_succ_of_ne_zero (by omega : limit ≠ 0)
    rw [ofJson, json?, jsonItems?_ofJsonItems fun j hj => ih j hj limit (by omega)]
    rfl
  | dict hnames h ih =>
    obtain ⟨limit, rfl⟩ := Nat.exists_eq_succ_of_ne_zero (by omega : limit ≠ 0)
    rw [ofJson, json?, jsonEntries?_ofJsonEntries fun e he => ih e he limit (by omega)]
    rfl

lemma toJson_ofJson {room : Nat} {j : Json} (h : j.Fits room) (hroom : room < jsonRoom) :
    toJson (ofJson j) = .ok j := by
  rw [toJson, json?_ofJson h hroom]

lemma toJsonItems_ofJsonItems {room : Nat} {items : List Json} (h : ∀ j ∈ items, j.Fits room)
    (hroom : room < jsonRoom) : toJsonItems (ofJsonItems items) = .ok items := by
  rw [toJsonItems, jsonItems?_ofJsonItems fun j hj => json?_ofJson (h j hj) hroom]

end Value

/-! ### Plain values -/

namespace Shape

lemma plainItems_eq_map (items : List Value) : plainItems items = items.map plain := by
  induction items with
  | nil => rfl
  | cons v rest ih => rw [plainItems, ih, List.map_cons]

lemma plainEntries_eq_map (entries : List (Text × Value)) :
    plainEntries entries = entries.map fun e => (e.1.legible, plain e.2) := by
  induction entries with
  | nil => rfl
  | cons e rest ih => rw [plainEntries, ih, List.map_cons]

/-- The JSON value of a value of plain types fits where the value does. -/
lemma fits_plain {room : Nat} {v : Value} (h : v.Fits room) : (plain v).Fits room := by
  induction h with
  | null | bytes | buffer | tuple | record => exact .null
  | bool b => exact .bool b
  | int n => exact .int n
  | float x => exact .float x
  | str ht => exact .str ht
  | list h ih =>
    rw [plain, plainItems_eq_map]
    exact .list (List.forall_mem_map.mpr ih)
  | @dict room entries hnames h ih =>
    rw [plain, plainEntries_eq_map]
    have hall : ∀ e ∈ Entries.putAll [] (entries.map fun e => (e.1.legible, plain e.2)),
        e.1.IsWhole ∧ e.2.Fits room :=
      Entries.forall_mem_putAll nofun
        (List.forall_mem_map.mpr fun e he => ⟨.legible e.1, ih e he⟩)
    exact .dict (fun e he => (hall e he).1) (fun e he => (hall e he).2)

end Shape

end ChainRpc
