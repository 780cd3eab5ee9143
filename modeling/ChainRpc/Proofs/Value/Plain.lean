import ChainRpc.Value.Plain
import Mathlib.Tactic.Common

/-!
# JSON values come back

A JSON value that is taken for a value of a caller and is JSON again is the same JSON value; only its
depth can keep it from coming back. Different JSON values are taken for different values.
-/

namespace ChainRpc.Value

mutual

/-- What comes back from a JSON value is that value. -/
lemma eq_of_json?_ofJson {room : Nat} {found : Json} :
    (j : Json) → json? room (ofJson j) = some found → found = j
  | .null, h | .bool _, h | .int _, h | .float _, h | .str _, h => by
    cases room <;> simp [ofJson, json?] at h
    exact h.symm
  | .list items, h => by
    cases room with
    | zero => cases h
    | succ room =>
      simp only [ofJson, json?] at h
      obtain ⟨js, hjs, rfl⟩ := Option.map_eq_some_iff.mp h
      rw [eq_of_jsonItems?_ofJsonItems items hjs]
  | .dict entries, h => by
    cases room with
    | zero => cases h
    | succ room =>
      simp only [ofJson, json?] at h
      obtain ⟨es, hes, rfl⟩ := Option.map_eq_some_iff.mp h
      rw [eq_of_jsonEntries?_ofJsonEntries entries hes]

lemma eq_of_jsonItems?_ofJsonItems {room : Nat} {found : List Json} :
    (items : List Json) → jsonItems? room (ofJsonItems items) = some found → found = items
  | [], h => (Option.some.inj h).symm
  | item :: rest, h => by
    simp only [ofJsonItems, jsonItems?, bind, pure, Option.bind_eq_some_iff] at h
    obtain ⟨j, hj, js, hjs, heq⟩ := h
    cases heq
    rw [eq_of_json?_ofJson item hj, eq_of_jsonItems?_ofJsonItems rest hjs]

lemma eq_of_jsonEntries?_ofJsonEntries {room : Nat} {found : List (Text × Json)} :
    (entries : List (Text × Json)) →
      jsonEntries? room (ofJsonEntries entries) = some found → found = entries
  | [], h => (Option.some.inj h).symm
  | (key, value) :: rest, h => by
    simp only [ofJsonEntries, jsonEntries?, bind, pure, Option.bind_eq_some_iff] at h
    obtain ⟨j, hj, es, hes, heq⟩ := h
    cases heq
    rw [eq_of_json?_ofJson value hj, eq_of_jsonEntries?_ofJsonEntries rest hes]

end

lemma eq_of_toJson_ofJson {j found : Json} (h : toJson (ofJson j) = .ok found) : found = j := by
  unfold toJson at h
  split at h
  · next hj =>
    obtain rfl := Except.ok.inj h
    exact eq_of_json?_ofJson j hj
  · cases h

lemma eq_of_toJsonItems_ofJsonItems {items found : List Json}
    (h : toJsonItems (ofJsonItems items) = .ok found) : found = items := by
  unfold toJsonItems at h
  split at h
  · next hitems =>
    obtain rfl := Except.ok.inj h
    exact eq_of_jsonItems?_ofJsonItems items hitems
  · cases h

/-- The value under a name in the members of a JSON object. -/
lemma get?_ofJsonEntries (name : Text) (entries : List (Text × Json)) :
    Entries.get? name (ofJsonEntries entries) = (Entries.get? name entries).map ofJson := by
  induction entries with
  | nil => rfl
  | cons e rest ih =>
    obtain ⟨key, value⟩ := e
    rw [ofJsonEntries, Entries.get?, Entries.get?, ih]
    split <;> rfl

/-! ### Accepted values -/

variable {limit : Nat} {v : Value} {j : Json} {items : List Value} {js : List Json}

lemma ofJson_of_jsonItems? (h : ∀ v ∈ items, ∀ j, json? limit v = some j → ofJson j = v)
    (hjs : jsonItems? limit items = some js) : js.map ofJson = items := by
  induction items generalizing js with
  | nil =>
    cases hjs
    rfl
  | cons v rest ih =>
    obtain ⟨hv, hrest⟩ := List.forall_mem_cons.mp h
    simp only [jsonItems?, bind, pure, Option.bind_eq_some_iff] at hjs
    obtain ⟨j, hj, js, hjs, heq⟩ := hjs
    cases heq
    rw [List.map_cons, hv j hj, ih hrest hjs]

lemma ofJson_of_jsonEntries? {entries : List (Text × Value)} {js : List (Text × Json)}
    (h : ∀ e ∈ entries, ∀ j, json? limit e.2 = some j → ofJson j = e.2)
    (hjs : jsonEntries? limit entries = some js) : js.map (fun e => (e.1, ofJson e.2)) = entries := by
  induction entries generalizing js with
  | nil =>
    cases hjs
    rfl
  | cons e rest ih =>
    obtain ⟨he, hrest⟩ := List.forall_mem_cons.mp h
    simp only [jsonEntries?, bind, pure, Option.bind_eq_some_iff] at hjs
    obtain ⟨j, hj, js, hjs, heq⟩ := hjs
    cases heq
    rw [List.map_cons, ih hrest hjs, he j hj]

/-- A value that is JSON is that JSON value taken for a value. -/
lemma ofJson_of_json? (h : v.json? limit = some j) : ofJson j = v := by
  induction limit generalizing v j with
  | zero => cases v <;> cases h
  | succ limit ih =>
    cases v with
    | list items =>
      obtain ⟨js, hjs, rfl⟩ := Option.map_eq_some_iff.mp h
      rw [ofJson, ofJsonItems_eq_map, ofJson_of_jsonItems? (fun v _ j => ih) hjs]
    | dict entries =>
      obtain ⟨js, hjs, rfl⟩ := Option.map_eq_some_iff.mp h
      rw [ofJson, ofJsonEntries_eq_map, ofJson_of_jsonEntries? (fun e _ j => ih) hjs]
    | _ => cases h <;> rfl

mutual

/-- Different JSON values are different values. -/
lemma eq_of_ofJson_eq : (j : Json) → {k : Json} → ofJson j = ofJson k → j = k
  | .null, k, h | .bool _, k, h | .int _, k, h | .float _, k, h | .str _, k, h => by
    cases k <;> simp_all [ofJson]
  | .list items, k, h => by
    cases k with
    | list others => rw [eq_of_map_ofJson_eq items (by simpa [ofJson] using h)]
    | _ => cases h
  | .dict entries, k, h => by
    cases k with
    | dict others => rw [eq_of_map_entries_eq entries (by simpa [ofJson] using h)]
    | _ => cases h
termination_by structural j => j

lemma eq_of_map_ofJson_eq : (js : List Json) → {ks : List Json} → js.map ofJson = ks.map ofJson → js = ks
  | [], [], _ => rfl
  | j :: js, k :: ks, h => by
    obtain ⟨hhead, htail⟩ := List.cons.inj h
    rw [eq_of_ofJson_eq j hhead, eq_of_map_ofJson_eq js htail]
termination_by structural js => js

lemma eq_of_map_entries_eq : (es : List (Text × Json)) → {fs : List (Text × Json)} →
    es.map (fun e => (e.1, ofJson e.2)) = fs.map (fun e => (e.1, ofJson e.2)) → es = fs
  | [], [], _ => rfl
  | (name, j) :: es, (other, k) :: fs, h => by
    obtain ⟨hhead, htail⟩ := List.cons.inj h
    obtain ⟨rfl, hvalue⟩ := Prod.mk.inj hhead
    rw [eq_of_ofJson_eq j hvalue, eq_of_map_entries_eq es htail]
termination_by structural es => es

end

lemma ofJson_of_toJson (h : v.toJson = .ok j) : ofJson j = v := by
  unfold toJson at h
  split at h
  · next hj =>
    cases h
    exact ofJson_of_json? hj
  · cases h

lemma ofJson_of_toJsonItems (h : toJsonItems items = .ok js) : js.map ofJson = items := by
  unfold toJsonItems at h
  split at h
  · next hjs =>
    cases h
    exact ofJson_of_jsonItems? (fun v _ j => ofJson_of_json?) hjs
  · cases h

end ChainRpc.Value
