import ChainRpc.Value.Shown
import Mathlib.Tactic.Common

/-!
# Which JSON values can be shown

A message shows a JSON value just where every integer in it is within the digit limit.
-/

namespace ChainRpc

namespace Json

mutual

/-- The integers in a value, from left to right. -/
def integers : Json → List Int
  | .int n        => [n]
  | .list items   => integersOfItems items
  | .dict entries => integersOfEntries entries
  | _             => []
termination_by structural v => v

/-- The integers in the items of an array. -/
def integersOfItems : List Json → List Int
  | []           => []
  | item :: rest => integers item ++ integersOfItems rest
termination_by structural items => items

/-- The integers in the members of an object. -/
def integersOfEntries : List (Text × Json) → List Int
  | []                 => []
  | (_, value) :: rest => integers value ++ integersOfEntries rest
termination_by structural entries => entries

end

end Json

/-- The integer has a decimal text: it is within the digit limit. -/
abbrev IsShort (n : Int) : Prop := n.natAbs < 10 ^ digitLimit

lemma isShort_of_lt {n : Int} (h : n.natAbs < 2 ^ 64) : IsShort n :=
  Nat.lt_trans h (Nat.lt_of_lt_of_le (by decide : 2 ^ 64 < 10 ^ 20)
    (Nat.pow_le_pow_right (by decide) (by decide)))

lemma decimal?_of_isShort {n : Int} (h : IsShort n) : decimal? n = some (Text.ofInt n) := by
  unfold decimal?
  split
  · rfl
  · next hlong => exact absurd h hlong

lemma isSome_decimal? (n : Int) : (decimal? n).isSome ↔ IsShort n := by
  unfold decimal?
  split
  · next h => exact iff_of_true rfl h
  · next h => exact iff_of_false nofun h

lemma decimal?_eq_none_iff (n : Int) : decimal? n = none ↔ ¬ IsShort n := by
  rw [← isSome_decimal?, Option.not_isSome_iff_eq_none]

lemma decimal?_ne_none {n : Int} (h : IsShort n) : decimal? n ≠ none :=
  fun hnone => (decimal?_eq_none_iff n).mp hnone h

/-- All integers in the value have a decimal text. -/
def Json.IsLegible (j : Json) : Prop := ∀ n ∈ j.integers, IsShort n

lemma Json.isLegible_list_iff {items : List Json} :
    (Json.list items).IsLegible ↔ ∀ j ∈ items, j.IsLegible := by
  change (∀ n ∈ integersOfItems items, IsShort n) ↔ _
  induction items with
  | nil => exact iff_of_true nofun nofun
  | cons j rest ih =>
    rw [integersOfItems, List.forall_mem_append, ih, List.forall_mem_cons]
    rfl

lemma Json.isLegible_dict_iff {entries : List (Text × Json)} :
    (Json.dict entries).IsLegible ↔ ∀ e ∈ entries, e.2.IsLegible := by
  change (∀ n ∈ integersOfEntries entries, IsShort n) ↔ _
  induction entries with
  | nil => exact iff_of_true nofun nofun
  | cons e rest ih =>
    rw [integersOfEntries, List.forall_mem_append, ih, List.forall_mem_cons]
    rfl

namespace Value

mutual

/-- A value is shown where all its integers are. -/
lemma isSome_shown?_ofJson : (j : Json) → ((ofJson j).shown?.isSome ↔ j.IsLegible)
  | .int n => by
    simp [ofJson, shown?, Json.IsLegible, Json.integers, isSome_decimal?]
  | .list items => by
    have h := isSome_shownItems?_ofJson items
    simp only [ofJson, shown?, Json.IsLegible, Json.integers, ← h]
    cases shownItems? (ofJsonItems items) <;> simp
  | .dict entries => by
    have h := isSome_shownEntries?_ofJson Text.quoted ": " entries
    simp only [ofJson, shown?, Json.IsLegible, Json.integers, ← h]
    cases shownEntries? Text.quoted ": " (ofJsonEntries entries) <;> simp
  | .null => by simp [ofJson, shown?, Json.IsLegible, Json.integers]
  | .bool true => by simp [ofJson, shown?, Json.IsLegible, Json.integers]
  | .bool false => by simp [ofJson, shown?, Json.IsLegible, Json.integers]
  | .float x => by simp [ofJson, shown?, Json.IsLegible, Json.integers]
  | .str t => by simp [ofJson, shown?, Json.IsLegible, Json.integers]
termination_by structural j => j

lemma isSome_shownItems?_ofJson : (items : List Json) →
    ((shownItems? (ofJsonItems items)).isSome ↔ ∀ n ∈ Json.integersOfItems items, IsShort n)
  | [] => by simp [ofJsonItems, shownItems?, Json.integersOfItems]
  | item :: rest => by
    have h := isSome_shown?_ofJson item
    have hr := isSome_shownItems?_ofJson rest
    simp only [Json.IsLegible] at h
    simp only [ofJsonItems, shownItems?, Json.integersOfItems, List.forall_mem_append, ← h, ← hr]
    cases (ofJson item).shown? <;> cases shownItems? (ofJsonItems rest) <;> simp
termination_by structural items => items

lemma isSome_shownEntries?_ofJson (name : Text → Text) (mark : Text) :
    (entries : List (Text × Json)) →
    ((shownEntries? name mark (ofJsonEntries entries)).isSome ↔
      ∀ n ∈ Json.integersOfEntries entries, IsShort n)
  | [] => by simp [ofJsonEntries, shownEntries?, Json.integersOfEntries]
  | (key, value) :: rest => by
    have h := isSome_shown?_ofJson value
    have hr := isSome_shownEntries?_ofJson name mark rest
    simp only [Json.IsLegible] at h
    simp only [ofJsonEntries, shownEntries?, Json.integersOfEntries, List.forall_mem_append, ← h,
      ← hr]
    cases (ofJson value).shown? <;>
      cases shownEntries? name mark (ofJsonEntries rest) <;> simp
termination_by structural entries => entries

end

end Value

end ChainRpc
