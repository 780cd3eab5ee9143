import ChainRpc.Json
import ChainRpc.Proofs.Entries
import Mathlib.Data.List.Lex
import Mathlib.Data.List.Sort

/-!
# The order of members

Objects that differ in the order of their members only are one object. Two JSON values are the same in this
sense if they have the same form with all members in the order of their names.
-/

namespace ChainRpc

/-! ### Entries in the order of their names -/

namespace Entries

variable {α : Type} {entries others : Entries α}

/-- The entries in the order of their names. -/
def sorted (entries : Entries α) : Entries α :=
  List.insertionSort (fun e f => e.1 ≤ f.1) entries

lemma perm_sorted (entries : Entries α) : entries.sorted.Perm entries :=
  List.perm_insertionSort _ _

lemma pairwise_sorted (entries : Entries α) : entries.sorted.Pairwise fun e f => e.1 ≤ f.1 := by
  have : Std.Total (fun e f : Text × α => e.1 ≤ f.1) := ⟨fun e f => le_total e.1 f.1⟩
  have : IsTrans (Text × α) (fun e f => e.1 ≤ f.1) := ⟨fun _ _ _ => le_trans⟩
  exact List.pairwise_insertionSort _ _

lemma get?_sorted (hn : (names entries).Nodup) (name : Text) :
    get? name entries.sorted = get? name entries :=
  (get?_eq_of_perm hn (perm_sorted entries).symm name).symm

/-- Entries with distinct names are in one order only. -/
lemma sorted_eq_of_get? (hn : (names entries).Nodup) (hn' : (names others).Nodup)
    (h : ∀ name, get? name entries = get? name others) : entries.sorted = others.sorted := by
  have hperm : entries.sorted.Perm others.sorted :=
    (perm_sorted entries).trans ((perm_of_get? hn hn' h).trans (perm_sorted others).symm)
  refine hperm.eq_of_pairwise ?_ (pairwise_sorted entries) (pairwise_sorted others)
  rintro ⟨name, value⟩ ⟨name', value'⟩ hmem hmem' hle hge
  obtain rfl : name = name' := le_antisymm hle hge
  have hfound := get?_of_mem hn ((perm_sorted entries).mem_iff.mp hmem)
  have hfound' := get?_of_mem hn' ((perm_sorted others).mem_iff.mp hmem')
  rw [h, hfound'] at hfound
  rw [Option.some.inj hfound]

end Entries

/-! ### Values in the order of their names -/

namespace Json

mutual

/-- The value with the members of every object in the order of their names. -/
def ordered : Json → Json
  | .null         => .null
  | .bool b       => .bool b
  | .int n        => .int n
  | .float x      => .float x
  | .str t        => .str t
  | .list items   => .list (orderedItems items)
  | .dict entries => .dict (Entries.sorted (orderedEntries entries))
termination_by structural j => j

/-- The items of an array with their members in order. -/
def orderedItems : List Json → List Json
  | []           => []
  | item :: rest => ordered item :: orderedItems rest
termination_by structural items => items

/-- The members of an object with the members of their values in order. -/
def orderedEntries : List (Text × Json) → List (Text × Json)
  | []                    => []
  | (name, value) :: rest => (name, ordered value) :: orderedEntries rest
termination_by structural entries => entries

end

@[simp] lemma orderedItems_eq_map (items : List Json) : orderedItems items = items.map ordered := by
  induction items with
  | nil => simp [orderedItems]
  | cons item rest ih => simp [orderedItems, ih]

@[simp] lemma orderedEntries_eq_map (entries : List (Text × Json)) :
    orderedEntries entries = entries.map fun e => (e.1, ordered e.2) := by
  induction entries with
  | nil => simp [orderedEntries]
  | cons e rest ih => simp [orderedEntries, ih]

@[simp] lemma ordered_list (items : List Json) :
    (Json.list items).ordered = .list (items.map ordered) := by
  simp [ordered]

@[simp] lemma ordered_dict (entries : Entries Json) :
    (Json.dict entries).ordered = .dict (Entries.sorted (entries.map fun e => (e.1, ordered e.2))) := by
  simp [ordered]

lemma ordered_eq_null_iff {j : Json} : j.ordered = .null ↔ j = .null := by
  cases j <;> simp [ordered]

/-- No object in the value has two members of one name. -/
inductive HasDistinctNames : Json → Prop
  | null : HasDistinctNames .null
  | bool (b : Bool) : HasDistinctNames (.bool b)
  | int (n : Int) : HasDistinctNames (.int n)
  | float (x : Binary64) : HasDistinctNames (.float x)
  | str (t : Text) : HasDistinctNames (.str t)
  | list {items : List Json} (h : ∀ j ∈ items, HasDistinctNames j) : HasDistinctNames (.list items)
  | dict {entries : Entries Json} (hn : (Entries.names entries).Nodup)
    (h : ∀ e ∈ entries, HasDistinctNames e.2) : HasDistinctNames (.dict entries)

/-- Objects are the same if the same values, up to the order of members, are found under their names. -/
lemma ordered_dict_eq {entries others : Entries Json} (hn : (Entries.names entries).Nodup)
    (hn' : (Entries.names others).Nodup)
    (h : ∀ name, (Entries.get? name entries).map ordered = (Entries.get? name others).map ordered) :
    (Json.dict entries).ordered = (Json.dict others).ordered := by
  rw [ordered_dict, ordered_dict, Entries.sorted_eq_of_get?]
  · rwa [Entries.names_map]
  · rwa [Entries.names_map]
  · intro name
    rw [Entries.get?_map, Entries.get?_map, h]

/-- What is found in an object does not depend on the order of its members. -/
lemma get?_ordered {entries : Entries Json} (hn : (Entries.names entries).Nodup) (name : Text) :
    Entries.get? name (Entries.sorted (entries.map fun e => (e.1, ordered e.2))) =
      (Entries.get? name entries).map ordered := by
  rw [Entries.get?_sorted, Entries.get?_map]
  rwa [Entries.names_map]

end Json

end ChainRpc
