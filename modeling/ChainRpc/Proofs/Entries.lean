import ChainRpc.Entries
import Mathlib.Data.List.Nodup
import Mathlib.Data.List.Perm.Basic

/-!
# Looking entries up

What is found under a name is an entry, and with distinct names every entry is found. Lists of entries
with distinct names under which the same is found differ in their order only.
-/

namespace ChainRpc

/-- An element is found by its key if the keys are distinct. -/
lemma find?_of_nodup_map {α β : Type} [BEq β] [LawfulBEq β] {key : α → β} {l : List α} {a : α}
    (hn : (l.map key).Nodup) (ha : a ∈ l) : l.find? (key · == key a) = some a := by
  cases hfind : l.find? (key · == key a) with
  | none => simpa using List.find?_eq_none.mp hfind a ha
  | some found =>
    have hkey : key found = key a := by simpa using List.find?_some hfind
    rw [List.inj_on_of_nodup_map hn (List.mem_of_find?_eq_some hfind) ha hkey]

namespace Entries

variable {α β : Type} {P : Text × α → Prop} {name : Text} {value : α} {entries further : Entries α}

/-! ### Entries that are found -/

lemma mem_of_get? (h : get? name entries = some value) : (name, value) ∈ entries := by
  induction entries with
  | nil => cases h
  | cons e rest ih =>
    rw [get?] at h
    split at h
    · next hkey =>
      cases h
      rw [← hkey]
      exact List.mem_cons_self
    · exact List.mem_cons_of_mem _ (ih h)

lemma get?_append (name : Text) (before after : Entries α) :
    get? name (before ++ after) = (get? name before).or (get? name after) := by
  induction before with
  | nil => rfl
  | cons e rest ih =>
    rw [List.cons_append, get?, get?, ih]
    split <;> rfl

lemma get?_insert_of_ne {before after : Entries α} {key : Text} (h : key ≠ name) :
    get? name (before ++ (key, value) :: after) = get? name (before ++ after) := by
  rw [get?_append, get?_append, get?, if_neg h]

/-- With another value in one entry either the same is found, or this value in place of the old one. -/
lemma get?_replace_cases (name key : Text) (old new : α) (before after : Entries α) :
    get? name (before ++ (key, old) :: after) = get? name (before ++ (key, new) :: after) ∨
      get? name (before ++ (key, old) :: after) = some old ∧
        get? name (before ++ (key, new) :: after) = some new := by
  rw [get?_append, get?_append]
  cases get? name before with
  | some value => exact .inl rfl
  | none =>
    rw [get?, get?]
    split
    · exact .inr ⟨rfl, rfl⟩
    · exact .inl rfl

lemma forall_mem_put (hvalue : P (name, value)) (h : ∀ e ∈ entries, P e) :
    ∀ e ∈ put name value entries, P e := by
  induction entries with
  | nil => exact List.forall_mem_singleton.mpr hvalue
  | cons e rest ih =>
    obtain ⟨he, hrest⟩ := List.forall_mem_cons.mp h
    rw [put]
    split
    · next hkey =>
      rw [hkey]
      exact List.forall_mem_cons.mpr ⟨hvalue, hrest⟩
    · exact List.forall_mem_cons.mpr ⟨he, ih hrest⟩

lemma forall_mem_putAll (h : ∀ e ∈ entries, P e) (hfurther : ∀ e ∈ further, P e) :
    ∀ e ∈ putAll entries further, P e := by
  induction further generalizing entries with
  | nil => exact h
  | cons e rest ih =>
    obtain ⟨he, hrest⟩ := List.forall_mem_cons.mp hfurther
    exact ih (forall_mem_put he h) hrest

lemma nodup_put (hn : (names entries).Nodup) (name : Text) (value : α) :
    (names (put name value entries)).Nodup := by
  rw [names_put]
  split
  · exact hn
  · next hname =>
    rw [List.nodup_append]
    refine ⟨hn, List.nodup_singleton name, ?_⟩
    rintro key hkey _ hlast rfl
    exact hname (List.mem_singleton.mp hlast ▸ hkey)

lemma put_of_not_mem (h : name ∉ names entries) :
    put name value entries = entries ++ [(name, value)] := by
  induction entries with
  | nil => rfl
  | cons e rest ih =>
    rw [names_cons, List.mem_cons, not_or] at h
    rw [put, if_neg fun heq => h.1 heq.symm, ih h.2]
    rfl

/-! ### Distinct names -/

lemma get?_eq_none_iff : get? name entries = none ↔ name ∉ names entries := by
  rw [← has_iff, has]
  cases get? name entries <;> simp

lemma get?_of_mem (hn : (names entries).Nodup) (h : (name, value) ∈ entries) :
    get? name entries = some value := by
  induction entries with
  | nil => cases h
  | cons e rest ih =>
    obtain ⟨key, first⟩ := e
    rw [names_cons, List.nodup_cons] at hn
    rcases List.mem_cons.mp h with heq | hmem
    · cases heq
      exact if_pos rfl
    · have hkey : key ≠ name := by
        rintro rfl
        exact hn.1 (List.mem_map_of_mem hmem)
      rw [get?, if_neg hkey]
      exact ih hn.2 hmem

lemma mem_iff_get? (hn : (names entries).Nodup) :
    (name, value) ∈ entries ↔ get? name entries = some value :=
  ⟨get?_of_mem hn, mem_of_get?⟩

lemma mem_put_iff (hn : (names entries).Nodup) {e : Text × α} :
    e ∈ put name value entries ↔ e = (name, value) ∨ e ∈ entries ∧ e.1 ≠ name := by
  obtain ⟨key, held⟩ := e
  rw [mem_iff_get? (nodup_put hn name value)]
  by_cases hkey : key = name
  · subst hkey
    simp [eq_comm]
  · rw [get?_put_of_ne hkey, ← mem_iff_get? hn]
    simp [hkey]

lemma nodup_putAll (hn : (names entries).Nodup) : (names (putAll entries further)).Nodup := by
  induction further generalizing entries with
  | nil => exact hn
  | cons e rest ih => exact ih (nodup_put hn e.1 e.2)

/-- After all entries of a list are put, they are there, and the old ones under other names. -/
lemma mem_putAll_iff (hn : (names entries).Nodup) (hfurther : (names further).Nodup) {e : Text × α} :
    e ∈ putAll entries further ↔ e ∈ further ∨ e ∈ entries ∧ e.1 ∉ names further := by
  induction further generalizing entries with
  | nil => simp [putAll]
  | cons first rest ih =>
    obtain ⟨name, value⟩ := first
    rw [names_cons, List.nodup_cons] at hfurther
    rw [putAll, ih (nodup_put hn name value) hfurther.2, mem_put_iff hn, names_cons, List.mem_cons,
      List.mem_cons]
    have hfirst : e = (name, value) → e.1 ∉ names rest := fun heq => heq ▸ hfurther.1
    tauto

/-- Entries with distinct names are known from what is found under the names, up to their order. -/
lemma perm_of_get? {others : Entries α} (hn : (names entries).Nodup) (hn' : (names others).Nodup)
    (h : ∀ name, get? name entries = get? name others) : entries.Perm others := by
  rw [List.perm_ext_iff_of_nodup (.of_map _ hn) (.of_map _ hn')]
  rintro ⟨name, value⟩
  rw [mem_iff_get? hn, mem_iff_get? hn', h]

lemma get?_eq_of_perm {others : Entries α} (hn : (names entries).Nodup) (h : entries.Perm others)
    (name : Text) : get? name entries = get? name others := by
  have hn' : (names others).Nodup := (h.map _).nodup_iff.mp hn
  ext value
  rw [← mem_iff_get? hn, ← mem_iff_get? hn', h.mem_iff]

/-! ### Entries with other values -/

lemma get?_map (f : α → β) (name : Text) (entries : Entries α) :
    get? name (entries.map fun e => (e.1, f e.2)) = (get? name entries).map f := by
  induction entries with
  | nil => rfl
  | cons e rest ih =>
    rw [List.map_cons, get?, get?, ih]
    split <;> rfl

lemma names_map (f : α → β) (entries : Entries α) :
    names (entries.map fun e => (e.1, f e.2)) = names entries := by
  simp [names]

lemma put_map (f : α → β) (name : Text) (value : α) (entries : Entries α) :
    put name (f value) (entries.map fun e => (e.1, f e.2)) =
      (put name value entries).map fun e => (e.1, f e.2) := by
  induction entries with
  | nil => rfl
  | cons e rest ih =>
    rw [List.map_cons, put, put, ih]
    split <;> rfl

/-- The entries that a function of name and value keeps, under their names. -/
def filterMap (f : Text → α → Option β) (entries : Entries α) : Entries β :=
  List.filterMap (fun e => (f e.1 e.2).map (e.1, ·)) entries

lemma filterMap_cons (f : Text → α → Option β) (e : Text × α) (rest : Entries α) :
    filterMap f (e :: rest) = match f e.1 e.2 with
      | none   => filterMap f rest
      | some b => (e.1, b) :: filterMap f rest := by
  unfold filterMap
  cases h : f e.1 e.2 <;> simp [h]

lemma filterMap_eq_self {f : Text → α → Option α} (h : ∀ e ∈ entries, f e.1 e.2 = some e.2) :
    filterMap f entries = entries := by
  induction entries with
  | nil => rfl
  | cons e rest ih =>
    obtain ⟨he, hrest⟩ := List.forall_mem_cons.mp h
    rw [filterMap_cons, he, ih hrest]

lemma names_filterMap_sublist (f : Text → α → Option β) (entries : Entries α) :
    (names (filterMap f entries)).Sublist (names entries) := by
  induction entries with
  | nil => exact .slnil
  | cons e rest ih =>
    rw [filterMap_cons]
    split
    · exact ih.cons _
    · exact ih.cons_cons _

lemma get?_filterMap (f : Text → α → Option β) (hn : (names entries).Nodup) (name : Text) :
    get? name (filterMap f entries) = (get? name entries).bind (f name) := by
  induction entries with
  | nil => rfl
  | cons e rest ih =>
    obtain ⟨key, value⟩ := e
    rw [names_cons, List.nodup_cons] at hn
    rw [filterMap_cons, get?]
    by_cases hkey : key = name
    · subst hkey
      -- No later entry has the name, so none is found if this one is left out.
      have hrest : get? key (filterMap f rest) = none :=
        get?_eq_none_iff.mpr fun h => hn.1 ((names_filterMap_sublist f rest).subset h)
      rw [if_pos rfl, Option.bind_some]
      cases f key value <;> simp [get?, hrest]
    · rw [if_neg hkey, ← ih hn.2]
      cases f key value <;> simp [get?, hkey]

end Entries

end ChainRpc
