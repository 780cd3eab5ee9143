import ChainRpc.Method.Shelf
import ChainRpc.Proofs.Entries

/-!
# Chronicles of registries

A chronicle lists what was stored in a registry in the order of time. A dictionary of methods reflects it if
it has for each name the method stored last, in the order of the first registrations; then all that a registry
with these methods answers can be told from the chronicle alone.
-/

namespace ChainRpc

/-! ### Chronicles -/

/-- What is repeated at the end is left out. -/
lemma eraseDups_concat (names : List Text) (name : Text) :
    (names ++ [name]).eraseDups =
      if name ∈ names then names.eraseDups else names.eraseDups ++ [name] := by
  have hlast : [name].removeAll names = if name ∈ names then [] else [name] := by
    simp [List.removeAll, List.filter_cons]
  rw [List.eraseDups_append, hlast]
  split <;> simp [List.eraseDups_cons]

/-- What was stored in a registry, in the order of time. -/
structure Chronicle where
  name : Text
  stored : List Method := []

namespace Chronicle

variable (c : Chronicle) (m : Method)

/-- The names in the order of their first registration. -/
def names : List Text :=
  (c.stored.map (·.name)).eraseDups

/-- The method stored last under a name. -/
def find? (name : Text) : Option Method :=
  c.stored.reverse.find? (·.name == name)

/-- Each name with the method stored last under it. -/
def entries : Entries Method :=
  c.names.filterMap fun name => (c.find? name).map (name, ·)

/-- The chronicle of a new registry, under a name if one is given. -/
def new (name : Option Text) : Chronicle :=
  { name := name.getD "registry" }

/-- The chronicle of a copy begins with what was stored in the source. -/
def copy (name : Option Text) : Chronicle :=
  { c with name := (name.filter (· ≠ [])).getD c.name }

/-- Something was stored under the name of a method, and the method is not to replace it. -/
def refuses (replace : Bool) : Bool :=
  decide (m.name ∈ c.names) && !replace

def store : Chronicle :=
  { c with stored := c.stored ++ [m] }

/-- What is answered to the addition of a method. -/
def addition (replace : Bool) : Except RegistryFault Shelf.Answer :=
  if c.refuses m replace then .error (.alreadyRegistered m.name) else .ok (.method m)

/-- What is answered to the lookup of a key. Only a text can be the name of a method, and a value without a
hash cannot be looked up at all. -/
def lookup : Value → Except RegistryFault Shelf.Answer
  | .str name =>
    match c.find? name with
    | some m => .ok (.method m)
    | none   => .error (.unknown (.str name))
  | key =>
    match key.unhashable? with
    | some typeName => .error (.unhashable typeName)
    | none          => .error (.unknown key)

/-- What is answered to the question whether a method was stored under a key. -/
def membership : Value → Except RegistryFault Shelf.Answer
  | .str name => .ok (.holds (c.find? name).isSome)
  | key =>
    match key.unhashable? with
    | some typeName => .error (.unhashable typeName)
    | none          => .ok (.holds false)

/-- The method was stored under the name, and none was stored under it later. -/
def IsLatest (name : Text) (m : Method) : Prop :=
  m.name = name ∧ ∃ before after, c.stored = before ++ m :: after ∧ ∀ m' ∈ after, m'.name ≠ name

lemma find?_eq_some_iff {name : Text} : c.find? name = some m ↔ c.IsLatest name m := by
  rw [find?, List.find?_eq_some_iff_append, beq_iff_eq]
  refine and_congr_right fun _ => ?_
  constructor
  · rintro ⟨later, earlier, hstored, hlater⟩
    rw [List.reverse_eq_iff] at hstored
    refine ⟨earlier.reverse, later.reverse, by simpa using hstored, ?_⟩
    intro m' hm'
    simpa using hlater m' (List.mem_reverse.mp hm')
  · rintro ⟨before, after, hstored, hafter⟩
    refine ⟨after.reverse, before.reverse, by simp [hstored], ?_⟩
    intro m' hm'
    simpa using hafter m' (List.mem_reverse.mp hm')

lemma find?_eq_none_iff {name : Text} : c.find? name = none ↔ ∀ m ∈ c.stored, m.name ≠ name := by
  simp [find?]

lemma lookup_eq_ok_iff {name : Text} :
    c.lookup (.str name) = .ok (.method m) ↔ c.IsLatest name m := by
  rw [← find?_eq_some_iff, lookup]
  cases c.find? name <;> simp

lemma lookup_eq_unknown_iff {name : Text} :
    c.lookup (.str name) = .error (.unknown (.str name)) ↔ ∀ m ∈ c.stored, m.name ≠ name := by
  rw [← find?_eq_none_iff, lookup]
  cases c.find? name <;> simp

lemma membership_eq_true_iff {name : Text} :
    c.membership (.str name) = .ok (.holds true) ↔ ∃ m ∈ c.stored, m.name = name := by
  simp [membership, find?]

lemma names_store :
    (c.store m).names = if m.name ∈ c.names then c.names else c.names ++ [m.name] := by
  rw [names, names, store, List.map_append, List.map_singleton, eraseDups_concat]
  simp only [List.mem_eraseDups]

lemma find?_store (name : Text) :
    (c.store m).find? name = if m.name = name then some m else c.find? name := by
  by_cases h : m.name = name
  · simp [find?, store, h]
  · simp [find?, store, h]

end Chronicle

/-! ### Holdings that reflect a chronicle -/

/-- A holding is the map that a chronicle tells of. -/
structure Reflects (c : Chronicle) (h : Holding) : Prop where
  name : h.name = c.name
  keys : ∀ e ∈ h.methods, e.2.name = e.1
  distinct : h.methods.names.Nodup
  order : h.methods.names = c.names
  found : ∀ name, h.find? name = c.find? name

namespace Reflects

variable {c : Chronicle} {h : Holding} {m : Method}

lemma new (name : Option Text) : Reflects (.new name) (.new name) where
  name := rfl
  keys := List.forall_mem_nil _
  distinct := List.nodup_nil
  order := rfl
  found _ := rfl

lemma copy (hr : Reflects c h) (name : Option Text) : Reflects (c.copy name) (h.copy name) := by
  match name with
  | none           => exact ⟨hr.name, hr.keys, hr.distinct, hr.order, hr.found⟩
  | some []        => exact ⟨hr.name, hr.keys, hr.distinct, hr.order, hr.found⟩
  | some (ch :: n) => exact ⟨rfl, hr.keys, hr.distinct, hr.order, hr.found⟩

lemma store (hr : Reflects c h) (m : Method) : Reflects (c.store m) (h.store m) where
  name := hr.name
  keys := Entries.forall_mem_put rfl hr.keys
  distinct := Entries.nodup_put hr.distinct m.name m
  order := by
    rw [Holding.store, Entries.names_put, hr.order, c.names_store m]
  found name := by
    rw [Holding.store, c.find?_store m, ← hr.found]
    by_cases hm : m.name = name
    · simp [Holding.find?, hm]
    · simp [Holding.find?, hm, Entries.get?_put_of_ne (Ne.symm hm)]

lemma storeAll (hr : Reflects c h) (ms : List Method) :
    Reflects { c with stored := c.stored ++ ms } (ms.foldl Holding.store h) := by
  induction ms generalizing c h with
  | nil => simpa using hr
  | cons m ms ih => simpa [Chronicle.store] using ih (hr.store m)

lemma refuses_eq (hr : Reflects c h) (replace : Bool) : h.refuses m replace = c.refuses m replace := by
  have hhas : h.methods.has m.name = decide (m.name ∈ c.names) := by
    rw [← hr.order, ← Bool.coe_iff_coe, Entries.has_iff, decide_eq_true_iff]
  rw [Holding.refuses, Chronicle.refuses, hhas]

lemma find?_eq (hr : Reflects c h) : h.find? = c.find? := by
  funext name
  exact hr.found name

lemma lookup_eq (hr : Reflects c h) (key : Value) :
    (Registry.getBy h.find? key).map .method = c.lookup key := by
  rw [hr.find?_eq]
  cases key with
  | str name =>
    rw [Registry.getBy, Registry.findBy, Chronicle.lookup]
    cases c.find? name <;> rfl
  | _ =>
    dsimp only [Registry.getBy, Registry.findBy, Chronicle.lookup]
    generalize Value.unhashable? _ = typeName?
    cases typeName? <;> rfl

lemma membership_eq (hr : Reflects c h) (key : Value) :
    (Registry.findBy h.find? key).map (.holds ·.isSome) = c.membership key := by
  rw [hr.find?_eq]
  cases key with
  | str name => rfl
  | _ =>
    dsimp only [Registry.findBy, Chronicle.membership]
    generalize Value.unhashable? _ = typeName?
    cases typeName? <;> rfl

lemma entries_eq (hr : Reflects c h) : h.methods = c.entries := by
  have hkept : ∀ e ∈ h.methods, (c.find? e.1).map (e.1, ·) = some e := by
    intro e he
    rw [← hr.found, Holding.find?, Entries.get?_of_mem hr.distinct he]
    rfl
  rw [Chronicle.entries, ← hr.order, Entries.names, List.filterMap_map]
  exact ((List.filterMap_congr hkept).trans List.filterMap_some).symm

end Reflects

/-! ### The registry of a holding -/

section Registry

variable {m : Method} {methods : Entries Method} (hkeys : ∀ e ∈ methods, e.2.name = e.1)

include hkeys

lemma names_map_snd : (methods.map (·.2)).map (·.name) = methods.names := by
  rw [List.map_map]
  exact List.map_congr_left hkeys

lemma find?_map_snd (name : Text) :
    (methods.map (·.2)).find? (·.name == name) = methods.get? name := by
  induction methods with
  | nil => rfl
  | cons e rest ih =>
    obtain ⟨hkey, hrest⟩ := List.forall_mem_cons.mp hkeys
    by_cases hname : e.1 = name
    · simp [Entries.get?, hkey, hname]
    · simp [Entries.get?, hkey, hname, ← ih hrest]

lemma map_snd_put : (methods.put m.name m).map (·.2) =
    if m.name ∈ methods.names then Registry.replaced m (methods.map (·.2))
    else methods.map (·.2) ++ [m] := by
  induction methods with
  | nil => rfl
  | cons e rest ih =>
    obtain ⟨key, old⟩ := e
    obtain ⟨hkey, hrest⟩ := List.forall_mem_cons.mp hkeys
    replace hkey : old.name = key := hkey
    by_cases hname : key = m.name
    · simp [Entries.put, Registry.replaced, hkey, hname]
    · by_cases hm : m.name ∈ Entries.names rest
      · simp [Entries.put, Registry.replaced, hkey, hname, ih hrest, hm]
      · simp [Entries.put, hname, Ne.symm hname, ih hrest, hm]

end Registry

namespace Reflects

variable {c : Chronicle} {h : Holding} (hr : Reflects c h)

include hr

/-- The registry with the methods of a dictionary looks up as the dictionary does. -/
lemma get_registry (key : Value) : (h.registry.get key).map .method = c.lookup key := by
  have hfind : h.registry.find? = h.find? := by
    funext name
    exact find?_map_snd hr.keys name
  rw [Registry.get, hfind, hr.lookup_eq]

/-- Adding to the registry with the methods of a dictionary is storing in the dictionary. -/
lemma add_registry (m : Method) (replace : Bool) :
    h.registry.add m replace =
      if c.refuses m replace then .error (.alreadyRegistered m.name)
      else .ok (h.store m).registry := by
  rw [← hr.refuses_eq]
  have hnames : h.registry.names = h.methods.names := names_map_snd hr.keys
  have hput : (h.store m).registry = ⟨h.name, _⟩ :=
    congrArg (Registry.mk h.name) (map_snd_put hr.keys)
  rw [Registry.add, hnames]
  by_cases hm : m.name ∈ h.methods.names
  · have hhas : h.methods.has m.name = true := Entries.has_iff.mpr hm
    rw [if_pos hm] at hput ⊢
    cases replace with
    | false => simp [Holding.refuses, hhas]
    | true => rw [Holding.refuses, Bool.not_true, Bool.and_false, hput]; rfl
  · have hhas : h.methods.has m.name = false := Bool.eq_false_iff.mpr (mt Entries.has_iff.mp hm)
    rw [if_neg hm] at hput ⊢
    rw [Holding.refuses, hhas, Bool.false_and, hput]
    rfl

end Reflects

end ChainRpc
