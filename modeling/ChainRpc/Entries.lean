import ChainRpc.Text

/-!
# Entries

A list of named values in the order in which the names were first put. Putting a value under a name
that is there already keeps the place of the name.
-/

namespace ChainRpc

/-- Named values in order. -/
abbrev Entries (α : Type) := List (Text × α)

namespace Entries

variable {α β : Type}

/-- The first value under a name. -/
def get? (name : Text) : Entries α → Option α
  | [] => none
  | (key, value) :: rest => if key = name then some value else get? name rest

/-- Puts a value under a name: in the place of the old one, or at the end. -/
def put (name : Text) (value : α) : Entries α → Entries α
  | [] => [(name, value)]
  | (key, old) :: rest =>
    if key = name then (key, value) :: rest else (key, old) :: put name value rest

def putAll (entries : Entries α) : Entries α → Entries α
  | [] => entries
  | (name, value) :: rest => putAll (entries.put name value) rest

def names (entries : Entries α) : List Text :=
  entries.map (·.1)

def has (entries : Entries α) (name : Text) : Bool :=
  (get? name entries).isSome

@[simp] theorem get?_nil (name : Text) : get? name ([] : Entries α) = none := rfl

@[simp] theorem names_nil : names ([] : Entries α) = [] := rfl

@[simp] theorem names_cons (name : Text) (value : α) (rest : Entries α) :
    names ((name, value) :: rest) = name :: names rest := rfl

@[simp] theorem get?_put_self (name : Text) (value : α) (entries : Entries α) :
    get? name (put name value entries) = some value := by
  induction entries with
  | nil => simp [put, get?]
  | cons e rest ih =>
    by_cases h : e.1 = name
    · simp [put, get?, h]
    · simp [put, get?, h, ih]

theorem get?_put_of_ne {name other : Text} (h : other ≠ name) (value : α) (entries : Entries α) :
    get? other (put name value entries) = get? other entries := by
  induction entries with
  | nil => simp [put, get?, h.symm]
  | cons e rest ih =>
    by_cases he : e.1 = name
    · subst he
      simp [put, get?, h.symm]
    · simp [put, get?, he, ih]

theorem has_iff {name : Text} {entries : Entries α} : entries.has name ↔ name ∈ names entries := by
  induction entries with
  | nil => simp [has]
  | cons e rest ih =>
    by_cases h : e.1 = name
    · simp [has, get?, names, h]
    · have h' : ¬ name = e.1 := fun g => h g.symm
      simpa [has, get?, names, h, h'] using ih

/-- A name that is new goes to the end; another one keeps its place. -/
theorem names_put (name : Text) (value : α) (entries : Entries α) :
    names (put name value entries) =
      if name ∈ names entries then names entries else names entries ++ [name] := by
  induction entries with
  | nil => simp [put]
  | cons e rest ih =>
    obtain ⟨key, old⟩ := e
    by_cases h : key = name
    · simp [put, h]
    · have h' : ¬ name = key := fun g => h g.symm
      by_cases hr : name ∈ names rest
      · simp [put, h, ih, hr]
      · simp [put, h, h', ih, hr]

end Entries

end ChainRpc
