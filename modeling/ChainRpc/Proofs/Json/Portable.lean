import ChainRpc.Json.Writer
import ChainRpc.Proofs.Text.Clean
import ChainRpc.Proofs.Value.Fits
import ChainRpc.Proofs.Value.Legible

/-!
# JSON values that texts carry

A JSON value without floating-point numbers is carried by its text if its integers are within the digit
limit, its texts are of characters and the members of its objects have distinct names. Nothing of it then
stands in the way of writing it, and its text is one of characters, none of which is the null character.
A value with floating-point numbers is carried where the texts of these numbers are read as the numbers.
-/

namespace ChainRpc

/-- The JSON value is carried by its text, and at most `room` containers are nested in it. -/
inductive Json.Portable : (room : Nat) → Json → Prop
  | null {room : Nat} : Portable room .null
  | bool {room : Nat} (b : Bool) : Portable room (.bool b)
  | int {room : Nat} {n : Int} (h : IsShort n) : Portable room (.int n)
  | str {room : Nat} {t : Text} (h : t.IsScalar) : Portable room (.str t)
  | list {room : Nat} {items : List Json} (h : ∀ j ∈ items, Portable room j) :
    Portable (room + 1) (.list items)
  | dict {room : Nat} {entries : Entries Json} (hn : (Entries.names entries).Nodup)
    (hnames : ∀ e ∈ entries, e.1.IsScalar) (h : ∀ e ∈ entries, Portable room e.2) :
    Portable (room + 1) (.dict entries)

/-- The JSON value is carried by its text if floating-point numbers of a kind are, and at most `room`
containers are nested in it. -/
inductive Json.PortableWith (floats : Binary64 → Prop) : (room : Nat) → Json → Prop
  | null {room : Nat} : PortableWith floats room .null
  | bool {room : Nat} (b : Bool) : PortableWith floats room (.bool b)
  | int {room : Nat} {n : Int} (h : IsShort n) : PortableWith floats room (.int n)
  | float {room : Nat} {x : Binary64} (h : floats x) : PortableWith floats room (.float x)
  | str {room : Nat} {t : Text} (h : t.IsScalar) : PortableWith floats room (.str t)
  | list {room : Nat} {items : List Json} (h : ∀ j ∈ items, PortableWith floats room j) :
    PortableWith floats (room + 1) (.list items)
  | dict {room : Nat} {entries : Entries Json} (hn : (Entries.names entries).Nodup)
    (hnames : ∀ e ∈ entries, e.1.IsScalar) (h : ∀ e ∈ entries, PortableWith floats room e.2) :
    PortableWith floats (room + 1) (.dict entries)

namespace Json

variable {float : Binary64 → Text} {floats : Binary64 → Prop} {room room' : Nat} {j : Json} {t : Text}

/-! ### Writing -/

lemma escape_of_control : ∀ c < 0x20, (escape c).IsClean := by decide

lemma isClean_escape {c : CodePoint} (h : c.IsScalar) : (escape c).IsClean := by
  by_cases hcontrol : c < 0x20
  · exact escape_of_control c hcontrol
  · unfold escape
    split
    all_goals first | decide | skip
    rw [if_neg hcontrol]
    refine List.forall_mem_singleton.mpr ⟨h, ?_⟩
    rintro rfl
    exact hcontrol (by decide)

lemma isClean_writeString (h : t.IsScalar) : (writeString t).IsClean := by
  refine .append (.cons (by decide) fun c hc => ?_) (by decide)
  obtain ⟨d, hd, hc⟩ := List.mem_flatMap.mp hc
  exact isClean_escape (h d hd) c hc

lemma writeItems_eq (items : List Json) :
    writeItems float items =
      items.flatMap (fun j => .comma :: j.write float) ++ [CodePoint.closeBracket] := by
  induction items with
  | nil => rfl
  | cons j rest ih => simp [writeItems, ih]

lemma writeEntries_eq (entries : Entries Json) :
    writeEntries float entries =
      entries.flatMap (fun e => .comma :: writeString e.1 ++ .colon :: e.2.write float) ++
        [CodePoint.closeBrace] := by
  induction entries with
  | nil => rfl
  | cons e rest ih => simp [writeEntries, ih]

/-- An array is written as its items with commas between them. -/
lemma write_list (items : List Json) :
    write float (.list items) =
      .openBracket :: Text.joined "," (items.map (write float)) ++ [CodePoint.closeBracket] := by
  cases items with
  | nil => rfl
  | cons j rest =>
    rw [List.map_cons, Text.joined_cons, write, writeItems_eq, List.flatMap_map]
    simp only [List.cons_append, List.append_assoc]
    rfl

/-- An object is written as its members with commas between them. -/
lemma write_dict (entries : Entries Json) :
    write float (.dict entries) =
      .openBrace :: Text.joined "," (entries.map fun e =>
        writeString e.1 ++ .colon :: e.2.write float) ++ [CodePoint.closeBrace] := by
  cases entries with
  | nil => rfl
  | cons e rest =>
    rw [List.map_cons, Text.joined_cons, write, writeEntries_eq, List.flatMap_map]
    simp only [List.cons_append, List.append_assoc]
    rfl

lemma PortableWith.isClean_write (hfloats : ∀ x, floats x → (float x).IsClean)
    (h : j.PortableWith floats room) : (j.write float).IsClean := by
  induction h with
  | null => exact (by decide : Text.IsClean ("null" : Text))
  | bool b =>
    cases b with
    | true => exact (by decide : Text.IsClean ("true" : Text))
    | false => exact (by decide : Text.IsClean ("false" : Text))
  | int => exact Text.isClean_ofInt _
  | float hx => exact hfloats _ hx
  | str ht => exact isClean_writeString ht
  | list h ih =>
    rw [write_list]
    refine .append (.cons (by decide) (Text.isClean_joined (by decide) ?_)) (by decide)
    exact List.forall_mem_map.mpr ih
  | dict hn hnames h ih =>
    rw [write_dict]
    refine .append (.cons (by decide) (Text.isClean_joined (by decide) ?_)) (by decide)
    refine List.forall_mem_map.mpr fun e he => ?_
    exact (isClean_writeString (hnames e he)).append (.cons (by decide) (ih e he))

namespace Portable

lemma mono (h : j.Portable room) (hroom : room ≤ room') : j.Portable room' := by
  induction h generalizing room' with
  | null => exact .null
  | bool b => exact .bool b
  | int hn => exact .int hn
  | str ht => exact .str ht
  | list h ih =>
    obtain ⟨room', rfl⟩ := Nat.exists_eq_succ_of_ne_zero (by omega : room' ≠ 0)
    exact .list fun j hj => ih j hj (Nat.le_of_succ_le_succ hroom)
  | dict hn hnames h ih =>
    obtain ⟨room', rfl⟩ := Nat.exists_eq_succ_of_ne_zero (by omega : room' ≠ 0)
    exact .dict hn hnames fun e he => ih e he (Nat.le_of_succ_le_succ hroom)

/-- Without floating-point numbers it does not matter which of them are carried. -/
lemma with_floats (h : j.Portable room) : j.PortableWith floats room := by
  induction h with
  | null => exact .null
  | bool b => exact .bool b
  | int hn => exact .int hn
  | str ht => exact .str ht
  | list h ih => exact .list ih
  | dict hn hnames h ih => exact .dict hn hnames ih

lemma isClean_write (float : Binary64 → Text) (h : j.Portable room) :
    (j.write float).IsClean :=
  (h.with_floats : j.PortableWith (fun _ => False) room).isClean_write nofun

/-! ### Taking and showing -/

lemma fits (h : j.Portable room) : j.Fits room := by
  induction h with
  | null => exact .null
  | bool b => exact .bool b
  | int => exact .int _
  | str ht => exact .str ht.isWhole
  | list h ih => exact .list ih
  | dict hn hnames h ih => exact .dict (fun e he => (hnames e he).isWhole) ih

lemma isLegible (h : j.Portable room) : j.IsLegible := by
  induction h with
  | null | bool | str => exact nofun
  | int hn => exact List.forall_mem_singleton.mpr hn
  | list h ih => exact isLegible_list_iff.mpr ih
  | dict hn hnames h ih => exact isLegible_dict_iff.mpr ih

end Portable

end Json

end ChainRpc
