import ChainRpc.Envelope
import ChainRpc.Proofs.Checked
import ChainRpc.Proofs.Value.Plain

/-!
# Members of envelopes

A member of an envelope is checked under its name, and where it may be left out it is as good as null. Texts
and JSON values are taken as they stand. What is read as an integer need not be one, and an identifier may be
taken for an integer that it is not.
-/

namespace ChainRpc

/-- The value of a JSON object under a name, null if there is none. -/
def Json.member (name : Text) (entries : Entries Json) : Json :=
  (Entries.get? name entries).getD .null

lemma Json.get?_of_member {name : Text} {entries : Entries Json} {j : Json}
    (h : member name entries = j) (hj : j ≠ .null) : Entries.get? name entries = some j := by
  unfold member at h
  cases hget : Entries.get? name entries with
  | some found =>
    rw [hget] at h
    exact congrArg some h
  | none =>
    rw [hget] at h
    exact absurd h.symm hj

namespace Member

variable {α : Type} {entries : Entries Json} {name : Text} {check : Value → Checked α} {default a : α}

lemma required_eq_ok_iff :
    required (Value.ofJsonEntries entries) name check = .ok a ↔
      ∃ j, Entries.get? name entries = some j ∧ check (.ofJson j) = .ok a := by
  rw [required, Value.get?_ofJsonEntries]
  cases Entries.get? name entries with
  | some j => simp
  | none => simp

lemma withDefault_eq_ok_iff (hnull : check .null = .ok default) :
    withDefault (Value.ofJsonEntries entries) name default check = .ok a ↔
      check (.ofJson (Json.member name entries)) = .ok a := by
  rw [withDefault, Json.member, Value.get?_ofJsonEntries]
  cases Entries.get? name entries with
  | some j => exact Checked.under_eq_ok_iff
  | none =>
    show Except.ok default = _ ↔ check .null = _
    rw [hnull]

lemma withDefault_nullable_eq_ok_iff {found : Option α} :
    withDefault (Value.ofJsonEntries entries) name none (nullable check) = .ok found ↔
      nullable check (.ofJson (Json.member name entries)) = .ok found :=
  withDefault_eq_ok_iff rfl

lemma eq_member_of_withDefault {j : Json}
    (h : withDefault (Value.ofJsonEntries entries) name Json.null Value.toJson = .ok j) :
    j = Json.member name entries := by
  have hnull : Value.toJson .null = .ok Json.null := rfl
  exact Value.eq_of_toJson_ofJson ((withDefault_eq_ok_iff hnull).mp h)

lemma nullable_eq_ok_none_iff {v : Value} : nullable check v = .ok none ↔ v = .null := by
  cases v with
  | null => exact iff_of_true rfl rfl
  | _ => simp [nullable]

lemma nullable_eq_ok_some_iff {v : Value} :
    nullable check v = .ok (some a) ↔ v ≠ .null ∧ check v = .ok a := by
  cases v with
  | null => simp [nullable]
  | _ => simp [nullable]

lemma checkText_ofJson_eq_ok_iff {j : Json} {t : Text} :
    checkText (.ofJson j) = .ok t ↔ j = .str t := by
  rw [checkText, Checked.mapError_eq_ok_iff]
  cases j <;> simp [Value.ofJson, Lenient.text]

end Member

/-! ### Integers and identifiers -/

/-- The integer that a JSON value amounts to: itself, zero or one for a truth value, and what a floating-point
number without a fraction equals, within 64 bits. -/
inductive Json.AmountsTo : Json → Int → Prop
  | int (n : Int) : AmountsTo (.int n) n
  | bool (b : Bool) : AmountsTo (.bool b) b.toNat
  | float {x : Binary64} {n : Int} (h : x.toInt? = some n) (hn : n.natAbs < 2 ^ 63) :
    AmountsTo (.float x) n

lemma Lenient.intOfFloat_eq_ok_iff {x : Binary64} {n : Int} :
    intOfFloat x = .ok n ↔ x.toInt? = some n ∧ n.natAbs < 2 ^ 63 := by
  cases x with
  | finite negative e f =>
    have hfinite : ¬ ¬ (Binary64.finite negative e f).isFinite := not_not.mpr rfl
    rw [intOfFloat, if_neg hfinite]
    cases (Binary64.finite negative e f).toInt? with
    | none => exact iff_of_false nofun fun h => nomatch h.1
    | some m =>
      dsimp only
      split
      · constructor
        · intro h
          cases h
          exact ⟨rfl, by omega⟩
        · rintro ⟨h, -⟩
          cases h
          rfl
      · refine iff_of_false nofun fun ⟨h, hn⟩ => ?_
        cases h
        omega
  | _ => exact iff_of_false nofun fun h => nomatch h.1

lemma Json.amountsTo_iff {j : Json} {n : Int} :
    j.AmountsTo n ↔ (∀ t, j ≠ .str t) ∧ Lenient.int (.ofJson j) = .ok n := by
  constructor
  · intro h
    cases h with
    | int n => exact ⟨nofun, rfl⟩
    | bool b => exact ⟨nofun, rfl⟩
    | float h hn => exact ⟨nofun, Lenient.intOfFloat_eq_ok_iff.mpr ⟨h, hn⟩⟩
  · rintro ⟨htext, h⟩
    cases j with
    | int m =>
      cases h
      exact .int n
    | bool b =>
      cases h
      exact .bool b
    | float x =>
      obtain ⟨h, hn⟩ := Lenient.intOfFloat_eq_ok_iff.mp h
      exact .float h hn
    | str t => exact absurd rfl (htext t)
    | _ => cases h

lemma Json.AmountsTo.unique {j : Json} {m n : Int} (hm : j.AmountsTo m) (hn : j.AmountsTo n) : m = n := by
  have hread := (amountsTo_iff.mp hm).2.symm.trans (amountsTo_iff.mp hn).2
  exact Except.ok.inj hread

/-- The code that a JSON value is read as: the integer that it amounts to, or that it spells. -/
def Json.ReadsAsCode (j : Json) (n : Int) : Prop :=
  j.AmountsTo n ∨ ∃ t : Text, j = .str t ∧ t.IsScalar ∧ Lenient.intOfText t = .ok n

lemma Json.readsAsCode_iff {j : Json} {n : Int} :
    j.ReadsAsCode n ↔ Lenient.int (.ofJson j) = .ok n := by
  by_cases htext : ∃ t, j = .str t
  · obtain ⟨t, rfl⟩ := htext
    rw [Value.ofJson, Lenient.int]
    constructor
    · rintro (h | ⟨_, heq, ht, hn⟩)
      · cases h
      · cases heq
        rw [if_pos ht, hn]
    · intro h
      split at h
      · next ht => exact .inr ⟨t, rfl, ht, h⟩
      · cases h
  · rw [not_exists] at htext
    rw [ReadsAsCode, amountsTo_iff]
    constructor
    · rintro (⟨-, h⟩ | ⟨t, heq, -⟩)
      · exact h
      · exact absurd heq (htext t)
    · intro h
      exact .inl ⟨htext, h⟩

namespace RequestId

variable {j : Json} {id : RequestId}

/-- A text identifies as it stands, and what amounts to an integer as that integer. -/
lemma ofValue_ofJson_eq_ok_iff :
    ofValue (.ofJson j) = .ok id ↔
      (∃ t, j = .str t ∧ id = .str t) ∨ ∃ n, j.AmountsTo n ∧ id = .int n := by
  constructor
  · intro h
    cases j with
    | int n =>
      cases h
      exact .inr ⟨n, .int n, rfl⟩
    | str t =>
      cases h
      exact .inl ⟨t, rfl, rfl⟩
    | bool b =>
      cases h
      exact .inr ⟨_, .bool b, rfl⟩
    | float x =>
      cases hint : Lenient.int (.float x) with
      | ok n =>
        simp only [Value.ofJson, ofValue, hint] at h
        cases h
        obtain ⟨hx, hshort⟩ := Lenient.intOfFloat_eq_ok_iff.mp hint
        exact .inr ⟨n, .float hx hshort, rfl⟩
      | error cause =>
        simp only [Value.ofJson, ofValue, hint, Lenient.text] at h
        cases h
    | _ => cases h
  · rintro (⟨t, rfl, rfl⟩ | ⟨n, h, rfl⟩)
    · rfl
    · obtain ⟨-, hint⟩ := Json.amountsTo_iff.mp h
      cases h with
      | int n => rfl
      | bool b => rfl
      | float _ _ =>
        simp only [Value.ofJson] at hint
        simp only [Value.ofJson, ofValue, hint]

/-- An identifier is taken as it stands if it is an integer or a text; a truth value or a floating-point
number is taken for an integer of few digits. -/
lemma of_ofValue_ofJson (h : ofValue (.ofJson j) = .ok id) :
    j = id.toJson ∨ ∃ n : Int, id = .int n ∧ n.natAbs < 2 ^ 63 ∧
      ((∃ b, j = .bool b) ∨ ∃ x, j = .float x) := by
  rcases ofValue_ofJson_eq_ok_iff.mp h with ⟨t, rfl, rfl⟩ | ⟨n, hn, rfl⟩
  · exact .inl rfl
  · cases hn with
    | int n => exact .inl rfl
    | bool b => exact .inr ⟨_, rfl, by cases b <;> decide, .inl ⟨b, rfl⟩⟩
    | float _ hshort => exact .inr ⟨n, rfl, hshort, .inr ⟨_, rfl⟩⟩

end RequestId

end ChainRpc
