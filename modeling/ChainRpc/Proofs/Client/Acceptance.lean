import ChainRpc.Proofs.Client.Verbatim
import ChainRpc.Proofs.Shape.Fields
import ChainRpc.Proofs.Value.Fits
import Mathlib.Logic.Basic

/-!
# What is accepted as a response

A JSON value is a response if it is an object with exactly one outcome whose version, identifier and error
have the right form, whatever else there is in it. Of a value that is not nested too deep the checks accept
it exactly then, and a check that fails says why.
-/

namespace ChainRpc

/-! ### Depth -/

namespace Json

variable {name : Text} {items : List Json} {entries : Entries Json} {j : Json} {e : Text × Json}

lemma depth_le_of_mem_items (h : j ∈ items) : j.depth ≤ depthOfItems items := by
  induction items with
  | nil => cases h
  | cons item rest ih =>
    rw [depthOfItems]
    cases h with
    | head => exact Nat.le_max_left _ _
    | tail _ hrest => exact Nat.le_trans (ih hrest) (Nat.le_max_right _ _)

lemma depth_le_of_mem_entries (h : e ∈ entries) : e.2.depth ≤ depthOfEntries entries := by
  induction entries with
  | nil => cases h
  | cons entry rest ih =>
    rw [depthOfEntries]
    cases h with
    | head => exact Nat.le_max_left _ _
    | tail _ hrest => exact Nat.le_trans (ih hrest) (Nat.le_max_right _ _)

lemma depth_member_lt (name : Text) (entries : Entries Json) :
    (member name entries).depth < (dict entries).depth := by
  rw [depth, Nat.lt_succ_iff, member]
  cases hget : Entries.get? name entries with
  | none => exact Nat.zero_le _
  | some j => exact depth_le_of_mem_entries (Entries.mem_of_get? hget)

lemma depth_member_le (name : Text) {room : Nat} (h : (dict entries).depth ≤ room) :
    (member name entries).depth ≤ room :=
  Nat.le_of_lt (Nat.lt_of_lt_of_le (depth_member_lt name entries) h)

end Json

namespace Value

variable {room : Nat} {j : Json}

/-- A JSON value that is not nested too deep comes back, whatever its texts are. -/
lemma json?_ofJson_of_depth (h : j.depth < room) : json? room (ofJson j) = some j := by
  induction room generalizing j with
  | zero => cases h
  | succ room ih =>
    cases j with
    | list items =>
      have hitems : ∀ j ∈ items, j.depth < room := fun j hj =>
        Nat.lt_of_le_of_lt (Json.depth_le_of_mem_items hj) (Nat.lt_of_succ_lt_succ h)
      rw [ofJson, json?, jsonItems?_ofJsonItems fun j hj => ih (hitems j hj)]
      rfl
    | dict entries =>
      have hentries : ∀ e ∈ entries, e.2.depth < room := fun e he =>
        Nat.lt_of_le_of_lt (Json.depth_le_of_mem_entries he) (Nat.lt_of_succ_lt_succ h)
      rw [ofJson, json?, jsonEntries?_ofJsonEntries fun e he => ih (hentries e he)]
      rfl
    | _ => rfl

lemma toJson_ofJson_of_depth (h : j.depth < jsonRoom) : toJson (ofJson j) = .ok j := by
  rw [toJson, json?_ofJson_of_depth h]

end Value

/-! ### Checks that say why they fail -/

namespace Checked

variable {α β γ : Type} {x : Checked α} {y : Checked β}

/-- The check succeeds or names an issue. -/
def IsExplained (x : Checked α) : Prop :=
  x ≠ .error []

lemma isExplained_ok (a : α) : IsExplained (.ok a) :=
  nofun

lemma isExplained_here (cause : Cause) : IsExplained (.error (Issue.here cause) : Checked α) :=
  nofun

lemma isExplained_mapError_here (x : Except Cause α) : IsExplained (x.mapError Issue.here) := by
  cases x with
  | ok a => exact isExplained_ok a
  | error cause => exact isExplained_here cause

lemma IsExplained.map (h : IsExplained x) (f : α → β) : IsExplained (x.map f) := by
  cases x with
  | ok a => exact isExplained_ok (f a)
  | error issues =>
    rintro ⟨⟩
    exact h rfl

lemma IsExplained.under (h : IsExplained x) (step : Step) : IsExplained (x.under step) := by
  cases x with
  | ok a => exact isExplained_ok a
  | error issues =>
    intro hnone
    have hissues : issues = [] := List.map_eq_nil_iff.mp (Except.error.inj hnone)
    exact h (congrArg Except.error hissues)

lemma IsExplained.both (hx : IsExplained x) (hy : IsExplained y) : IsExplained (both x y) := by
  cases x with
  | ok a =>
    cases y with
    | ok b => exact isExplained_ok (a, b)
    | error issues =>
      rintro ⟨⟩
      exact hy rfl
  | error issues =>
    cases y with
    | ok b =>
      rintro ⟨⟩
      exact hx rfl
    | error others =>
      intro hnone
      have hissues : issues = [] := (List.append_eq_nil_iff.mp (Except.error.inj hnone)).1
      exact hx (congrArg Except.error hissues)

lemma exists_map_eq_ok_iff {f : α → β} : (∃ b, x.map f = .ok b) ↔ ∃ a, x = .ok a := by
  cases x <;> simp [Except.map]

lemma exists_both_eq_ok_iff : (∃ p, both x y = .ok p) ↔ (∃ a, x = .ok a) ∧ ∃ b, y = .ok b := by
  cases x <;> cases y <;> simp [both]

end Checked

namespace Member

open Checked

variable {α : Type} {entries : Entries Json} {name : Text} {check : Value → Checked α} {default : α} {j : Json}

lemma isExplained_required (h : ∀ v, IsExplained (check v)) :
    IsExplained (required (Value.ofJsonEntries entries) name check) := by
  unfold required
  split
  · exact (h _).under _
  · nofun

lemma isExplained_withDefault (h : IsExplained (check (.ofJson (Json.member name entries)))) :
    IsExplained (withDefault (Value.ofJsonEntries entries) name default check) := by
  rw [withDefault, Value.get?_ofJsonEntries]
  rw [Json.member] at h
  cases hget : Entries.get? name entries with
  | none => exact isExplained_ok default
  | some j =>
    rw [hget] at h
    exact h.under _

lemma isExplained_nullable {v : Value} (h : IsExplained (check v)) : IsExplained (nullable check v) := by
  cases v with
  | null => exact isExplained_ok none
  | _ => exact h.map some

lemma isExplained_checkText (v : Value) : IsExplained (checkText v) :=
  isExplained_mapError_here _

lemma isExplained_checkVersion (entries : Entries Json) :
    IsExplained (checkVersion (Value.ofJsonEntries entries)) := by
  refine isExplained_withDefault ?_
  unfold Shape.option
  split
  · split
    · exact isExplained_here _
    · split
      · exact isExplained_ok _
      · exact isExplained_here _
  · exact isExplained_here _

lemma exists_option_iff (t : Text) (ht : t.IsScalar) :
    (∃ u, Shape.option [t] (.ofJson j) = .ok u) ↔ j = .str t := by
  constructor
  · rintro ⟨u, h⟩
    obtain ⟨hu, -, hmem⟩ := Shape.option_eq_ok h
    obtain rfl := List.mem_singleton.mp hmem
    exact Value.eq_of_ofJson_eq j (k := .str u) hu
  · rintro rfl
    refine ⟨t, ?_⟩
    rw [Value.ofJson, Shape.option, if_neg (not_not.mpr ht), if_pos (List.mem_singleton_self t)]

/-- The version may be left out. -/
lemma exists_checkVersion_iff :
    (∃ found, checkVersion (Value.ofJsonEntries entries) = .ok found) ↔
      ∀ j, Entries.get? "jsonrpc" entries = some j → j = .str version := by
  rw [checkVersion, withDefault, Value.get?_ofJsonEntries]
  cases Entries.get? "jsonrpc" entries with
  | none =>
    refine iff_of_true ⟨version, rfl⟩ ?_
    rintro _ ⟨⟩
  | some j =>
    simp only [Option.map_some, under_eq_ok_iff, Option.some.injEq, forall_eq']
    exact exists_option_iff version (by decide)

lemma exists_nullable_iff :
    (∃ found, nullable check (.ofJson j) = .ok found) ↔ (j ≠ .null → ∃ a, check (.ofJson j) = .ok a) := by
  cases j with
  | null => exact iff_of_true ⟨none, rfl⟩ fun h => absurd rfl h
  | _ =>
    show (∃ found, Except.map some (check _) = .ok found) ↔ _
    rw [exists_map_eq_ok_iff]
    constructor
    · intro h _
      exact h
    · intro h
      apply h
      rintro ⟨⟩

/-- A JSON value is taken as it stands. -/
lemma withDefault_toJson (hdepth : (Json.dict entries).depth ≤ Value.jsonRoom) :
    withDefault (Value.ofJsonEntries entries) name Json.null Value.toJson =
      .ok (Json.member name entries) := by
  have hlt := Nat.lt_of_lt_of_le (Json.depth_member_lt name entries) hdepth
  have hnull : Value.toJson .null = .ok Json.null := rfl
  exact (withDefault_eq_ok_iff hnull).mpr (Value.toJson_ofJson_of_depth hlt)

lemma isExplained_toJson (name : Text) (hdepth : (Json.dict entries).depth ≤ Value.jsonRoom) :
    IsExplained (withDefault (Value.ofJsonEntries entries) name Json.null Value.toJson) := by
  rw [withDefault_toJson hdepth]
  exact isExplained_ok _

end Member

lemma RequestId.isExplained_ofValue (v : Value) : Checked.IsExplained (ofValue v) := by
  unfold ofValue
  split
  · exact Checked.isExplained_ok _
  · exact Checked.isExplained_ok _
  · split
    · exact Checked.isExplained_ok _
    · exact Checked.isExplained_ok _
    · exact nofun

/-! ### Error objects -/

namespace ErrorObject

open Checked

variable {members : Entries Json} {j : Json}

/-- The members are those of an error object: a code that is read as an integer and a message that is a text,
and whatever data. -/
structure IsFramed (members : Entries Json) : Prop where
  code : ∃ j n, Entries.get? "code" members = some j ∧ j.ReadsAsCode n
  message : ∃ t, Entries.get? "message" members = some (.str t)

lemma isFramed_iff_exists_checks :
    IsFramed members ↔
      (∃ n, Member.required (Value.ofJsonEntries members) "code"
        (fun v => (Lenient.int v).mapError Issue.here) = .ok n) ∧
      ∃ t, Member.required (Value.ofJsonEntries members) "message" Member.checkText = .ok t := by
  simp only [Member.required_eq_ok_iff, mapError_eq_ok_iff, Member.checkText_ofJson_eq_ok_iff,
    ← Json.readsAsCode_iff]
  constructor
  · rintro ⟨⟨j, n, hj, hn⟩, ⟨t, ht⟩⟩
    exact ⟨⟨n, j, hj, hn⟩, ⟨t, _, ht, rfl⟩⟩
  · rintro ⟨⟨n, j, hj, hn⟩, ⟨t, _, ht, rfl⟩⟩
    exact ⟨⟨j, n, hj, hn⟩, ⟨t, ht⟩⟩

lemma exists_ofValue_iff (hdepth : j.depth ≤ Value.jsonRoom) :
    (∃ e, ofValue (.ofJson j) = .ok e) ↔ ∃ members, j = .dict members ∧ IsFramed members := by
  cases j with
  | dict members =>
    show (∃ e, ofEntries (Value.ofJsonEntries members) = .ok e) ↔ _
    simp only [ofEntries, exists_map_eq_ok_iff, exists_both_eq_ok_iff, Member.withDefault_toJson hdepth,
      Json.dict.injEq, exists_eq_left', isFramed_iff_exists_checks]
    constructor
    · rintro ⟨hcode, hmessage, -⟩
      exact ⟨hcode, hmessage⟩
    · rintro ⟨hcode, hmessage⟩
      exact ⟨hcode, hmessage, _, rfl⟩
  | _ =>
    refine iff_of_false ?_ ?_
    · rintro ⟨_, ⟨⟩⟩
    · rintro ⟨_, ⟨⟩, _⟩

lemma isExplained_ofValue (hdepth : j.depth ≤ Value.jsonRoom) : IsExplained (ofValue (.ofJson j)) := by
  cases j with
  | dict members =>
    have hcode : IsExplained (Member.required (Value.ofJsonEntries members) "code"
        fun v => (Lenient.int v).mapError Issue.here) :=
      Member.isExplained_required fun v => isExplained_mapError_here _
    have hmessage : IsExplained (Member.required (Value.ofJsonEntries members) "message" Member.checkText) :=
      Member.isExplained_required Member.isExplained_checkText
    have hdata := Member.isExplained_toJson "data" hdepth
    exact (hcode.both (hmessage.both hdata)).map _
  | _ => exact isExplained_here _

end ErrorObject

/-! ### Responses -/

namespace Response

open Checked

variable {entries : Entries Json} {item : Json}

/-- The members are those of a response: either a result, be it null, or else an error that is not null; no
version but the one there is; as identifier null, a text or what amounts to an integer; and as error, unless
it is null, an error object. -/
structure IsFramed (entries : Entries Json) : Prop where
  oneOutcome : Xor (Entries.has entries "result" = true) (Json.member "error" entries ≠ .null)
  version : ∀ j, Entries.get? "jsonrpc" entries = some j → j = .str "2.0"
  id : ∃ found, (Json.member "id" entries).Identifies found
  error : Json.member "error" entries ≠ .null →
    ∃ members, Json.member "error" entries = .dict members ∧ ErrorObject.IsFramed members

lemma has_ofJsonEntries (name : Text) :
    Entries.has (Value.ofJsonEntries entries) name = Entries.has entries name := by
  rw [Entries.has, Value.get?_ofJsonEntries, Option.isSome_map]
  rfl

lemma hasValue_ofJsonEntries_iff (name : Text) :
    hasValue (Value.ofJsonEntries entries) name = true ↔ Json.member name entries ≠ .null := by
  rw [hasValue, Value.get?_ofJsonEntries, Json.member]
  cases Entries.get? name entries with
  | none => simp
  | some j => cases j <;> simp [Value.ofJson]

lemma oneOutcome_iff :
    Entries.has (Value.ofJsonEntries entries) "result" ≠ hasValue (Value.ofJsonEntries entries) "error" ↔
      Xor (Entries.has entries "result" = true) (Json.member "error" entries ≠ .null) := by
  rw [xor_iff_not_iff, ← hasValue_ofJsonEntries_iff, ← has_ofJsonEntries, ← Bool.eq_iff_iff]

lemma isFramed_iff_exists_checks (hdepth : (Json.dict entries).depth ≤ Value.jsonRoom) :
    IsFramed entries ↔
      Entries.has (Value.ofJsonEntries entries) "result" ≠ hasValue (Value.ofJsonEntries entries) "error" ∧
      ∃ response, ofMembers (Value.ofJsonEntries entries) = .ok response := by
  have herrorDepth := Json.depth_member_le "error" hdepth
  simp only [ofMembers, exists_map_eq_ok_iff, exists_both_eq_ok_iff, Member.withDefault_toJson hdepth,
    Member.withDefault_nullable_eq_ok_iff, Member.exists_checkVersion_iff, ← Json.identifies_iff,
    Member.exists_nullable_iff, ErrorObject.exists_ofValue_iff herrorDepth, oneOutcome_iff]
  constructor
  · rintro ⟨hone, hversion, hid, herror⟩
    exact ⟨hone, hversion, hid, ⟨_, rfl⟩, herror⟩
  · rintro ⟨hone, hversion, hid, -, herror⟩
    exact ⟨hone, hversion, hid, herror⟩

lemma exists_ofValue_iff (hdepth : item.depth ≤ Value.jsonRoom) :
    (∃ response, ofValue (.ofJson item) = .ok response) ↔
      ∃ entries, item = .dict entries ∧ IsFramed entries := by
  cases item with
  | dict entries =>
    simp only [Json.dict.injEq, exists_eq_left', isFramed_iff_exists_checks hdepth, Value.ofJson, ofValue]
    split
    · next hone =>
      refine iff_of_false ?_ fun h => h.1 hone
      rintro ⟨_, ⟨⟩⟩
    · next hone => exact (and_iff_right hone).symm
  | _ =>
    refine iff_of_false ?_ ?_
    · rintro ⟨_, ⟨⟩⟩
    · rintro ⟨_, ⟨⟩, _⟩

lemma isExplained_ofMembers (hdepth : (Json.dict entries).depth ≤ Value.jsonRoom) :
    IsExplained (ofMembers (Value.ofJsonEntries entries)) := by
  have hversion := Member.isExplained_checkVersion entries
  have hid : IsExplained (Member.withDefault (Value.ofJsonEntries entries) "id" none
      (Member.nullable RequestId.ofValue)) :=
    Member.isExplained_withDefault (Member.isExplained_nullable (RequestId.isExplained_ofValue _))
  have hresult := Member.isExplained_toJson "result" hdepth
  have herror : IsExplained (Member.withDefault (Value.ofJsonEntries entries) "error" none
      (Member.nullable ErrorObject.ofValue)) :=
    Member.isExplained_withDefault (Member.isExplained_nullable
      (ErrorObject.isExplained_ofValue (Json.depth_member_le "error" hdepth)))
  exact (hversion.both (hid.both (hresult.both herror))).map _

lemma isExplained_ofValue (hdepth : item.depth ≤ Value.jsonRoom) : IsExplained (ofValue (.ofJson item)) := by
  cases item with
  | dict entries =>
    rw [Value.ofJson, ofValue]
    split
    · exact isExplained_here _
    · exact isExplained_ofMembers hdepth
  | _ => exact isExplained_here _

lemma Keeps.isError_iff {sameId : Json → Option RequestId → Prop} {sameCode : Json → Int → Prop}
    {response : Response} (h : response.Keeps sameId sameCode entries) :
    response.isError = true ↔ Json.member "error" entries ≠ .null := by
  unfold isError
  cases hfound : response.error with
  | none => exact iff_of_false Bool.false_ne_true (not_not.mpr (h.noError hfound))
  | some e =>
    obtain ⟨members, hmember, -⟩ := h.error e hfound
    refine iff_of_true rfl ?_
    rw [hmember]
    rintro ⟨⟩

lemma IsFramed.result_eq_null (h : IsFramed entries) (herror : Json.member "error" entries ≠ .null) :
    Json.member "result" entries = .null := by
  have hnone : ¬ Entries.has entries "result" = true := fun hresult =>
    (xor_iff_iff_not.mp h.oneOutcome).mp hresult herror
  rw [Entries.has, Option.not_isSome_iff_eq_none] at hnone
  rw [Json.member, hnone]
  rfl

end Response

namespace Client

/-- A JSON value that is not nested too deep is accepted as a response exactly if it is an object with the
members of one. Any other is refused as no response, over one issue at least and without a code. A response
is one of failure exactly if it came with an error that is not null, and then it has no result. -/
theorem parse_accepts_iff {item : Json} (hdepth : item.depth ≤ Value.jsonRoom) :
    ((∃ response, parse item = .ok response) ↔
      ∃ entries, item = .dict entries ∧ Response.IsFramed entries) ∧
    (∀ e, parse item = .error e → e.code? = none ∧ ∃ issue rest, e = .notResponse (issue :: rest)) ∧
    ∀ response, parse item = .ok response → ∃ entries, item = .dict entries ∧
      (response.isError = true ↔ Json.member "error" entries ≠ .null) ∧
      (response.isError = true → response.result = .null) := by
  refine ⟨?_, ?_, ?_⟩
  · simp only [parse, Checked.mapError_eq_ok_iff]
    exact Response.exists_ofValue_iff hdepth
  · intro e h
    obtain ⟨issues, hissues, rfl⟩ := Checked.mapError_eq_error_iff.mp h
    cases issues with
    | nil => exact absurd hissues (Response.isExplained_ofValue hdepth)
    | cons issue rest => exact ⟨rfl, issue, rest, rfl⟩
  · intro response h
    have haccepted := Checked.mapError_eq_ok_iff.mp h
    obtain ⟨entries, rfl, hframed⟩ := (Response.exists_ofValue_iff hdepth).mp ⟨response, haccepted⟩
    obtain ⟨_, ⟨⟩, hkeeps⟩ := Response.keeps_of_ofValue haccepted
    refine ⟨entries, rfl, hkeeps.isError_iff, fun hfailed => ?_⟩
    rw [← hkeeps.result]
    exact hframed.result_eq_null (hkeeps.isError_iff.mp hfailed)

/-- A failure without a version, under a truth value, with a code that is a text and with members that no
response has. -/
def oddFailure : Entries Json := [
  ("id", .bool true), ("extra", .list [.null]),
  ("error", .dict [("code", .str " -7.0"), ("message", .str ""), ("more", .dict [])])]

lemma isFramed_oddFailure : Response.IsFramed oddFailure where
  oneOutcome := .inr ⟨nofun, nofun⟩
  version := nofun
  id := ⟨some (.int 1), .integer (.bool true)⟩
  error := by
    intro _
    refine ⟨_, rfl, ⟨.str " -7.0", -7, rfl, .inr ⟨_, rfl, by decide, rfl⟩⟩, "", rfl⟩

/-- It is accepted, but not with a result besides, even if that is null. -/
theorem parse_accepts_iff_oddFailure :
    (Json.dict (("result", .null) :: oddFailure)).depth ≤ Value.jsonRoom ∧
    (∃ response, parse (.dict oddFailure) = .ok response ∧ response.isError = true ∧
      response.result = .null) ∧
    ¬ ∃ response, parse (.dict (("result", .null) :: oddFailure)) = .ok response := by
  have hdepth : (Json.dict (("result", .null) :: oddFailure)).depth ≤ Value.jsonRoom := by decide
  have hodd : (Json.dict oddFailure).depth ≤ Value.jsonRoom := by decide
  refine ⟨hdepth, ?_, ?_⟩
  · obtain ⟨haccepts, -, herror⟩ := parse_accepts_iff hodd
    obtain ⟨response, hparse⟩ := haccepts.mpr ⟨oddFailure, rfl, isFramed_oddFailure⟩
    obtain ⟨_, ⟨⟩, hfailed, hresult⟩ := herror response hparse
    have hisError := hfailed.mpr nofun
    exact ⟨response, hparse, hisError, hresult hisError⟩
  · rw [(parse_accepts_iff hdepth).1]
    rintro ⟨_, ⟨⟩, hframed⟩
    exact (xor_iff_iff_not.mp hframed.oneOutcome).mp rfl nofun

end Client

end ChainRpc
