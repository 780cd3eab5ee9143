import ChainRpc.Proofs.Checked
import ChainRpc.Proofs.Messages
import ChainRpc.Proofs.Value.Plain

/-!
# Responses with results and errors

A response carries a result or an error object under an identifier. A client takes it for what it is, whatever
null values there are in it, unless its identifier is none or its result is nested too deep.
-/

namespace ChainRpc

/-- What a request is answered with. -/
inductive Outcome
  | result (j : Json)
  | error (e : ErrorObject)

lemma Member.withDefault_of_get? {α : Type} {entries : Entries Value} {name : Text} {default a : α}
    {check : Value → Checked α} {v : Value} (hget : entries.get? name = some v)
    (hcheck : check v = .ok a) : withDefault entries name default check = .ok a := by
  rw [withDefault, hget]
  show (check v).under (.name name) = .ok a
  rw [hcheck]
  rfl

namespace ErrorObject

variable {e : ErrorObject}

/-- An error object that a value was checked to be has data that are checked again. -/
lemma toJson_data_of_ofEntries {entries : Entries Value} (h : ofEntries entries = .ok e) :
    Value.toJson (.ofJson e.data) = .ok e.data := by
  obtain ⟨code, ⟨message, data⟩, -, hmembers, rfl⟩ := Checked.map_both_eq_ok_iff.mp h
  obtain ⟨-, hdata⟩ := Checked.both_eq_ok_iff.mp hmembers
  unfold Member.withDefault at hdata
  split at hdata
  · next v _ =>
    have hv := Checked.under_eq_ok_iff.mp hdata
    show Value.toJson (.ofJson data) = .ok data
    rw [Value.ofJson_of_toJson hv, hv]
  · cases hdata
    rfl

lemma ofEntries_members (hdata : Value.toJson (.ofJson e.data) = .ok e.data) :
    ofEntries [("code", .int e.code), ("message", .str e.message), ("data", .ofJson e.data)] =
      .ok e := by
  let entries : Entries Value :=
    [("code", .int e.code), ("message", .str e.message), ("data", .ofJson e.data)]
  have hdata' : Member.withDefault entries "data" Json.null Value.toJson = .ok e.data :=
    Member.withDefault_of_get? rfl hdata
  rw [ofEntries, hdata']
  rfl

/-- An error object is taken for itself. -/
lemma ofValue_toJson (hdata : Value.toJson (.ofJson e.data) = .ok e.data) :
    ofValue (.ofJson e.toJson) = .ok e := by
  rw [toJson]
  split
  · next hnull =>
    obtain ⟨code, message, data⟩ := e
    obtain rfl : data = .null := hnull
    rfl
  · exact ofEntries_members hdata

lemma exists_ofJson_toJson (e : ErrorObject) : ∃ fields, Value.ofJson e.toJson = .dict fields := by
  rw [toJson]
  split <;> exact ⟨_, rfl⟩

lemma nullable_toJson (hdata : Value.toJson (.ofJson e.data) = .ok e.data) :
    Member.nullable ofValue (.ofJson e.toJson) = .ok (some e) := by
  have hvalue := ofValue_toJson hdata
  obtain ⟨fields, hfields⟩ := exists_ofJson_toJson e
  rw [hfields] at hvalue ⊢
  show (ofValue (.dict fields)).map some = .ok (some e)
  rw [hvalue]
  rfl

/-- The members of an error object: what holds of its code, its message and its data holds of each. -/
lemma toJson_eq_dict {P : Json → Prop} (hcode : P (.int e.code)) (hmessage : P (.str e.message))
    (hdata : P e.data) :
    ∃ entries : Entries Json, e.toJson = .dict entries ∧ (Entries.names entries).Nodup ∧
      (∀ m ∈ entries, m.1.IsScalar) ∧ ∀ m ∈ entries, P m.2 := by
  rw [toJson]
  split
  · refine ⟨_, rfl, by simp [Entries.names]; decide, ?_, ?_⟩
    · simp only [List.forall_mem_cons]
      exact ⟨by decide, by decide, List.forall_mem_nil _⟩
    · simp only [List.forall_mem_cons]
      exact ⟨hcode, hmessage, List.forall_mem_nil _⟩
  · refine ⟨_, rfl, by simp [Entries.names]; decide, ?_, ?_⟩
    · simp only [List.forall_mem_cons]
      exact ⟨by decide, by decide, by decide, List.forall_mem_nil _⟩
    · simp only [List.forall_mem_cons]
      exact ⟨hcode, hmessage, hdata, List.forall_mem_nil _⟩

end ErrorObject

namespace Response

/-- A response as JSON: an outcome under an identifier. -/
def withOutcome (id : Json) : Outcome → Json
  | .result j => .dict [("jsonrpc", .str Member.version), ("id", id), ("result", j)]
  | .error e  => .dict [("jsonrpc", .str Member.version), ("id", id), ("error", e.toJson)]

variable {id j : Json} {found : Option RequestId} {e : ErrorObject} {outcome : Outcome}

/-- The members of a response: what holds of the version, the identifier and the outcome holds of each. -/
lemma withOutcome_eq_dict {P : Json → Prop} (hversion : P (.str Member.version)) (hid : P id)
    (hresult : ∀ j, outcome = .result j → P j) (herror : ∀ e, outcome = .error e → P e.toJson) :
    ∃ entries : Entries Json, withOutcome id outcome = .dict entries ∧
      (Entries.names entries).Nodup ∧ (∀ m ∈ entries, m.1.IsScalar) ∧ ∀ m ∈ entries, P m.2 := by
  cases outcome with
  | result j =>
    refine ⟨_, rfl, by simp [Entries.names]; decide, ?_, ?_⟩
    · simp only [List.forall_mem_cons]
      exact ⟨by decide, by decide, by decide, List.forall_mem_nil _⟩
    · simp only [List.forall_mem_cons]
      exact ⟨hversion, hid, hresult j rfl, List.forall_mem_nil _⟩
  | error e =>
    refine ⟨_, rfl, by simp [Entries.names]; decide, ?_, ?_⟩
    · simp only [List.forall_mem_cons]
      exact ⟨by decide, by decide, by decide, List.forall_mem_nil _⟩
    · simp only [List.forall_mem_cons]
      exact ⟨hversion, hid, herror e rfl, List.forall_mem_nil _⟩

lemma parse_withResult (hid : Member.nullable RequestId.ofValue (.ofJson id) = .ok found)
    (hj : Value.toJson (.ofJson j) = .ok j) :
    Client.parse (withOutcome id (.result j)) = .ok ⟨found, j, none⟩ := by
  let entries : Entries Value := [("jsonrpc", .str Member.version), ("id", .ofJson id),
    ("result", .ofJson j)]
  have hversion : Member.checkVersion entries = .ok Member.version := rfl
  have hid' : Member.withDefault entries "id" none (Member.nullable RequestId.ofValue) = .ok found :=
    Member.withDefault_of_get? rfl hid
  have hresult : Member.withDefault entries "result" Json.null Value.toJson = .ok j :=
    Member.withDefault_of_get? rfl hj
  have herror : Member.withDefault entries "error" none (Member.nullable ErrorObject.ofValue) =
      .ok none := rfl
  have hmembers : ofMembers entries = .ok ⟨found, j, none⟩ := by
    simp only [ofMembers, hversion, hid', hresult, herror]
    rfl
  show (ofMembers entries).mapError _ = _
  rw [hmembers]
  rfl

/-- A client takes no result that is nested too deep. -/
lemma toJson_of_parse {response : Response}
    (h : Client.parse (withOutcome id (.result j)) = .ok response) :
    Value.toJson (.ofJson j) = .ok j := by
  let entries : Entries Value := [("jsonrpc", .str Member.version), ("id", .ofJson id),
    ("result", .ofJson j)]
  have hmembers : ofMembers entries = .ok response := Checked.mapError_eq_ok_iff.mp h
  obtain ⟨version, ⟨i, result, error⟩, -, hboth, -⟩ := Checked.map_both_eq_ok_iff.mp hmembers
  obtain ⟨-, hboth⟩ := Checked.both_eq_ok_iff.mp hboth
  obtain ⟨hresult, -⟩ := Checked.both_eq_ok_iff.mp hboth
  have hj : Value.toJson (.ofJson j) = .ok result := Checked.under_eq_ok_iff.mp hresult
  rw [hj, Value.eq_of_toJson_ofJson hj]

lemma parse_withError (hid : Member.nullable RequestId.ofValue (.ofJson id) = .ok found)
    (hdata : Value.toJson (.ofJson e.data) = .ok e.data) :
    Client.parse (withOutcome id (.error e)) = .ok ⟨found, .null, some e⟩ := by
  let entries : Entries Value := [("jsonrpc", .str Member.version), ("id", .ofJson id),
    ("error", .ofJson e.toJson)]
  have hversion : Member.checkVersion entries = .ok Member.version := rfl
  have hid' : Member.withDefault entries "id" none (Member.nullable RequestId.ofValue) = .ok found :=
    Member.withDefault_of_get? rfl hid
  have hresult : Member.withDefault entries "result" Json.null Value.toJson = .ok .null := rfl
  have herror : Member.withDefault entries "error" none (Member.nullable ErrorObject.ofValue) =
      .ok (some e) := Member.withDefault_of_get? rfl (ErrorObject.nullable_toJson hdata)
  have hmembers : ofMembers entries = .ok ⟨found, .null, some e⟩ := by
    simp only [ofMembers, hversion, hid', hresult, herror]
    rfl
  have hvalue : ofValue (.dict entries) = .ok ⟨found, .null, some e⟩ := by
    obtain ⟨fields, hfields⟩ := e.exists_ofJson_toJson
    rw [ofValue, if_neg, hmembers]
    show ¬ false = hasValue [("jsonrpc", .str Member.version), ("id", .ofJson id),
      ("error", .ofJson e.toJson)] "error"
    rw [hfields]
    exact Bool.false_ne_true
  show (ofValue (.dict entries)).mapError _ = _
  rw [hvalue]
  rfl

end Response

end ChainRpc
