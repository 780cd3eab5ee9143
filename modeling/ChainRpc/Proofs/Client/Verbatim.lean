import ChainRpc.Proofs.Client.Attribution

/-!
# What is kept of a response

The result of a response, and the message and the data of its error, are what the node wrote. So are an
identifier that is an integer or a text, and a code that is an integer; any other is replaced by the integer
that it is read as. So a response can go by the identifier of a request that it does not carry.
-/

namespace ChainRpc

/-- What identifies a response: nothing, a text as it stands, or the integer that it amounts to. -/
inductive Json.Identifies : Json → Option RequestId → Prop
  | null : Identifies .null none
  | text (t : Text) : Identifies (.str t) (some (.str t))
  | integer {j : Json} {n : Int} (h : j.AmountsTo n) : Identifies j (some (.int n))

lemma Json.identifies_iff {j : Json} {id : Option RequestId} :
    j.Identifies id ↔ Member.nullable RequestId.ofValue (.ofJson j) = .ok id := by
  cases id with
  | none =>
    rw [Member.nullable_eq_ok_none_iff]
    constructor
    · rintro ⟨⟩
      rfl
    · intro h
      cases j with
      | null => exact .null
      | _ => cases h
  | some id =>
    rw [Member.nullable_eq_ok_some_iff, RequestId.ofValue_ofJson_eq_ok_iff]
    constructor
    · intro h
      cases h with
      | text t => exact ⟨nofun, .inl ⟨t, rfl, rfl⟩⟩
      | @integer _ n h => exact ⟨by cases h <;> nofun, .inr ⟨n, h, rfl⟩⟩
    · rintro ⟨-, ⟨t, rfl, rfl⟩ | ⟨n, h, rfl⟩⟩
      · exact .text t
      · exact .integer h

lemma Json.Identifies.eq_int_iff {j : Json} {id : Option RequestId} {n : Int} (h : j.Identifies id) :
    id = some (.int n) ↔ j.AmountsTo n := by
  constructor
  · rintro rfl
    cases h with
    | integer hn => exact hn
  · intro hn
    cases h with
    | null => cases hn
    | text t => cases hn
    | integer hm => rw [hm.unique hn]

lemma Json.Identifies.eq_of_plain {j : Json} {id : Option RequestId} (h : j.Identifies id)
    (hplain : j = .null ∨ (∃ n, j = .int n) ∨ ∃ t, j = .str t) :
    j = (id.map RequestId.toJson).getD .null := by
  rcases hplain with rfl | ⟨n, rfl⟩ | ⟨t, rfl⟩
  · cases h with
    | null => rfl
    | integer hn => cases hn
  · cases h with
    | integer hn =>
      cases hn
      rfl
  · cases h with
    | text => rfl
    | integer hn => cases hn

lemma Client.plain_member {entries : Entries Json} (h : HasPlainId (.dict entries)) :
    Json.member "id" entries = .null ∨ (∃ n, Json.member "id" entries = .int n) ∨
      ∃ t, Json.member "id" entries = .str t := by
  unfold Json.member
  cases hget : Entries.get? "id" entries with
  | none => exact .inl rfl
  | some id => exact h entries id rfl hget

/-! ### Members that are kept -/

/-- The error object has the members as they stand, and the code in the given sense. -/
structure ErrorObject.Keeps (sameCode : Json → Int → Prop) (members : Entries Json) (e : ErrorObject) :
    Prop where
  code : ∃ j, Entries.get? "code" members = some j ∧ sameCode j e.code
  message : Entries.get? "message" members = some (.str e.message)
  data : Json.member "data" members = e.data

/-- The response has the members as they stand, null for what is absent, and the identifier and the code of
its error in the given senses. -/
structure Response.Keeps (sameId : Json → Option RequestId → Prop) (sameCode : Json → Int → Prop)
    (entries : Entries Json) (response : Response) : Prop where
  id : sameId (Json.member "id" entries) response.id
  result : Json.member "result" entries = response.result
  noError : response.error = none → Json.member "error" entries = .null
  error : ∀ e, response.error = some e →
    ∃ members, Json.member "error" entries = .dict members ∧ e.Keeps sameCode members

/-- The response has all members as they stand. -/
def Response.IsVerbatim (entries : Entries Json) (response : Response) : Prop :=
  response.Keeps (fun j id => j = (id.map RequestId.toJson).getD .null) (fun j n => j = .int n) entries

/-- The code of an error in a response, if it carries one, is an integer. -/
def Client.HasPlainCode (item : Json) : Prop :=
  ∀ entries members code, item = .dict entries → Entries.get? "error" entries = some (.dict members) →
    Entries.get? "code" members = some code → ∃ n, code = .int n

lemma ErrorObject.keeps_of_ofValue {j : Json} {e : ErrorObject} (h : ofValue (.ofJson j) = .ok e) :
    ∃ members, j = .dict members ∧ e.Keeps Json.ReadsAsCode members := by
  cases j with
  | dict members =>
    obtain ⟨code, ⟨message, data⟩, hcode, hrest, rfl⟩ := Checked.map_both_eq_ok_iff.mp
      (show ofEntries (Value.ofJsonEntries members) = .ok e from h)
    obtain ⟨hmessage, hdata⟩ := Checked.both_eq_ok_iff.mp hrest
    obtain ⟨found, hfound, hcode⟩ := Member.required_eq_ok_iff.mp hcode
    obtain ⟨text, htext, hmessage⟩ := Member.required_eq_ok_iff.mp hmessage
    rw [Member.checkText_ofJson_eq_ok_iff] at hmessage
    have hreads := Json.readsAsCode_iff.mpr (Checked.mapError_eq_ok_iff.mp hcode)
    exact ⟨members, rfl, ⟨found, hfound, hreads⟩, hmessage ▸ htext,
      (Member.eq_member_of_withDefault hdata).symm⟩
  | _ => cases h

namespace Response

variable {item : Json} {response : Response} {entries : Entries Json}

/-- A response has its result, and its error the message and the data, from the object. -/
lemma keeps_of_ofValue (h : ofValue (.ofJson item) = .ok response) :
    ∃ entries, item = .dict entries ∧ response.Keeps Json.Identifies Json.ReadsAsCode entries := by
  cases item with
  | dict entries =>
    rw [Value.ofJson, ofValue] at h
    split at h
    · cases h
    · obtain ⟨version, ⟨id, result, error⟩, -, hmembers, rfl⟩ := Checked.map_both_eq_ok_iff.mp h
      obtain ⟨hid, hmembers⟩ := Checked.both_eq_ok_iff.mp hmembers
      obtain ⟨hresult, herror⟩ := Checked.both_eq_ok_iff.mp hmembers
      rw [Member.withDefault_nullable_eq_ok_iff] at hid herror
      refine ⟨entries, rfl, Json.identifies_iff.mpr hid, (Member.eq_member_of_withDefault hresult).symm,
        ?_, ?_⟩
      · intro hnone
        obtain rfl : error = none := hnone
        exact Value.eq_of_ofJson_eq _ (Member.nullable_eq_ok_none_iff.mp herror)
      · intro e hsome
        obtain rfl : error = some e := hsome
        exact ErrorObject.keeps_of_ofValue (Member.nullable_eq_ok_some_iff.mp herror).2
  | _ => cases h

lemma hasPlainId_of_isVerbatim (h : response.IsVerbatim entries) : Client.HasPlainId (.dict entries) := by
  rintro _ id ⟨⟩ hget
  have hid : id = (response.id.map RequestId.toJson).getD .null := by
    rw [← h.id, Json.member, hget]
    rfl
  cases hfound : response.id with
  | none =>
    rw [hfound] at hid
    exact .inl hid
  | some found =>
    rw [hfound] at hid
    cases found with
    | int n => exact .inr (.inl ⟨n, hid⟩)
    | str t => exact .inr (.inr ⟨t, hid⟩)

lemma hasPlainCode_of_isVerbatim (h : response.IsVerbatim entries) :
    Client.HasPlainCode (.dict entries) := by
  rintro _ members code ⟨⟩ herror hcode
  have hmember : Json.member "error" entries = .dict members := by
    rw [Json.member, herror]
    rfl
  cases hfound : response.error with
  | none => cases hmember.symm.trans (h.noError hfound)
  | some e =>
    obtain ⟨_, hmember', hkeeps⟩ := h.error e hfound
    cases hmember.symm.trans hmember'
    obtain ⟨j, hj, rfl⟩ := hkeeps.code
    cases hcode.symm.trans hj
    exact ⟨_, rfl⟩

lemma isVerbatim_of_plain (h : response.Keeps Json.Identifies Json.ReadsAsCode entries)
    (hid : Client.HasPlainId (.dict entries)) (hcode : Client.HasPlainCode (.dict entries)) :
    response.IsVerbatim entries where
  id := h.id.eq_of_plain (Client.plain_member hid)
  result := h.result
  noError := h.noError
  error := by
    intro e he
    obtain ⟨members, hmember, hkeeps⟩ := h.error e he
    obtain ⟨j, hj, hreads⟩ := hkeeps.code
    have hget := Json.get?_of_member hmember (by rintro ⟨⟩)
    obtain ⟨n, rfl⟩ := hcode entries members j rfl hget hj
    refine ⟨members, hmember, ⟨_, hj, ?_⟩, hkeeps.message, hkeeps.data⟩
    rcases hreads with hreads | ⟨_, heq, -⟩
    · cases hreads
      rfl
    · cases heq

end Response

namespace Client

/-- A response that is accepted is kept as it stands, except for an identifier and a code that are replaced by
the integers that they are read as: it is verbatim exactly if the identifier, if any, is an integer or a text,
and the code of an error an integer. It goes by an integer exactly if its identifier amounts to that. -/
theorem parse_is_verbatim_iff {item : Json} {response : Response} (h : parse item = .ok response) :
    ∃ entries, item = .dict entries ∧ response.Keeps Json.Identifies Json.ReadsAsCode entries ∧
      (response.IsVerbatim entries ↔ HasPlainId item ∧ HasPlainCode item) ∧
      ∀ n, response.id = some (.int n) ↔ (Json.member "id" entries).AmountsTo n := by
  obtain ⟨entries, rfl, hkeeps⟩ := Response.keeps_of_ofValue (Checked.mapError_eq_ok_iff.mp h)
  refine ⟨entries, rfl, hkeeps, ?_, fun n => hkeeps.id.eq_int_iff⟩
  constructor
  · intro hverbatim
    exact ⟨Response.hasPlainId_of_isVerbatim hverbatim, Response.hasPlainCode_of_isVerbatim hverbatim⟩
  · rintro ⟨hid, hcode⟩
    exact Response.isVerbatim_of_plain hkeeps hid hcode

/-- An error whose code is a text. -/
def textCode : Entries Json := [
  ("jsonrpc", .str Member.version), ("id", .int 1),
  ("error", .dict [("code", .str "7"), ("message", .str "m")])]

/-- The code of the error comes as an integer, and only it is not kept. -/
theorem parse_is_verbatim_iff_textCode :
    ∃ response, parse (.dict textCode) = .ok response ∧ response.error = some ⟨7, "m", .null⟩ ∧
      response.id = some (.int 1) ∧ HasPlainId (.dict textCode) ∧ ¬ response.IsVerbatim textCode := by
  have hparse : parse (.dict textCode) = .ok ⟨some (.int 1), .null, some ⟨7, "m", .null⟩⟩ := rfl
  obtain ⟨entries, heq, -, hverbatim, hint⟩ := parse_is_verbatim_iff hparse
  cases heq
  refine ⟨_, hparse, rfl, (hint 1).mpr (.int 1), ?_, ?_⟩
  · rintro _ id ⟨⟩ hid
    cases hid
    exact .inr (.inl ⟨1, rfl⟩)
  · intro h
    obtain ⟨n, hn⟩ := (hverbatim.mp h).2 _ _ _ rfl rfl rfl
    cases hn

/-- A response whose identifier is a truth value goes by the identifier of the first request. -/
theorem not_isVerbatim_truth :
    ∃ entries response, parse (.dict entries) = .ok response ∧
      Entries.get? "id" entries = some (.bool true) ∧ response.id = some (.int 1) ∧
      ¬ response.IsVerbatim entries := by
  refine ⟨[("jsonrpc", .str Member.version), ("id", .bool true), ("result", .int 5)],
    ⟨some (.int 1), .int 5, none⟩, rfl, rfl, rfl, ?_⟩
  intro h
  cases h.id

end Client

end ChainRpc
