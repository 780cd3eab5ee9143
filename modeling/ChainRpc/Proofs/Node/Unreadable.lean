import ChainRpc.Proofs.Node.Runs

/-!
# Bodies that a node cannot read

A body that is no JSON document leaves a node as it was, whatever is wrong with it. The node answers it with
an error under no identifier if its text breaks the grammar. A body without a text, or one that is beyond a
limit of the reader, it does not answer: the post itself fails.
-/

namespace ChainRpc

lemma SyntaxFault.isScalar_message (fault : SyntaxFault) : fault.message.IsScalar := by
  have hkind : fault.kind.message.IsScalar := by cases fault.kind <;> decide
  apply Text.isScalar_concat
  simp only [List.forall_mem_cons]
  exact ⟨hkind, by decide, Text.isScalar_ofNat _, by decide, Text.isScalar_ofNat _, by decide,
    Text.isScalar_ofNat _, by decide, List.forall_mem_nil _⟩

namespace Node

variable {n : Node} {raw : Bytes} {cause : Unreadable} {room : Nat}

/-- A body comes back that is read as one object, an error without a result, under null and with the code of
parse errors. -/
def Exchange.IsParseError (e : Exchange) : Prop :=
  ∃ b entries error, e.body = .ok b ∧ Json.ofBytes b = .ok (.dict entries) ∧
    Entries.get? "id" entries = some .null ∧ Entries.get? "result" entries = none ∧
    Entries.get? "error" entries = some (.dict error) ∧ Entries.get? "code" error = some (.int (-32700))

/-- The answer to a text that breaks the grammar, which says where. -/
def parseError (fault : SyntaxFault) : Json :=
  Response.withOutcome .null (.error ⟨ErrorCode.parseError, "Parse error", .str fault.message⟩)

lemma sendable_parseError (fault : SyntaxFault) : (parseError fault).Sendable (room + 2) := by
  have hcode : IsShort ErrorCode.parseError := isShort_of_lt (by decide)
  have hmessage : Text.IsScalar ("Parse error" : Text) := by decide
  exact sendable_withOutcome .null (.error hcode hmessage (.str fault.isScalar_message))

/-! ### Posts -/

lemma answerBody_of_malformed {fault : SyntaxFault} (handlers : Entries Handler) (hne : raw ≠ [])
    (hraw : Json.ofBytes raw = .error (.malformed fault)) :
    answerBody handlers raw = { response := .ok (.ofJson (parseError fault)) } := by
  rw [answerBody, if_neg hne, hraw]
  rfl

lemma answerBody_of_unreadable (handlers : Entries Handler) (hne : raw ≠ [])
    (hraw : Json.ofBytes raw = .error cause) (hcause : ∀ fault, cause ≠ .malformed fault) :
    answerBody handlers raw = { response := .error (.unreadable cause) } := by
  rw [answerBody, if_neg hne, hraw]
  cases cause with
  | malformed fault => exact absurd rfl (hcause fault)
  | _ => rfl

lemma post_of_malformed {fault : SyntaxFault} (n : Node) (hne : raw ≠ [])
    (hraw : Json.ofBytes raw = .error (.malformed fault)) :
    (n.post raw).node = n ∧
      ∃ b, (n.post raw).body = .ok b ∧ Json.ofBytes b = .ok (parseError fault) := by
  have hanswer := answerBody_of_malformed n.handlers hne hraw
  have hsendable : (parseError fault).Sendable writerNesting := sendable_parseError fault
  have hwrite := (writeBody_eq_ok_iff hsendable.isRegular).mpr ⟨hsendable, rfl⟩
  have hbody := body_of_response (congrArg Answer.response hanswer)
  refine ⟨?_, _, hbody.trans (Checked.mapError_eq_ok_iff.mpr hwrite),
    ofBytes_of_writeBody hsendable.isRegular hwrite⟩
  rw [post, hanswer]
  simp

lemma post_of_unreadable (n : Node) (hne : raw ≠ []) (hraw : Json.ofBytes raw = .error cause)
    (hcause : ∀ fault, cause ≠ .malformed fault) :
    (n.post raw).node = n ∧ (n.post raw).body = .error (.unreadable cause) := by
  rw [post, answerBody_of_unreadable n.handlers hne hraw hcause]
  exact ⟨by simp, rfl⟩

lemma isParseError_of_body {e : Exchange} {fault : SyntaxFault} {b : Bytes} (hbody : e.body = .ok b)
    (hread : Json.ofBytes b = .ok (parseError fault)) : e.IsParseError :=
  ⟨b, _, _, hbody, hread, rfl, rfl, rfl, rfl⟩

/-- A body that cannot be read never changes a node, and it is answered with a parse error exactly if its
text breaks the grammar; the error then says where. For any other cause the post fails with that cause. -/
theorem unreadable_bodies_are_answered_iff (n : Node) (hne : raw ≠ [])
    (hraw : Json.ofBytes raw = .error cause) :
    (n.post raw).node = n ∧
    ((n.post raw).IsParseError ↔ ∃ fault, cause = .malformed fault) ∧
    (∀ fault, cause = .malformed fault →
      ∃ b, (n.post raw).body = .ok b ∧ Json.ofBytes b = .ok (parseError fault)) ∧
    ((∀ fault, cause ≠ .malformed fault) → (n.post raw).body = .error (.unreadable cause)) := by
  by_cases hmalformed : ∃ fault, cause = .malformed fault
  · obtain ⟨fault, rfl⟩ := hmalformed
    obtain ⟨hnode, b, hbody, hread⟩ := post_of_malformed n hne hraw
    refine ⟨hnode, iff_of_true (isParseError_of_body hbody hread) ⟨fault, rfl⟩, ?_, ?_⟩
    · rintro _ ⟨⟩
      exact ⟨b, hbody, hread⟩
    · intro hnot
      exact absurd rfl (hnot fault)
  · have hcause (fault : SyntaxFault) : cause ≠ .malformed fault := fun h => hmalformed ⟨fault, h⟩
    obtain ⟨hnode, hbody⟩ := post_of_unreadable n hne hraw hcause
    refine ⟨hnode, iff_of_false ?_ hmalformed, ?_, fun _ => hbody⟩
    · rintro ⟨b, _, _, hok, _⟩
      rw [hbody] at hok
      cases hok
    · intro fault h
      exact absurd h (hcause fault)

/-- A body that stops short is answered with a parse error that gives the place, by a node that has seen a
request before. -/
theorem unreadable_bodies_are_answered_iff_cut :
    let n : Node := { requests := [⟨.int 1, "m", []⟩] }
    Json.ofBytes [0x5B] = .error (.malformed ⟨.value, 1, 1, 2⟩) ∧ (n.post [0x5B]).node = n ∧
      (n.post [0x5B]).IsParseError := by
  intro n
  have hraw : Json.ofBytes [0x5B] = .error (.malformed ⟨.value, 1, 1, 2⟩) := rfl
  have h := unreadable_bodies_are_answered_iff n (by decide) hraw
  exact ⟨hraw, h.1, h.2.1.mpr ⟨_, rfl⟩⟩

/-- A byte that starts no character is not answered at all. -/
theorem not_isParseError_undecodable :
    Json.ofBytes [0xFF] = .error (.undecodable ⟨.utf8, 0xFF, 0, 1, .invalidStart⟩) ∧
      (({} : Node).post [0xFF]).body =
        .error (.unreadable (.undecodable ⟨.utf8, 0xFF, 0, 1, .invalidStart⟩)) ∧
      ¬ (({} : Node).post [0xFF]).IsParseError := by
  have hraw : Json.ofBytes [0xFF] = .error (.undecodable ⟨.utf8, 0xFF, 0, 1, .invalidStart⟩) := rfl
  obtain ⟨-, hbody⟩ := post_of_unreadable {} (by decide) hraw nofun
  refine ⟨hraw, hbody, ?_⟩
  rintro ⟨b, _, _, hok, _⟩
  rw [hbody] at hok
  cases hok

end Node

end ChainRpc
