import ChainRpc.Proofs.Client.Correlation

/-!
# How reading an answer fails

With which faults a step fails is known from its parts. An answer that is no JSON document fails as such;
whatever else can be wrong with an answer is a fault that a client answers for.
-/

namespace ChainRpc.Client

variable {α β ε : Type} {allowed wider : Fault → Prop} {s s' : State}

/-- The step fails with allowed faults only. -/
def FailsOnly (allowed : Fault → Prop) (x : Act α) : Prop :=
  ∀ s fault s', x s = (.error fault, s') → allowed fault

namespace FailsOnly

lemma mono {x : Act α} (hx : FailsOnly allowed x) (h : ∀ fault, allowed fault → wider fault) :
    FailsOnly wider x :=
  fun s fault s' hs => h fault (hx s fault s' hs)

lemma pure (a : α) : FailsOnly allowed (Pure.pure a : Act α) := fun _ _ _ h => nomatch h

lemma throw {fault : Fault} (h : allowed fault) :
    FailsOnly allowed (MonadExcept.throw fault : Act α) := by
  intro s found s' hs
  cases hs
  exact h

lemma note (level : Log.Level) (message : Text) : FailsOnly allowed (note level message) :=
  fun _ _ _ h => nomatch h

lemma ofExcept {toFault : ε → Fault} {x : Except ε α}
    (h : ∀ e, x = .error e → allowed (toFault e)) : FailsOnly allowed (ofExcept toFault x) := by
  cases x with
  | ok a => exact .pure a
  | error e => exact .throw (h e rfl)

lemma bind {x : Act α} {f : α → Act β} (hx : FailsOnly allowed x)
    (hf : ∀ a, FailsOnly allowed (f a)) : FailsOnly allowed (x >>= f) := by
  intro s fault s' h
  rw [bind_apply] at h
  rcases hs : x s with ⟨found | a, middle⟩
  · rw [hs] at h
    cases h
    exact hx s _ _ hs
  · rw [hs] at h
    exact hf a middle fault s' h

end FailsOnly

/-! ### Bodies -/

/-- The fault is one that a client answers for, or that of the body as a document. -/
inductive ReadingFault (body : Bytes) : Fault → Prop
  | client {fault : Fault} (h : fault.isClientError) : ReadingFault body fault
  | document {cause : Unreadable} (h : Json.ofBytes body = .error cause) :
    ReadingFault body (.ofUnreadable cause)

/-- The fault is that of the body as a document, of the protocol, or of a result. -/
inductive AnswerFault (body : Bytes) : Fault → Prop
  | document {cause : Unreadable} (h : Json.ofBytes body = .error cause) :
    AnswerFault body (.ofUnreadable cause)
  | protocol (cause : ProtocolError) : AnswerFault body (.protocol cause)
  | undecodable (method : Text) (issues : List Issue) : AnswerFault body (.undecodable method issues)

lemma AnswerFault.reading {body : Bytes} {fault : Fault} (h : AnswerFault body fault) :
    ReadingFault body fault := by
  cases h with
  | document h => exact .document h
  | protocol cause => exact .client rfl
  | undecodable method issues => exact .client rfl

lemma load_of_unreadable {body : Bytes} {cause : Unreadable}
    (h : Json.ofBytes body = .error cause) (s : State) :
    load body s = (.error (.ofUnreadable cause), s) := by
  rw [load, h]
  rfl

lemma finish_of_unreadable {body : Bytes} {cause : Unreadable}
    (h : Json.ofBytes body = .error cause) (p : Prepared) (s : State) :
    finish p body s = (.error (.ofUnreadable cause), s) :=
  bind_of_error (load_of_unreadable h s) _

lemma finishBatch_of_unreadable {body : Bytes} {cause : Unreadable}
    (h : Json.ofBytes body = .error cause) (prepared : List Prepared) (s : State) :
    finishBatch prepared body s = (.error (.ofUnreadable cause), s) :=
  bind_of_error (load_of_unreadable h s) _

lemma failsOnly_load (body : Bytes) : FailsOnly (AnswerFault body) (load body) :=
  .ofExcept fun _ h => .document h

lemma failsOnly_checkId (body : Bytes) (sent : RequestId) (found : Option RequestId) :
    FailsOnly (AnswerFault body) (checkId sent found) := by
  unfold checkId
  split
  · exact .pure _
  · split
    · exact .pure _
    · exact .bind (.note _ _) fun _ => .throw (.protocol _)

lemma failsOnly_outcome (body : Bytes) (p : Prepared) (response : Response) :
    FailsOnly (AnswerFault body) (outcome p response) := by
  refine .bind (failsOnly_checkId body _ _) fun _ => ?_
  split
  · exact .bind (.note _ _) fun _ => .throw (.protocol _)
  · exact .throw (.protocol _)
  · exact .bind (.note _ _) fun _ => .ofExcept fun _ _ => .undecodable _ _

lemma failsOnly_finish (p : Prepared) (body : Bytes) :
    FailsOnly (AnswerFault body) (finish p body) := by
  refine .bind (failsOnly_load body) fun payload => ?_
  split
  · exact .throw (.protocol _)
  · exact .bind (.ofExcept fun _ _ => .protocol _) fun response => failsOnly_outcome body p response

/-- Responses in an array never fail the batch, and what is no array breaks the protocol. -/
lemma failsOnly_finishBatch {prepared : List Prepared}
    (hn : (prepared.map (·.request.id)).Nodup) (body : Bytes) :
    FailsOnly (ReadingFault body) (finishBatch prepared body) := by
  intro s fault s' h
  cases hload : Json.ofBytes body with
  | error cause =>
    cases h.symm.trans (finishBatch_of_unreadable hload prepared s)
    exact .document hload
  | ok payload =>
    by_cases hlist : ∃ items, payload = .list items
    · obtain ⟨items, rfl⟩ := hlist
      obtain ⟨records, hf, _⟩ := finishBatch_of_list hload hn s
      cases h.symm.trans hf
    · obtain ⟨cause, hf⟩ := finishBatch_of_not_list hload (fun items e => hlist ⟨items, e⟩) s
      cases h.symm.trans hf
      exact .client rfl

end ChainRpc.Client
