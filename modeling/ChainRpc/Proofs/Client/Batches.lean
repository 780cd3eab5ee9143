import ChainRpc.Proofs.Client.Correlation
import ChainRpc.Proofs.Client.Operations
import Mathlib.Data.List.Forall2

/-!
# What batches answer

A batch that was answered with an array gives each call the first response under its identifier, and
nothing else of the array matters; what goes to no call is dropped with a warning. A batch answered with
anything but an array fails as a whole.
-/

namespace ChainRpc.Client

variable {σ : Type} {registry : Registry} {calls : List (MethodRef × List Value)} {ws : List WireCall}
  {body answer : Bytes}

/-! ### Answered batches -/

/-- Calls have wire forms in one way only. -/
lemma WireCalls.unique {ws' : List WireCall} (h : WireCalls registry calls ws)
    (h' : WireCalls registry calls ws') : ws = ws' := by
  refine Relator.RightUnique.forall₂ (fun call w w' hw hw' => ?_) h h'
  exact Except.ok.inj (hw.symm.trans hw')

lemma WireCalls.length_eq (h : WireCalls registry calls ws) : ws.length = calls.length :=
  (List.Forall₂.length_eq h).symm

/-- A batch with an answer has sent its requests, and its results are read from the answer. -/
lemma Resumable.batch_of_answered {c : Connection σ} {session : Session σ}
    (h : (batch registry calls).exchanges c session = [⟨body, .ok answer⟩]) :
    ∃ ws built sent link, WireCalls registry calls ws ∧ (∀ r ∈ built, r.level = .debug) ∧
      let prepared := numberedFrom session.state.nextId ws
      let state := (session.state.issued ws.length).logged (built ++ sent)
      prepared ≠ [] ∧ Request.encodeBatch (prepared.map (·.request)) = .ok body ∧
      (batch registry calls).run c session =
        ((finishBatch prepared answer state).1, ⟨(finishBatch prepared answer state).2, link⟩) := by
  rcases batch_cases c registry calls session with
    ⟨ws, built, hws, _, hd, he, hr⟩ | ⟨_, _, _, _, _, _, _, _, _, _, he, _⟩ |
      ⟨_, _, _, _, _, _, _, _, _, _, _, he, _⟩
  · have hne : numberedFrom session.state.nextId ws ≠ [] := by
      intro hnil
      rw [he, hnil] at h
      cases h
    rw [submitAll_of_ne_nil hne] at he hr
    rw [h] at he
    rcases roundTrip_cases c _ _ _ with
      ⟨cause, _, hn, _⟩ | ⟨b, fault, sent, link, _, hs, _⟩ | ⟨b, a, sent, link, hb, hs, ht⟩
    · exact nomatch he.trans hn
    · exact nomatch he.trans hs
    · obtain ⟨rfl, rfl⟩ : body = b ∧ answer = a := by simpa using he.trans hs
      refine ⟨ws, built, sent, link, hws, hd, hne, hb, hr.trans (ht.trans ?_)⟩
      rw [State.logged_logged]
  · exact nomatch h.symm.trans he
  · exact nomatch h.symm.trans he

/-! ### Correlation -/

/-- A batch answered with an array gives every call, in order, the verdict on the first response of the
array under the identifier of its request, and an error without a code where there is none. Every item
of the array leaves one record, a warning just where it is not the first one under the identifier of a
request. A batch answered with anything else fails as a whole. -/
theorem batch_answers_first_responses (isResumable : Bool) (c : Connection σ) (session : Session σ)
    (hws : WireCalls c.registry calls ws) {payload : Json}
    (hsent : (Operation.batch calls).exchanges isResumable c session = [⟨body, .ok answer⟩])
    (hload : Json.ofBytes answer = .ok payload) :
    let finished := (Operation.batch calls).run isResumable c session
    let prepared := numberedFrom session.state.nextId ws
    let ids := prepared.map (·.request.id)
    Request.encodeBatch (prepared.map (·.request)) = .ok body ∧ prepared.length = calls.length ∧
    (∀ items, payload = .list items →
      finished.1 = .ok (.slots (prepared.map (slotResult items))) ∧
      ∃ before records, finished.2.state.log = session.state.log ++ before ++ records ∧
        records.map (·.level) = itemLevels ids items ∧
        ∀ threshold ≤ Log.Level.warning.rank,
          (List.range items.length).countP (fun i => Delivered ids items i) +
            (Log.visible threshold records).countP (·.level = .warning) = items.length) ∧
    ((∀ items, payload ≠ .list items) → ∃ cause, finished.1 = .error (.protocol cause)) := by
  intro finished prepared ids
  rw [Operation.exchanges_batch] at hsent
  obtain ⟨ws', built, sent, link, hws', _, _, hbody, hrun⟩ := Resumable.batch_of_answered hsent
  obtain rfl := hws.unique hws'
  have hfinished : finished = _ := Operation.run_batch isResumable c session calls
  rw [hrun] at hfinished
  refine ⟨hbody, (length_numberedFrom _ _).trans hws.length_eq, ?_, ?_⟩
  · rintro items rfl
    obtain ⟨records, hf, hlevels⟩ := finishBatch_of_list hload (nodup_ids_numberedFrom _ _)
      ((session.state.issued ws.length).logged (built ++ sent))
    rw [hf] at hfinished
    refine ⟨by rw [hfinished]; rfl, built ++ sent, records, ?_, hlevels, fun threshold ht => ?_⟩
    · rw [hfinished]
      simp
    · have hvisible : (Log.visible threshold records).countP (·.level = .warning) =
          (itemLevels ids items).count .warning := by
        rw [← hlevels, List.count, List.countP_map, Log.visible, List.countP_filter]
        refine List.countP_congr fun r _ => ?_
        by_cases hr : r.level = .warning <;> simp [hr, ht]
      rw [hvisible]
      exact count_delivered_add_count_warning ids items
  · intro hlist
    obtain ⟨cause, hf⟩ := finishBatch_of_not_list hload hlist
      ((session.state.issued ws.length).logged (built ++ sent))
    exact ⟨cause, by rw [hfinished, hf]; rfl⟩

/-- Two calls without arguments. -/
def twoCalls : List (MethodRef × List Value) :=
  [(.direct { name := "m" }, []), (.direct { name := "n" }, [])]

lemma wireCalls_twoCalls (registry : Registry) :
    WireCalls registry twoCalls [⟨{ name := "m" }, []⟩, ⟨{ name := "n" }, []⟩] :=
  .cons rfl (.cons rfl .nil)

/-- Responses to the requests 1 and 2 in the other order, with a stray one between them. -/
def shuffledResponses : List Json := [
  .dict [("id", .int 2), ("result", .str "b")],
  .dict [("id", .int 7), ("result", .str "c")],
  .dict [("id", .int 1), ("result", .str "a")]]

/-- Responses in another order reach their calls. -/
theorem batch_answers_first_responses_shuffled :
    ((Operation.batch twoCalls).run false scripted (.answered [.list shuffledResponses])).1 =
      .ok (.slots [.ok (.str "a"), .ok (.str "b")]) := by
  let answer : Bytes := bodyOf (.list shuffledResponses)
  let sent : Bytes :=
    (Request.encodeBatch [⟨.int 1, "m", []⟩, ⟨.int 2, "n", []⟩]).toOption.getD []
  have hsent : (Operation.batch twoCalls).exchanges false scripted
      (.answered [.list shuffledResponses]) = [⟨sent, .ok answer⟩] :=
    Exchange.eq_of_map_answered? [(sent, answer)] (by decide +kernel)
  have hload : Json.ofBytes (bodyOf (.list shuffledResponses)) = .ok (.list shuffledResponses) := by
    decide +kernel
  have h := batch_answers_first_responses false scripted _ (wireCalls_twoCalls _) hsent hload
  exact (h.2.2.1 _ rfl).1

end ChainRpc.Client
