import ChainRpc.Proofs.Checked
import ChainRpc.Proofs.Value.Fits
import ChainRpc.Signature

/-!
# Where bound arguments come from

Binding invents no values: what a parameter is bound to was given with the call or is the default of the
parameter. Positional arguments are those of the first parameters, and the others have their defaults.
-/

namespace ChainRpc.Signature

variable {P : Value → Prop} {s : Signature}

lemma forall_of_bindNamed {bound named result : Entries Value} (hbound : ∀ e ∈ bound, P e.2)
    (hnamed : ∀ e ∈ named, P e.2) (h : s.bindNamed bound named = .ok result) :
    ∀ e ∈ result, P e.2 := by
  induction named generalizing bound with
  | nil =>
    cases h
    exact hbound
  | cons e rest ih =>
    obtain ⟨he, hrest⟩ := List.forall_mem_cons.mp hnamed
    rw [bindNamed] at h
    split at h
    · cases h
    split at h
    · cases h
    split at h
    · cases h
    refine ih (fun f hf => ?_) hrest h
    rcases List.mem_append.mp hf with hf | hf
    · exact hbound f hf
    · obtain rfl := List.mem_singleton.mp hf
      exact he

lemma forall_complete {bound : Entries Value} {params : List (Text × Option Value)}
    (hbound : ∀ e ∈ bound, P e.2) (hdefault : ∀ p ∈ params, ∀ v, p.2 = some v → P v) :
    ∀ v ∈ (complete bound params).1, P v := by
  induction params with
  | nil => exact nofun
  | cons p rest ih =>
    obtain ⟨hp, hrest⟩ := List.forall_mem_cons.mp hdefault
    rw [complete]
    dsimp only
    split
    · next value hvalue =>
      refine List.forall_mem_cons.mpr ⟨?_, ih hrest⟩
      cases hget : bound.get? p.1 with
      | none =>
        rw [hget] at hvalue
        exact hp value hvalue
      | some v =>
        rw [hget] at hvalue
        cases hvalue
        exact hbound _ (Entries.mem_of_get? hget)
    · exact ih hrest

/-- What holds of the arguments of a call and of the defaults holds of all bound arguments. -/
lemma forall_of_bind {args bound : List Value} {named : Entries Value} (hargs : ∀ v ∈ args, P v)
    (hnamed : ∀ e ∈ named, P e.2) (hdefault : ∀ p ∈ s.params, ∀ v, p.2 = some v → P v)
    (h : s.bind args named = .ok bound) : ∀ v ∈ bound, P v := by
  obtain ⟨entries, hentries, h⟩ := Checked.bind_eq_ok_iff.mp h
  have hpositional : ∀ e ∈ (s.params.map (·.1)).zip args, P e.2 :=
    fun e he => hargs _ (List.of_mem_zip he).2
  have hbound := forall_of_bindNamed hpositional hnamed hentries
  have hcomplete := forall_complete hbound hdefault
  simp only [pure, Except.pure] at h
  split at h
  · cases h
  split at h
  · cases h
  cases h
  intro v hv
  rcases List.mem_append.mp hv with hv | hv
  · exact hcomplete v hv
  · exact hargs v (List.mem_of_mem_drop hv)

/-! ### Labels -/

lemma bindNamed_relabeled {bound named result : Entries Value} (label : Text)
    (h : s.bindNamed bound named = .ok result) :
    { s with label := label }.bindNamed bound named = .ok result := by
  induction named generalizing bound with
  | nil => exact h
  | cons e rest ih =>
    rw [bindNamed] at h ⊢
    split at h
    · cases h
    next hreceiver =>
    split at h
    · cases h
    next hname =>
    split at h
    · cases h
    next hnew =>
    rw [if_neg hreceiver, if_neg hname, if_neg hnew]
    exact ih h

/-- What a function is called in complaints does not matter for calls that fit it. -/
lemma bind_relabeled {args bound : List Value} {named : Entries Value} (label : Text)
    (h : s.bind args named = .ok bound) : { s with label := label }.bind args named = .ok bound := by
  obtain ⟨entries, hentries, h⟩ := Checked.bind_eq_ok_iff.mp h
  refine Checked.bind_eq_ok_iff.mpr ⟨entries, bindNamed_relabeled label hentries, ?_⟩
  simp only [pure, Except.pure] at h ⊢
  split at h
  · cases h
  next hfew =>
  split at h
  · cases h
  next hcomplete =>
  rw [if_neg hfew, if_neg hcomplete]
  exact h

/-! ### Positional arguments -/

variable {args bound : List Value} {params : List (Text × Option Value)}

/-- Parameters without arguments take their defaults; those without one are missing. -/
lemma complete_nil (params : List (Text × Option Value)) :
    complete [] params =
      (params.filterMap (·.2), (params.filter (·.2.isNone)).map (·.1)) := by
  induction params with
  | nil => rfl
  | cons p rest ih =>
    obtain ⟨name, default⟩ := p
    rw [complete, ih]
    cases default <;> rfl

lemma complete_cons_of_not_mem {name : Text} {v : Value} {entries : Entries Value}
    (h : name ∉ params.map (·.1)) :
    complete ((name, v) :: entries) params = complete entries params := by
  induction params with
  | nil => rfl
  | cons p rest ih =>
    obtain ⟨hp, hrest⟩ := List.ne_and_not_mem_of_not_mem_cons h
    have hget : Entries.get? p.1 ((name, v) :: entries) = Entries.get? p.1 entries := if_neg hp
    rw [complete, complete, ih hrest, hget]

/-- Positional arguments are those of the first parameters. -/
lemma complete_zip (hn : (params.map (·.1)).Nodup) (h : args.length ≤ params.length) :
    complete ((params.map (·.1)).zip args) params =
      (args ++ (complete [] (params.drop args.length)).1,
        (complete [] (params.drop args.length)).2) := by
  induction params generalizing args with
  | nil =>
    obtain rfl := List.eq_nil_of_length_eq_zero (Nat.le_zero.mp h)
    rfl
  | cons p rest ih =>
    cases args with
    | nil => rw [List.zip_nil_right]; rfl
    | cons v args =>
      obtain ⟨hp, hrest⟩ := List.nodup_cons.mp hn
      rw [List.map_cons, List.zip_cons_cons, complete, complete_cons_of_not_mem hp,
        ih hrest (Nat.le_of_succ_le_succ h)]
      have hget : Entries.get? p.1 ((p.1, v) :: (rest.map (·.1)).zip args) = some v := if_pos rfl
      rw [hget]
      rfl

/-- What a call without named arguments comes to. -/
lemma bind_nil (hv : s.variadic = false) (args : List Value) :
    s.bind args [] =
      if s.params.length < args.length then
        .error (.tooMany s.label (s.required + s.receivers) (s.params.length + s.receivers)
          (args.length + s.receivers))
      else
        let completed := complete ((s.params.map (·.1)).zip args) s.params
        if completed.2 ≠ [] then .error (.missing s.label completed.2)
        else .ok (completed.1 ++ args.drop s.params.length) := by
  have hnamed (entries : Entries Value) : s.bindNamed entries [] = .ok entries := rfl
  rw [bind, hnamed]
  by_cases hmany : s.params.length < args.length
  · rw [if_pos hmany]
    simp [hv, hmany, Bind.bind, Except.bind, throw, throwThe, MonadExceptOf.throw]
  · rw [if_neg hmany]
    simp only [hv, hmany, Bind.bind, Except.bind]
    rfl

/-- Positional arguments fit if there are not too many and all further parameters have defaults. -/
lemma bind_positional_eq_ok_iff (hv : s.variadic = false) (hn : (s.params.map (·.1)).Nodup) :
    s.bind args [] = .ok bound ↔
      args.length ≤ s.params.length ∧ (∀ p ∈ s.params.drop args.length, p.2.isSome) ∧
        bound = args ++ (s.params.drop args.length).filterMap (·.2) := by
  rw [bind_nil hv]
  by_cases hmany : s.params.length < args.length
  · rw [if_pos hmany]
    exact iff_of_false nofun fun h => absurd h.1 (Nat.not_le.mpr hmany)
  · have hfew := Nat.le_of_not_lt hmany
    have hmissing : ((s.params.drop args.length).filter (·.2.isNone)).map (·.1) = [] ↔
        ∀ p ∈ s.params.drop args.length, p.2.isSome := by
      simp [Option.isSome_iff_ne_none]
    rw [if_neg hmany, complete_zip hn hfew, complete_nil, List.drop_of_length_le hfew]
    dsimp only
    split
    · next h => exact iff_of_false nofun fun h' => h (hmissing.mpr h'.2.1)
    · next h =>
      rw [List.append_nil, Except.ok.injEq, eq_comm]
      exact ⟨fun hb => ⟨hfew, hmissing.mp (not_not.mp h), hb⟩, fun h' => h'.2.2⟩

end ChainRpc.Signature
