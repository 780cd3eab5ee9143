import ChainRpc.Method.Table
import ChainRpc.Proofs.Checked

/-!
# Arguments position by position

The arguments of a call are written one for each parameter, and each position is written by itself: an
argument by the shape of its parameter, and null where an optional parameter has none. The nulls at the
end that are left out are those of optional parameters.
-/

namespace ChainRpc.Method

variable {m : Method} {p : Param} {ps : List Param} {args args' : List Value} {js : List (Param × Json)}
  {params : List Json} {fault : ParamsFault} {i : Nat}

/-- No optional parameter of the table has options of its own. -/
lemma isQualified_table : ∀ m ∈ table, ∀ p ∈ m.params, p.optional → p.shape.isQualified = false := by
  decide +kernel

/-! ### Positions -/

/-- The wire form of what is given for a parameter, if anything is. -/
def encodeGiven (m : Method) (p : Param) : Option Value → Except ParamsFault Json
  | none       => m.encodeAbsent p
  | some value => m.encodeArgument p value

lemma encodeAll_cons (m : Method) (p : Param) (ps : List Param) (args : List Value) :
    m.encodeAll (p :: ps) args = do
      let j ← m.encodeGiven p args[0]?
      return (p, j) :: (← m.encodeAll ps args.tail) := by
  cases args <;> rfl

/-- Arguments have wire forms where each position has one. -/
lemma encodeAll_eq_ok_iff :
    m.encodeAll ps args = .ok js ↔
      js.map (·.1) = ps ∧
        ∀ (i : Nat) (e : Param × Json), js[i]? = some e → m.encodeGiven e.1 args[i]? = .ok e.2 := by
  induction ps generalizing args js with
  | nil =>
    constructor
    · rintro ⟨⟩
      exact ⟨rfl, nofun⟩
    · rintro ⟨h, _⟩
      rw [List.map_eq_nil_iff.mp h]
      rfl
  | cons p ps ih =>
    simp only [encodeAll_cons, Checked.bind_eq_ok_iff, pure, Except.pure, Except.ok.injEq]
    constructor
    · rintro ⟨j, hj, rest, hrest, rfl⟩
      obtain ⟨hps, hpositions⟩ := ih.mp hrest
      refine ⟨by rw [List.map_cons, hps], fun i e he => ?_⟩
      cases i with
      | zero =>
        cases he
        exact hj
      | succ i =>
        rw [← List.getElem?_tail]
        exact hpositions i e he
    · rintro ⟨hps, hpositions⟩
      obtain ⟨⟨q, j⟩, rest, rfl, rfl, hrest⟩ := List.map_eq_cons_iff.mp hps
      refine ⟨j, hpositions 0 _ rfl, rest, ih.mpr ⟨hrest, fun i e he => ?_⟩, rfl⟩
      rw [List.getElem?_tail]
      exact hpositions (i + 1) e he

/-- The wire forms depend on those of the positions only. -/
lemma encodeAll_congr
    (h : ∀ (i : Nat) (p : Param), ps[i]? = some p →
      m.encodeGiven p args[i]? = m.encodeGiven p args'[i]?) :
    m.encodeAll ps args = m.encodeAll ps args' := by
  induction ps generalizing args args' with
  | nil => cases args <;> cases args' <;> rfl
  | cons p ps ih =>
    have hrest : m.encodeAll ps args.tail = m.encodeAll ps args'.tail := ih fun i q hq => by
      rw [List.getElem?_tail, List.getElem?_tail]
      exact h (i + 1) q hq
    rw [encodeAll_cons, encodeAll_cons, h 0 p rfl, hrest]

/-- Null for an optional parameter is written like no argument. -/
lemma encodeGiven_null (ho : p.optional) (hq : p.shape.isQualified = false) :
    m.encodeGiven p (some .null) = m.encodeGiven p none := by
  have hargument : p.argument = .optional p.shape := if_pos ho
  have hqualified : ¬ (p.optional ∧ p.shape.isQualified) := by simp [hq]
  rw [encodeGiven, encodeGiven, encodeArgument, encodeAbsent, if_neg hqualified, if_pos ho, hargument]
  rfl

lemma optional_of_encodeGiven {j : Json} (h : m.encodeGiven p none = .ok j) : p.optional ∧ j = .null := by
  rw [encodeGiven, encodeAbsent] at h
  split at h
  · next ho =>
    cases h
    exact ⟨ho, rfl⟩
  · cases h

/-- What cannot be written is invalid, unless the parameter is optional and has options of its own. -/
lemma exists_invalid_of_encodeGiven {given : Option Value}
    (hq : p.optional → p.shape.isQualified = false)
    (h : m.encodeGiven p given = .error fault) : ∃ cause, fault = .invalid cause := by
  cases given with
  | none =>
    rw [encodeGiven, encodeAbsent] at h
    split at h <;> cases h
    exact ⟨_, rfl⟩
  | some value =>
    rw [encodeGiven, encodeArgument, if_neg fun h' => Bool.eq_false_iff.mp (hq h'.1) h'.2] at h
    split at h <;> cases h
    exact ⟨_, rfl⟩

/-! ### Nulls at the end -/

/-- The positions that are left out are null and their parameters optional. -/
lemma trimmed_cases (js : List (Param × Json)) :
    ∃ dropped, js.map (·.2) = trimmed js ++ dropped ∧
      ∀ e ∈ js.drop (trimmed js).length, e.1.optional ∧ e.2 = .null := by
  induction js with
  | nil => exact ⟨[], rfl, nofun⟩
  | cons e rest ih =>
    obtain ⟨dropped, heq, hdropped⟩ := ih
    rw [trimmed]
    split
    · next hrest =>
      rw [hrest] at heq hdropped
      split
      · next hnull =>
        exact ⟨e.2 :: dropped, by rw [List.map_cons, heq]; rfl,
          List.forall_mem_cons.mpr ⟨hnull, hdropped⟩⟩
      · exact ⟨dropped, by rw [List.map_cons, heq]; rfl, hdropped⟩
    · exact ⟨dropped, by rw [List.map_cons, heq]; rfl, hdropped⟩

/-- Optional parameters that are null at the end are left out. -/
lemma length_trimmed_le {k : Nat} (h : ∀ e ∈ js.drop k, e.1.optional ∧ e.2 = .null) :
    (trimmed js).length ≤ k := by
  induction js generalizing k with
  | nil => exact Nat.zero_le k
  | cons e rest ih =>
    cases k with
    | zero =>
      obtain ⟨he, hrest⟩ := List.forall_mem_cons.mp h
      have hnil := List.eq_nil_of_length_eq_zero (Nat.le_zero.mp (ih (k := 0) hrest))
      rw [trimmed, hnil]
      simp [he]
    | succ k =>
      have hrest := ih h
      rw [trimmed]
      split
      · split <;> simp
      · exact Nat.succ_le_succ hrest

/-! ### Calls -/

lemma encodeParams_eq_ok_iff :
    m.encodeParams args = .ok params ↔
      args.length ≤ m.params.length ∧
        ∃ js, m.encodeAll m.params args = .ok js ∧ trimmed js = params := by
  unfold encodeParams
  split
  · next h => exact iff_of_false nofun fun h' => absurd h'.1 (Nat.not_le.mpr h)
  · next h => simp [Nat.le_of_not_lt h]

/-- Parameters behind the arguments of a call are optional. -/
lemma optional_of_encodeParams (h : m.encodeParams args = .ok params) :
    ∀ p ∈ m.params.drop args.length, p.optional := by
  obtain ⟨_, js, hjs, _⟩ := encodeParams_eq_ok_iff.mp h
  obtain ⟨hparams, hpositions⟩ := encodeAll_eq_ok_iff.mp hjs
  intro p hp
  obtain ⟨i, hi⟩ := List.mem_iff_getElem?.mp hp
  rw [List.getElem?_drop, ← hparams, List.getElem?_map] at hi
  obtain ⟨e, he, rfl⟩ := Option.map_eq_some_iff.mp hi
  have hgiven := hpositions _ e he
  rw [List.getElem?_eq_none (Nat.le_add_right _ _)] at hgiven
  exact (optional_of_encodeGiven hgiven).1

/-- Nulls for further optional parameters make no difference. -/
lemma encodeParams_append_nulls {k : Nat} (hk : args.length + k ≤ m.params.length)
    (ho : ∀ p ∈ m.params.drop args.length, p.optional)
    (hq : ∀ p ∈ m.params, p.optional → p.shape.isQualified = false) :
    m.encodeParams (args ++ List.replicate k .null) = m.encodeParams args := by
  have hlength : (args ++ List.replicate k Value.null).length = args.length + k := by simp
  rw [encodeParams, encodeParams, hlength, if_neg (Nat.not_lt.mpr hk), if_neg (by omega)]
  refine congrArg (Except.map trimmed) (encodeAll_congr fun i p hp => ?_)
  by_cases hi : i < args.length
  · rw [List.getElem?_append_left hi]
  · obtain ⟨n, rfl⟩ := Nat.exists_eq_add_of_le (Nat.le_of_not_lt hi)
    have hp' : p ∈ m.params.drop args.length :=
      List.mem_iff_getElem?.mpr ⟨n, by rw [List.getElem?_drop, hp]⟩
    rw [List.getElem?_append_right (Nat.le_add_right _ _), Nat.add_sub_cancel_left,
      List.getElem?_replicate, List.getElem?_eq_none (Nat.le_add_right _ _)]
    split
    · exact encodeGiven_null (ho p hp') (hq p (List.mem_of_mem_drop hp') (ho p hp'))
    · rfl

lemma exists_invalid_of_encodeAll (hq : ∀ p ∈ ps, p.optional → p.shape.isQualified = false)
    (h : m.encodeAll ps args = .error fault) : ∃ cause, fault = .invalid cause := by
  induction ps generalizing args with
  | nil => cases h
  | cons p ps ih =>
    obtain ⟨hp, hps⟩ := List.forall_mem_cons.mp hq
    rw [encodeAll_cons] at h
    cases hgiven : m.encodeGiven p args[0]? with
    | error cause =>
      rw [hgiven] at h
      cases h
      exact exists_invalid_of_encodeGiven hp hgiven
    | ok j =>
      rw [hgiven] at h
      cases hrest : m.encodeAll ps args.tail with
      | error cause =>
        simp only [bind, Except.bind, hrest, Except.error.injEq] at h
        subst h
        exact ih hps hrest
      | ok rest =>
        simp only [bind, Except.bind, hrest] at h
        cases h

/-- Arguments that cannot be written are invalid, if no optional parameter has options of its own. -/
lemma exists_invalid_of_encodeParams (hq : ∀ p ∈ m.params, p.optional → p.shape.isQualified = false)
    (h : m.encodeParams args = .error fault) : ∃ cause, fault = .invalid cause := by
  unfold encodeParams at h
  split at h
  · cases h
    exact ⟨_, rfl⟩
  · cases hall : m.encodeAll m.params args with
    | error cause =>
      rw [hall] at h
      cases h
      exact exists_invalid_of_encodeAll hq hall
    | ok js =>
      rw [hall] at h
      cases h

end ChainRpc.Method
