import ChainRpc.Proofs.Json.Ordered
import ChainRpc.Proofs.Method.WireForm
import Mathlib.Order.Bounds.Basic

/-!
# Which wire forms are sent

Every parameter of a call has a wire form: that of its argument, and null where an optional parameter has
null or nothing. Of these wire forms the shortest beginning is sent behind which all parameters are optional
and null. So nothing is lost: nulls at the end give all wire forms back, and no other null is left out.
-/

namespace ChainRpc

/-! ### What is given for a parameter -/

namespace Param

/-- What is given for a parameter is accepted: a value of its shape, or for an optional parameter null or
nothing. -/
def Accepts (p : Param) : (given : Option Value) → Prop
  | none   => p.optional
  | some x => p.optional ∧ x = .null ∨ ∃ v, p.shape.decode .caller x = .ok v

/-- The wire form of what is given for a parameter. -/
inductive Writes (p : Param) : (given : Option Value) → Json → Prop
  | nothing (ho : p.optional) : Writes p none .null
  | null (ho : p.optional) : Writes p (some .null) .null
  | value {x v : Value} (h : p.shape.decode .caller x = .ok v) : Writes p (some x) (p.shape.encode v)

variable {p : Param} {given : Option Value} {j : Json} {v : Value}

/-- What is accepted has a wire form, and nothing else has. -/
lemma accepts_iff : p.Accepts given ↔ ∃ j, p.Writes given j := by
  cases given with
  | none =>
    constructor
    · intro ho
      exact ⟨.null, .nothing ho⟩
    · rintro ⟨_, ⟨ho⟩⟩
      exact ho
  | some x =>
    constructor
    · rintro (⟨ho, rfl⟩ | ⟨v, hv⟩)
      · exact ⟨.null, .null ho⟩
      · exact ⟨p.shape.encode v, .value hv⟩
    · rintro ⟨_, h⟩
      cases h with
      | null ho => exact .inl ⟨ho, rfl⟩
      | value hv => exact .inr ⟨_, hv⟩

end Param

namespace Shape

lemma encode_null (shape : Shape) : encode shape .null = .null := by
  cases shape <;> rfl

/-- An optional value is written like any value of the shape within. -/
lemma encode_optional_eq (inner : Shape) (v : Value) : encode (.optional inner) v = encode inner v := by
  by_cases hv : v = .null
  · subst hv
    rw [encode_null, encode_null]
  · exact encode_optional hv

end Shape

namespace Param

variable {p : Param} {given : Option Value} {j : Json} {v : Value}

lemma encode_argument (v : Value) : p.argument.encode v = p.shape.encode v := by
  unfold argument
  split
  · exact Shape.encode_optional_eq p.shape v
  · rfl

/-- The wire form is that of what the argument stands for. -/
lemma writes_iff : p.Writes given j ↔ ∃ v, p.Takes .caller given v ∧ p.argument.encode v = j := by
  constructor
  · rintro (ho | ho | ⟨hv⟩)
    · exact ⟨.null, ⟨ho, rfl⟩, by rw [encode_argument, Shape.encode_null]⟩
    · refine ⟨.null, ?_, by rw [encode_argument, Shape.encode_null]⟩
      rw [Takes, argument, if_pos ho]
      rfl
    · next x v =>
      refine ⟨v, ?_, encode_argument v⟩
      rw [Takes, argument]
      split
      · by_cases hx : x = .null
        · subst hx
          rw [Shape.eq_null_of_decode_null hv]
          rfl
        · rw [Shape.decode_optional hx, hv]
      · exact hv
  · rintro ⟨v, hv, rfl⟩
    rw [encode_argument]
    cases given with
    | none =>
      obtain ⟨ho, rfl⟩ := hv
      rw [Shape.encode_null]
      exact .nothing ho
    | some x =>
      rw [Takes, argument] at hv
      split at hv
      · next ho =>
        by_cases hx : x = .null
        · subst hx
          cases hv
          rw [Shape.encode_null]
          exact .null ho
        · rw [Shape.decode_optional hx] at hv
          exact .value hv
      · exact .value hv

end Param

/-! ### JSON arguments -/

namespace Entries

variable {α : Type} {entries further : Entries α}

lemma putAll_eq_append (hn : (names (entries ++ further)).Nodup) :
    putAll entries further = entries ++ further := by
  induction further generalizing entries with
  | nil => rw [putAll, List.append_nil]
  | cons e rest ih =>
    obtain ⟨name, value⟩ := e
    have hname : name ∉ names entries := by
      rw [names, List.map_append, List.nodup_append] at hn
      intro hmem
      exact hn.2.2 name hmem name (by simp) rfl
    rw [putAll, put_of_not_mem hname, ih (by simpa using hn), List.append_assoc]
    rfl

end Entries

lemma Text.IsWhole.legible_eq {t : Text} (h : t.IsWhole) : t.legible = t := by
  induction t with
  | nil => rfl
  | cons c rest ih =>
    obtain ⟨hc, hrest⟩ := List.forall_mem_cons.mp h
    have hrest := ih hrest
    unfold Text.legible at hrest ⊢
    rw [List.flatMap_cons, if_neg hc, hrest]
    rfl

/-- A JSON value is written as it is, if its texts are whole. -/
lemma Shape.plain_ofJson {room : Nat} {j : Json} (h : j.Fits room) (hnames : j.HasDistinctNames) :
    plain (.ofJson j) = j := by
  induction h with
  | null | bool | int | float | str => rfl
  | list _ ih =>
    cases hnames with
    | list hitems =>
      rw [Value.ofJson, plain, plainItems_eq_map, Value.ofJsonItems_eq_map, List.map_map]
      exact congrArg Json.list
        ((List.map_congr_left fun j hj => ih j hj (hitems j hj)).trans (List.map_id _))
  | @dict room entries hwhole _ ih =>
    cases hnames with
    | dict hn hentries =>
      have hmembers : entries.map (fun e => (e.1.legible, plain (.ofJson e.2))) = entries := by
        refine (List.map_congr_left fun e he => ?_).trans (List.map_id _)
        rw [(hwhole e he).legible_eq, ih e he (hentries e he)]
        rfl
      rw [Value.ofJson, plain, plainEntries_eq_map, Value.ofJsonEntries_eq_map, List.map_map]
      refine congrArg Json.dict (Eq.trans ?_ (@Entries.putAll_eq_append _ [] entries hn))
      exact congrArg (Entries.putAll []) hmembers

/-- A JSON value given for a parameter that takes any is its own wire form. -/
lemma Param.eq_of_writes_json {p : Param} {room : Nat} {j written : Json} (hp : p.shape = .json)
    (h : j.Fits room) (hroom : room < Value.jsonRoom) (hnames : j.HasDistinctNames)
    (hwritten : p.Writes (some (.ofJson j)) written) : written = j := by
  have hread : p.shape.decode .caller (.ofJson j) = .ok (.ofJson j) := by
    rw [hp, Shape.decode, Value.toJson_ofJson h hroom]
    rfl
  have hown : p.shape.encode (.ofJson j) = j := by
    rw [hp, Shape.encode, Shape.plain_ofJson h hnames]
  generalize hx : Value.ofJson j = x at hread hown hwritten
  cases hwritten with
  | null => rw [← hown, Shape.encode_null]
  | value hv =>
    rw [hread] at hv
    cases hv
    exact hown

/-! ### What is sent -/

namespace Method

variable {m : Method} {p : Param} {ps : List Param} {args : List Value} {params full : List Json}
  {js : List (Param × Json)} {given : Option Value} {j : Json} {k : Nat}

/-- From a position on all parameters are optional and have null for their wire forms. -/
def IsBlankFrom (m : Method) (full : List Json) (k : Nat) : Prop :=
  ∀ (i : Nat) (p : Param), k ≤ i → m.params[i]? = some p → p.optional ∧ full[i]? = some .null

/-- What is sent for arguments of which all the wire forms are given. -/
structure Sends (m : Method) (args : List Value) (full params : List Json) : Prop where
  /-- Every parameter has one wire form: that of what is given for it. -/
  length : full.length = m.params.length
  written : ∀ (i : Nat) (p : Param) (j : Json), m.params[i]? = some p → full[i]? = some j →
    p.Writes args[i]? j
  /-- A JSON value given for a parameter that takes any is its own wire form. -/
  unchanged : ∀ (i : Nat) (p : Param) (room : Nat) (j : Json), m.params[i]? = some p →
    p.shape = .json → args[i]? = some (.ofJson j) → j.Fits room → room < Value.jsonRoom →
      j.HasDistinctNames → full[i]? = some j
  /-- The first wire forms are sent, as few as leave only nulls of optional parameters behind. -/
  taken : params = full.take params.length
  least : IsLeast {k | m.IsBlankFrom full k} params.length
  /-- Nulls at the end give back what is left out, which is of no required parameter. -/
  padded : params ++ List.replicate (m.params.length - params.length) .null = full
  kept : ∀ (i : Nat) (p : Param), m.params[i]? = some p → ¬ p.optional → params[i]? = full[i]?
  /-- Null for a parameter is the same as nothing, if no other parameter has anything after it. -/
  explicit : ∀ n : Nat, args.length + n ≤ m.params.length →
    m.encodeParams (args ++ List.replicate n .null) = .ok params

lemma encodeGiven_eq_ok_iff_writes (hq : p.optional → p.shape.isQualified = false) :
    m.encodeGiven p given = .ok j ↔ p.Writes given j := by
  rw [encodeGiven_eq_ok_iff hq, Param.writes_iff]

lemma exists_encodeAll_iff (hq : ∀ p ∈ ps, p.optional → p.shape.isQualified = false) :
    (∃ js, m.encodeAll ps args = .ok js) ↔
      ∀ (i : Nat) (p : Param), ps[i]? = some p → p.Accepts args[i]? := by
  induction ps generalizing args with
  | nil => exact iff_of_true ⟨[], by cases args <;> rfl⟩ nofun
  | cons p ps ih =>
    obtain ⟨hp, hps⟩ := List.forall_mem_cons.mp hq
    simp only [encodeAll_cons, Checked.bind_eq_ok_iff, encodeGiven_eq_ok_iff_writes hp]
    constructor
    · rintro ⟨_, j, hj, rest, hrest, -⟩ i q hi
      cases i with
      | zero =>
        cases hi
        exact Param.accepts_iff.mpr ⟨j, hj⟩
      | succ i =>
        rw [← List.getElem?_tail]
        exact (ih hps).mp ⟨rest, hrest⟩ i q hi
    · intro h
      obtain ⟨j, hj⟩ := Param.accepts_iff.mp (h 0 p rfl)
      have htail : ∃ js, m.encodeAll ps args.tail = .ok js := (ih hps).mpr fun i q hi => by
        rw [List.getElem?_tail]
        exact h (i + 1) q hi
      obtain ⟨rest, hrest⟩ := htail
      exact ⟨(p, j) :: rest, j, hj, rest, hrest, rfl⟩

lemma isBlankFrom_iff (hps : js.map (·.1) = m.params) :
    m.IsBlankFrom (js.map (·.2)) k ↔ ∀ e ∈ js.drop k, e.1.optional ∧ e.2 = .null := by
  constructor
  · intro h e he
    obtain ⟨i, hi⟩ := List.mem_iff_getElem?.mp he
    rw [List.getElem?_drop] at hi
    have hblank := h (k + i) e.1 (Nat.le_add_right k i) (by rw [← hps, List.getElem?_map, hi]; rfl)
    rw [List.getElem?_map, hi] at hblank
    exact ⟨hblank.1, Option.some.inj hblank.2⟩
  · intro h i p hi hp
    obtain ⟨n, rfl⟩ := Nat.exists_eq_add_of_le hi
    rw [← hps, List.getElem?_map] at hp
    obtain ⟨e, he, rfl⟩ := Option.map_eq_some_iff.mp hp
    have hmem : e ∈ js.drop k := List.mem_iff_getElem?.mpr ⟨n, by rw [List.getElem?_drop, he]⟩
    obtain ⟨ho, hnull⟩ := h e hmem
    exact ⟨ho, by rw [List.getElem?_map, he, Option.map_some, hnull]⟩

/-- What is sent of wire forms is as short as what is left out can be blank. -/
lemma isLeast_length_trimmed (hps : js.map (·.1) = m.params) :
    IsLeast {k | m.IsBlankFrom (js.map (·.2)) k} (trimmed js).length := by
  constructor
  · obtain ⟨_, _, hblank⟩ := trimmed_cases js
    exact (isBlankFrom_iff hps).mpr hblank
  · intro k hk
    exact length_trimmed_le ((isBlankFrom_iff hps).mp hk)

lemma trimmed_eq_take (js : List (Param × Json)) :
    trimmed js = (js.map (·.2)).take (trimmed js).length := by
  obtain ⟨dropped, heq, _⟩ := trimmed_cases js
  rw [heq, List.take_left]

lemma trimmed_append_nulls (js : List (Param × Json)) :
    trimmed js ++ List.replicate (js.length - (trimmed js).length) .null = js.map (·.2) := by
  obtain ⟨dropped, heq, hblank⟩ := trimmed_cases js
  have hlength : dropped.length = js.length - (trimmed js).length := by
    have hcount := congrArg List.length heq
    rw [List.length_map, List.length_append] at hcount
    rw [hcount, Nat.add_sub_cancel_left]
  have hdropped : dropped = (js.drop (trimmed js).length).map (·.2) := by
    rw [List.map_drop, heq, List.drop_left]
  rw [heq, ← hlength, ← List.eq_replicate_length.mpr]
  intro j hj
  rw [hdropped] at hj
  obtain ⟨e, he, rfl⟩ := List.mem_map.mp hj
  exact (hblank e he).2

/-- The wire form of a required parameter is sent. -/
lemma getElem?_trimmed_of_required {i : Nat} (hps : js.map (·.1) = m.params)
    (hp : m.params[i]? = some p) (hrequired : ¬ p.optional) :
    (trimmed js)[i]? = (js.map (·.2))[i]? := by
  have hi : i < (trimmed js).length := by
    by_contra hi
    exact hrequired ((isLeast_length_trimmed hps).1 i p (Nat.le_of_not_lt hi) hp).1
  obtain ⟨dropped, heq, _⟩ := trimmed_cases js
  rw [heq, List.getElem?_append_left hi]

lemma sends_of_encodeParams (hq : ∀ p ∈ m.params, p.optional → p.shape.isQualified = false)
    (h : m.encodeParams args = .ok params) : ∃ full, m.Sends args full params := by
  obtain ⟨hlength, js, hjs, rfl⟩ := encodeParams_eq_ok_iff.mp h
  obtain ⟨hps, hpositions⟩ := encodeAll_eq_ok_iff.mp hjs
  have hwritten (i : Nat) (p : Param) (j : Json) (hp : m.params[i]? = some p)
      (hj : (js.map (·.2))[i]? = some j) : p.Writes args[i]? j := by
    rw [List.getElem?_map] at hj
    obtain ⟨e, he, rfl⟩ := Option.map_eq_some_iff.mp hj
    have hparam := hp
    rw [← hps, List.getElem?_map, he] at hparam
    cases hparam
    exact (encodeGiven_eq_ok_iff_writes (hq e.1 (List.mem_of_getElem? hp))).mp (hpositions i e he)
  have hcount : js.length = m.params.length := by rw [← hps, List.length_map]
  refine ⟨js.map (·.2), ?_⟩
  constructor
  case length => rw [List.length_map, hcount]
  case written => exact hwritten
  case unchanged =>
    intro i p room j hp hshape harg hj hroom hnames
    have hi : i < (js.map (·.2)).length := by
      rw [List.length_map, hcount]
      exact (List.getElem?_eq_some_iff.mp hp).1
    have hfound := List.getElem?_eq_getElem hi
    have hown := hwritten i p _ hp hfound
    rw [harg] at hown
    rw [hfound, Param.eq_of_writes_json hshape hj hroom hnames hown]
  case taken => exact trimmed_eq_take js
  case least => exact isLeast_length_trimmed hps
  case padded => rw [← hcount, trimmed_append_nulls]
  case kept =>
    intro i p hp hrequired
    exact getElem?_trimmed_of_required hps hp hrequired
  case explicit =>
    intro n hn
    rw [encodeParams_append_nulls hn (optional_of_encodeParams h) hq, h]

/-- Arguments are accepted if there are not too many and each parameter accepts what is given for it; otherwise
they are invalid. What is sent for them is the shortest beginning of the wire forms of all parameters behind
which these are nulls of optional parameters. -/
theorem encodeParams_sends_prefix (hq : ∀ p ∈ m.params, p.optional → p.shape.isQualified = false)
    (args : List Value) :
    ((∃ params, m.encodeParams args = .ok params) ↔
      args.length ≤ m.params.length ∧
        ∀ (i : Nat) (p : Param), m.params[i]? = some p → p.Accepts args[i]?) ∧
    (∀ fault, m.encodeParams args = .error fault → ∃ cause, fault = .invalid cause) ∧
    ∀ params, m.encodeParams args = .ok params → ∃ full, m.Sends args full params := by
  refine ⟨?_, fun fault h => exists_invalid_of_encodeParams hq h,
    fun params h => sends_of_encodeParams hq h⟩
  simp only [encodeParams_eq_ok_iff, exists_and_left]
  refine and_congr_right fun _ => ?_
  rw [← exists_encodeAll_iff hq]
  constructor
  · rintro ⟨_, js, hjs, _⟩
    exact ⟨js, hjs⟩
  · rintro ⟨js, hjs⟩
    exact ⟨trimmed js, js, hjs, rfl⟩

/-- A method with optional parameters before and behind a required one. -/
def interleaved : Method :=
  of "m" [optional "a" Shape.uint64, required "b" .json, optional "c" Shape.h256, optional "d" .bool]
    .null

/-- The null of a required parameter is sent and those of optional ones behind it are not; where the required
parameter has nothing, the arguments are invalid. -/
theorem encodeParams_sends_prefix_interleaved :
    (∃ full, interleaved.Sends [.int 5, .null, .null] full [.str "0x5", .null]) ∧
      ∃ cause, interleaved.encodeParams [.int 5] = .error (.invalid cause) := by
  have hq : ∀ p ∈ interleaved.params, p.optional → p.shape.isQualified = false := by decide
  constructor
  · obtain ⟨_, _, hsends⟩ := encodeParams_sends_prefix hq [.int 5, .null, .null]
    exact hsends _ (Checked.eq_ok_of_toOption (by decide +kernel))
  · obtain ⟨haccepted, hinvalid, _⟩ := encodeParams_sends_prefix hq [.int 5]
    cases hsent : interleaved.encodeParams [.int 5] with
    | error fault =>
      obtain ⟨cause, rfl⟩ := hinvalid fault hsent
      exact ⟨cause, rfl⟩
    | ok params =>
      have hb : (required "b" .json).Accepts none := (haccepted.mp ⟨params, hsent⟩).2 1 _ rfl
      cases hb

end Method

end ChainRpc
