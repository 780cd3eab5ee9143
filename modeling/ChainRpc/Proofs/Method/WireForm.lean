import ChainRpc.Proofs.Method.Params
import ChainRpc.Proofs.Shape.Narrowing

/-!
# The wire form of arguments

Arguments come in many forms: numbers or texts, bytes or digits in either case, dictionaries or records of a
class or of one that extends it. What is sent for them is one form only. It reads, by the strict rules of the
wire, as what the arguments stand for; it is what would be sent for itself; and arguments that stand for the
same are sent in the same form.
-/

namespace ChainRpc

/-! ### What arguments stand for -/

/-- What is given for a parameter, if anything is, stands for a typed value; for an optional parameter nothing
stands for null. -/
def Param.Takes (p : Param) (mode : Mode) (given : Option Value) (v : Value) : Prop :=
  match given with
  | some x => p.argument.decode mode x = .ok v
  | none   => p.optional ∧ v = .null

namespace Method

variable {m : Method} {p : Param} {args args' : List Value} {params : List Json}
  {js : List (Param × Json)} {given : Option Value} {v : Value} {i : Nat} {j : Json}

lemma isCatalogued_table :
    ∀ m ∈ table, ∀ p ∈ m.params, ∀ part ∈ p.argument.parts, part.isCatalogued := by
  decide +kernel

lemma isCatalogued_of_getElem? (hm : m ∈ table) (hp : m.params[i]? = some p) :
    ∀ part ∈ p.argument.parts, part.isCatalogued :=
  isCatalogued_table m hm p (List.mem_of_getElem? hp)

/-- What is given for a parameter is written as what it stands for. -/
lemma encodeGiven_eq_ok_iff (hq : p.optional → p.shape.isQualified = false) :
    m.encodeGiven p given = .ok j ↔ ∃ v, p.Takes .caller given v ∧ p.argument.encode v = j := by
  cases given with
  | none =>
    constructor
    · intro h
      obtain ⟨ho, rfl⟩ := optional_of_encodeGiven h
      exact ⟨.null, ⟨ho, rfl⟩, by rw [Param.argument, if_pos ho]; rfl⟩
    · rintro ⟨v, ⟨ho, rfl⟩, rfl⟩
      rw [Param.argument, if_pos ho]
      exact if_pos ho
  | some x =>
    have hplain : ¬ (p.optional ∧ p.shape.isQualified) := fun h => Bool.eq_false_iff.mp (hq h.1) h.2
    rw [encodeGiven, encodeArgument, if_neg hplain]
    unfold Param.Takes
    dsimp only
    cases p.argument.decode .caller x with
    | error issues =>
      refine iff_of_false ?_ ?_
      · rintro ⟨⟩
      · rintro ⟨_, ⟨⟩, _⟩
    | ok typed => simp

/-! ### Positions of the wire form -/

section Position

variable (hp : ∀ part ∈ p.argument.parts, part.isCatalogued)
include hp

/-- What an argument stands for is what its wire form is read as. -/
lemma takes_wire_of_encodeGiven (hgiven : ∀ x ∈ given, x.Given) (hv : p.Takes .caller given v) :
    p.Takes .wire (some (.ofJson (p.argument.encode v))) (p.argument.narrowed v) := by
  cases given with
  | some x => exact Shape.decode_encode_of_decode hp (hgiven x rfl) hv
  | none =>
    obtain ⟨ho, rfl⟩ := hv
    rw [Param.Takes, Param.argument, if_pos ho]
    rfl

/-- Only null, or nothing, is written as null. -/
lemma eq_null_of_encode_eq_null (hgiven : ∀ x ∈ given, x.Given) (hv : p.Takes .caller given v)
    (hnull : p.argument.encode v = .null) : v = .null ∧ given.getD .null = .null := by
  have hread := takes_wire_of_encodeGiven hp hgiven hv
  rw [hnull] at hread
  obtain rfl := Shape.narrowed_eq_null_iff.mp (Shape.eq_null_of_decode_null hread)
  refine ⟨rfl, ?_⟩
  cases given with
  | none => rfl
  | some x =>
    exact Shape.eq_null_of_decode_eq_null
      (fun part hpart => Shape.isInvertible_of_isCatalogued (hp part hpart)) hv

/-- The part of an argument that the parameter knows of is written like the argument. -/
lemma encode_narrowed_argument (v : Value) :
    p.argument.encode (p.argument.narrowed v) = p.argument.encode v :=
  Shape.encode_narrowed (fun part hpart => Shape.isInvertible_of_isCatalogued (hp part hpart)) v

/-- Arguments that are written alike stand for the same. -/
lemma narrowed_eq_of_encode_eq {x x' v v' : Value} (hx : x.Given) (hx' : x'.Given)
    (h : p.argument.decode .caller x = .ok v) (h' : p.argument.decode .caller x' = .ok v')
    (heq : p.argument.encode v = p.argument.encode v') :
    p.argument.narrowed v = p.argument.narrowed v' := by
  have hread := Shape.decode_encode_of_decode hp hx h
  rw [heq, Shape.decode_encode_of_decode hp hx' h'] at hread
  exact (Except.ok.inj hread).symm

end Position

/-! ### Arguments that are written -/

section Written

variable (hm : m ∈ table)
include hm

lemma positions_of_encodeParams (h : m.encodeParams args = .ok params) :
    ∃ js, trimmed js = params ∧ js.map (·.1) = m.params ∧
      ∀ (i : Nat) (e : Param × Json), js[i]? = some e →
        ∃ v, e.1.Takes .caller args[i]? v ∧ e.1.argument.encode v = e.2 := by
  obtain ⟨_, js, hjs, hparams⟩ := encodeParams_eq_ok_iff.mp h
  obtain ⟨hps, hpositions⟩ := encodeAll_eq_ok_iff.mp hjs
  refine ⟨js, hparams, hps, fun i e he => ?_⟩
  have hmem : e.1 ∈ m.params := hps ▸ List.mem_map_of_mem (List.mem_of_getElem? he)
  exact (encodeGiven_eq_ok_iff (isQualified_table m hm e.1 hmem)).mp (hpositions i e he)

/-- Nothing is sent behind the last argument. -/
lemma length_le_of_encodeParams (h : m.encodeParams args = .ok params) :
    params.length ≤ args.length := by
  obtain ⟨js, rfl, _, hpositions⟩ := positions_of_encodeParams hm h
  refine length_trimmed_le fun e he => ?_
  obtain ⟨k, hk⟩ := List.mem_iff_getElem?.mp he
  rw [List.getElem?_drop] at hk
  obtain ⟨v, hv, hwritten⟩ := hpositions _ e hk
  rw [List.getElem?_eq_none (Nat.le_add_right _ _)] at hv
  obtain ⟨ho, rfl⟩ := hv
  rw [Param.argument, if_pos ho] at hwritten
  exact ⟨ho, hwritten.symm⟩

/-- At every position the wire form of an argument is sent, or else an optional parameter has null or
nothing. -/
lemma position_cases (hargs : ∀ x ∈ args, x.Given) (h : m.encodeParams args = .ok params)
    (hp : m.params[i]? = some p) :
    (∃ x v, args[i]? = some x ∧ p.argument.decode .caller x = .ok v ∧
      params[i]? = some (p.argument.encode v)) ∨
    (params[i]? = none ∧ p.optional ∧ args[i]?.getD .null = .null ∧ p.Takes .caller args[i]? .null) := by
  have hlength := length_le_of_encodeParams hm h
  obtain ⟨js, rfl, hps, hpositions⟩ := positions_of_encodeParams hm h
  obtain ⟨dropped, hjs, hdropped⟩ := trimmed_cases js
  rw [← hps, List.getElem?_map] at hp
  obtain ⟨e, he, rfl⟩ := Option.map_eq_some_iff.mp hp
  obtain ⟨v, hv, hwritten⟩ := hpositions i e he
  by_cases hi : i < (trimmed js).length
  · refine .inl ⟨args[i], v, List.getElem?_eq_getElem (by omega), ?_, ?_⟩
    · rwa [List.getElem?_eq_getElem (by omega)] at hv
    · rw [hwritten, ← List.getElem?_append_left hi, ← hjs, List.getElem?_map, he]
      rfl
  · obtain ⟨k, rfl⟩ := Nat.exists_eq_add_of_le (Nat.le_of_not_lt hi)
    obtain ⟨ho, hnull⟩ := hdropped e
      (List.mem_iff_getElem?.mpr ⟨k, by rw [List.getElem?_drop, he]⟩)
    have hmem : e.1 ∈ m.params := hps ▸ List.mem_map_of_mem (List.mem_of_getElem? he)
    obtain ⟨rfl, habsent⟩ := eq_null_of_encode_eq_null (isCatalogued_table m hm e.1 hmem)
      (fun x hx => hargs x (List.mem_of_getElem? hx)) hv (hwritten.trans hnull)
    exact .inr ⟨List.getElem?_eq_none (Nat.le_add_right _ _), ho, habsent, hv⟩

/-- Arguments that are written alike at every position are sent alike. -/
lemma encodeParams_congr (hlength : args.length ≤ m.params.length)
    (hlength' : args'.length ≤ m.params.length)
    (hsame : ∀ (i : Nat) (p : Param), m.params[i]? = some p → ∃ v v', p.Takes .caller args[i]? v ∧
      p.Takes .caller args'[i]? v' ∧ p.argument.encode v = p.argument.encode v') :
    m.encodeParams args' = m.encodeParams args := by
  rw [encodeParams, encodeParams, if_neg (Nat.not_lt.mpr hlength), if_neg (Nat.not_lt.mpr hlength')]
  refine congrArg (Except.map trimmed) (encodeAll_congr fun i p hp => ?_)
  have hq := isQualified_table m hm p (List.mem_of_getElem? hp)
  obtain ⟨v, v', hv, hv', heq⟩ := hsame i p hp
  rw [(encodeGiven_eq_ok_iff hq).mpr ⟨v, hv, heq⟩, (encodeGiven_eq_ok_iff hq).mpr ⟨v', hv', rfl⟩]

/-- What is sent is read as the part of the typed argument that the parameter knows of. -/
lemma reads_of_encodeParams (hargs : ∀ x ∈ args, x.Given) (h : m.encodeParams args = .ok params)
    (hj : params[i]? = some j) :
    ∃ p x v, m.params[i]? = some p ∧ args[i]? = some x ∧ p.argument.decode .caller x = .ok v ∧
      p.argument.decode .wire (.ofJson j) = .ok (p.argument.narrowed v) := by
  have hlength := (encodeParams_eq_ok_iff.mp h).1
  have hsent := length_le_of_encodeParams hm h
  have hi : i < m.params.length := by
    obtain ⟨hlt, _⟩ := List.getElem?_eq_some_iff.mp hj
    omega
  have hp := List.getElem?_eq_getElem hi
  rcases position_cases hm hargs h hp with ⟨x, v, hx, hv, hwritten⟩ | ⟨hnone, _⟩
  · cases hj.symm.trans hwritten
    exact ⟨_, x, v, hp, hx, hv, Shape.decode_encode_of_decode (isCatalogued_of_getElem? hm hp)
      (hargs x (List.mem_of_getElem? hx)) hv⟩
  · cases hj.symm.trans hnone

lemma absent_of_length_le (hargs : ∀ x ∈ args, x.Given) (h : m.encodeParams args = .ok params)
    (hi : params.length ≤ i) (hp : m.params[i]? = some p) :
    p.optional ∧ args[i]?.getD .null = .null := by
  rcases position_cases hm hargs h hp with ⟨_, _, _, _, hwritten⟩ | ⟨_, ho, habsent, _⟩
  · rw [List.getElem?_eq_none hi] at hwritten
    cases hwritten
  · exact ⟨ho, habsent⟩

/-- What is sent is sent for itself too. -/
lemma encodeParams_sent (hargs : ∀ x ∈ args, x.Given) (h : m.encodeParams args = .ok params) :
    m.encodeParams (params.map .ofJson) = .ok params := by
  have hlength := (encodeParams_eq_ok_iff.mp h).1
  have hsent := length_le_of_encodeParams hm h
  rw [← h]
  refine encodeParams_congr hm hlength (by simpa using Nat.le_trans hsent hlength) fun i p hp => ?_
  rw [List.getElem?_map]
  rcases position_cases hm hargs h hp with ⟨x, v, hx, hv, hwritten⟩ | ⟨hnone, ho, _, hv⟩
  · have hcatalogued := isCatalogued_of_getElem? hm hp
    have hread := Shape.decode_encode_of_decode hcatalogued (hargs x (List.mem_of_getElem? hx)) hv
    rw [hx, hwritten]
    exact ⟨v, p.argument.narrowed v, hv, Shape.decode_caller_of_wire hread,
      (encode_narrowed_argument hcatalogued v).symm⟩
  · rw [hnone]
    exact ⟨.null, .null, hv, ⟨ho, rfl⟩, rfl⟩

/-- Arguments for which the same is sent stand for the same. -/
lemma takes_same_of_encodeParams (hargs : ∀ x ∈ args, x.Given) (hargs' : ∀ x ∈ args', x.Given)
    (h : m.encodeParams args = .ok params) (h' : m.encodeParams args' = .ok params)
    (hp : m.params[i]? = some p) :
    ∃ v v', p.Takes .caller args[i]? v ∧ p.Takes .caller args'[i]? v' ∧
      p.argument.narrowed v = p.argument.narrowed v' := by
  rcases position_cases hm hargs h hp with ⟨x, v, hx, hv, hwritten⟩ | ⟨hnone, _, _, hv⟩
  · rcases position_cases hm hargs' h' hp with ⟨x', v', hx', hv', hwritten'⟩ | ⟨hnone', _⟩
    · have heq := Option.some.inj (hwritten.symm.trans hwritten')
      rw [hx, hx']
      exact ⟨v, v', hv, hv', narrowed_eq_of_encode_eq (isCatalogued_of_getElem? hm hp)
        (hargs x (List.mem_of_getElem? hx)) (hargs' x' (List.mem_of_getElem? hx')) hv hv' heq⟩
    · cases hwritten.symm.trans hnone'
  · rcases position_cases hm hargs' h' hp with ⟨_, _, _, _, hwritten'⟩ | ⟨_, _, _, hv'⟩
    · cases hnone.symm.trans hwritten'
    · exact ⟨.null, .null, hv, hv', rfl⟩

end Written

/-- What a method of the table sends for arguments is their strict wire form. At every position that is sent
it reads as the part of the typed argument that the parameter knows of, and behind the last one optional
parameters have null or nothing. It is sent for itself, and it is sent for just those arguments that stand
for the same. -/
theorem encodeParams_is_wire_form (hm : m ∈ table) (hargs : ∀ x ∈ args, x.Given)
    (h : m.encodeParams args = .ok params) :
    (∀ (i : Nat) (j : Json), params[i]? = some j → ∃ p x v, m.params[i]? = some p ∧ args[i]? = some x ∧
      p.argument.decode .caller x = .ok v ∧
      p.argument.decode .wire (.ofJson j) = .ok (p.argument.narrowed v)) ∧
    (∀ (i : Nat) (p : Param), params.length ≤ i → m.params[i]? = some p →
      p.optional ∧ args[i]?.getD .null = .null) ∧
    m.encodeParams (params.map .ofJson) = .ok params ∧
    ∀ args' : List Value, args'.length ≤ m.params.length → (∀ x ∈ args', x.Given) →
      (m.encodeParams args' = .ok params ↔
        ∀ (i : Nat) (p : Param), m.params[i]? = some p → ∃ v v', p.Takes .caller args[i]? v ∧
          p.Takes .caller args'[i]? v' ∧ p.argument.narrowed v = p.argument.narrowed v') := by
  refine ⟨fun i j hj => reads_of_encodeParams hm hargs h hj,
    fun i p hi hp => absent_of_length_le hm hargs h hi hp, encodeParams_sent hm hargs h,
    fun args' hlength hargs' => ⟨fun h' i p hp => takes_same_of_encodeParams hm hargs hargs' h h' hp,
      fun hsame => ?_⟩⟩
  rw [← h]
  refine encodeParams_congr hm (encodeParams_eq_ok_iff.mp h).1 hlength fun i p hp => ?_
  have hcatalogued := isCatalogued_of_getElem? hm hp
  obtain ⟨v, v', hv, hv', heq⟩ := hsame i p hp
  refine ⟨v, v', hv, hv', ?_⟩
  rw [← encode_narrowed_argument hcatalogued, heq, encode_narrowed_argument hcatalogued]

/-- A transaction as a caller gives it, with a hash and with digits in either case. -/
def givenTransaction : Value := .dict [
  ("version", .int 0), ("cell_deps", .list []), ("header_deps", .list []), ("inputs", .list []),
  ("outputs", .tuple []), ("outputs_data", .list []), ("witnesses", .list [.str "0xAb", .bytes [1]]),
  ("hash", .bytes (List.replicate 32 1))]

/-- The record that the class of transactions with a hash makes of it. -/
def transactionWithHash : Value := .record ⟨"TransactionView", ["Transaction", "CkbModel"]⟩ [
  ("version", .int 0), ("cell_deps", .list []), ("header_deps", .list []), ("inputs", .list []),
  ("outputs", .list []), ("outputs_data", .list []), ("witnesses", .list [.bytes [0xAB], .bytes [1]]),
  ("hash", .bytes (List.replicate 32 1))]

/-- What is sent for it, without the hash. -/
def sentTransaction : Json := .dict [
  ("version", .str "0x0"), ("cell_deps", .list []), ("header_deps", .list []), ("inputs", .list []),
  ("outputs", .list []), ("outputs_data", .list []), ("witnesses", .list [.str "0xab", .str "0x01"])]

lemma given_givenTransaction : givenTransaction.Given := by
  refine .dict ?_
  simp only [List.forall_mem_cons]
  exact ⟨.flat rfl, .list nofun, .list nofun, .list nofun, .tuple nofun, .list nofun,
    .list (by simp only [List.forall_mem_cons]; exact ⟨.flat rfl, .flat rfl, List.forall_mem_nil _⟩),
    .flat rfl, List.forall_mem_nil _⟩

lemma given_transactionWithHash : transactionWithHash.Given :=
  @Value.Given.record Shape.transactionView .caller _ _ _
    (.catalogue (by simp [Shape.records])) given_givenTransaction
    (Checked.eq_ok_of_toOption (by decide +kernel))

/-- A transaction with a hash is sent without it, and so is the dictionary that it was made of. -/
theorem encodeParams_is_wire_form_transaction :
    sendTransaction.encodeParams [.ofJson sentTransaction] = .ok [sentTransaction] ∧
    sendTransaction.encodeParams [givenTransaction] = .ok [sentTransaction] := by
  have hm : sendTransaction ∈ table := by simp [table]
  have hargs : ∀ x ∈ [transactionWithHash, .null], x.Given :=
    List.forall_mem_cons.mpr ⟨given_transactionWithHash, List.forall_mem_singleton.mpr (.flat rfl)⟩
  have h : sendTransaction.encodeParams [transactionWithHash, .null] = .ok [sentTransaction] :=
    Checked.eq_ok_of_toOption (by decide +kernel)
  obtain ⟨_, _, hsent, hsame⟩ := encodeParams_is_wire_form hm hargs h
  refine ⟨hsent, (hsame [givenTransaction] (by decide)
    (List.forall_mem_singleton.mpr given_givenTransaction)).mpr fun i p hp => ?_⟩
  cases i with
  | zero =>
    cases hp
    exact ⟨transactionWithHash, Shape.transaction.narrowed transactionWithHash,
      Checked.eq_ok_of_toOption (by decide +kernel), Checked.eq_ok_of_toOption (by decide +kernel),
      by decide +kernel⟩
  | succ i =>
    cases i with
    | zero =>
      cases hp
      exact ⟨.null, .null, rfl, ⟨rfl, rfl⟩, rfl⟩
    | succ i => cases hp

end Method

end ChainRpc
