import ChainRpc.Text.Utf8
import ChainRpc.Value.Shown

/-!
# Headers of a post

Every post says that it carries and accepts JSON, and who sends it if there is a token. The caller's
headers go on top. They are kept as they are given; what cannot be sent is refused only when a post
is made. On the line names are compared without regard to case, and all values of a name count.
-/

namespace ChainRpc.Http

/-- Header names with their values, as a caller gives them. -/
abbrev Headers := List (Value × Value)

namespace Headers

/-! ### Building -/

def defaults : Headers :=
  [(.str "Content-Type", .str "application/json"), (.str "Accept", .str "application/json")]

/-- Puts a value under a name: in the place of the old one, or at the end. -/
def put (name value : Value) : Headers → Headers
  | [] => [(name, value)]
  | (key, old) :: rest =>
    if key = name then (key, value) :: rest else (key, old) :: put name value rest

def putAll (headers : Headers) : Headers → Headers
  | []                    => headers
  | (name, value) :: rest => putAll (headers.put name value) rest

inductive Malformed
  | notIterable (typeName : Text)
  /-- The item at a position does not iterate over a name and a value. -/
  | notPair (position : Nat)
  /-- The item at a position has another length than two. -/
  | notTwo (position length : Nat)
  | unhashable (typeName : Text)
  /-- The token would show an integer beyond the digit limit. -/
  | tooLarge
  deriving DecidableEq, Repr

def Malformed.message : Malformed → Text
  | .notIterable typeName => typeName.inApostrophes ++ " object is not iterable"
  | .notPair position =>
    Text.concat ["cannot convert dictionary update sequence element #", Text.ofNat position,
      " to a sequence"]
  | .notTwo position length =>
    Text.concat ["dictionary update sequence element #", Text.ofNat position, " has length ",
      Text.ofNat length, "; 2 is required"]
  | .unhashable typeName => "unhashable type: " ++ typeName.inApostrophes
  | .tooLarge => tooLargeMessage

/-- The header that an item at a position gives. -/
def ofItem (position : Nat) (item : Value) : Except Malformed (Value × Value) :=
  match item.items? with
  | none => .error (.notPair position)
  | some [name, value] =>
    match name.unhashable? with
    | some typeName => .error (.unhashable typeName)
    | none          => .ok (name, value)
  | some parts => .error (.notTwo position parts.length)

def ofItems : (position : Nat) → List Value → Except Malformed Headers
  | _, [] => .ok []
  | position, item :: rest => do
    return (← ofItem position item) :: (← ofItems (position + 1) rest)

/-- The headers that a value gives: a dictionary by its entries, anything else by its items. A value
that does not count as true gives none. -/
def ofValue : Value → Except Malformed Headers
  | .dict entries => .ok (entries.map fun (name, value) => (.str name, value))
  | v =>
    if ¬ v.isTruthy then .ok []
    else
      match v.items? with
      | some items => ofItems 0 items
      | none       => .error (.notIterable v.typeName)

/-- The header that carries a token; a token that does not count as true is none. -/
def authorization (token : Value) : Except Malformed Headers :=
  if ¬ token.isTruthy then .ok []
  else
    match token.spoken? with
    | some spoken => .ok [(.str "Authorization", .str ("Bearer " ++ spoken))]
    | none        => .error .tooLarge

def build (headers token : Value) : Except Malformed Headers := do
  let own := defaults ++ (← authorization token)
  return own.putAll (← ofValue headers)

/-! ### Encoding -/

structure NotAscii where
  first : CodePoint
  start : Nat
  width : Nat
  deriving DecidableEq, Repr

def NotAscii.message (f : NotAscii) : Text :=
  let place : Text :=
    if f.width = 1 then
      Text.concat ["character '", f.first.escaped, "' in position ", Text.ofNat f.start]
    else
      Text.concat ["characters in position ", Text.ofNat f.start, "-",
        Text.ofNat (f.start + f.width - 1)]
  Text.concat ["'ascii' codec can't encode ", place, ": ordinal not in range(128)"]

/-- The first run of code points outside ASCII in a text, counting positions from `start`. -/
def notAscii? (start : Nat) : Text → Option NotAscii
  | [] => none
  | c :: rest =>
    if 0x80 ≤ c then some ⟨c, start, 1 + (rest.takeWhile (0x80 ≤ ·)).length⟩
    else notAscii? (start + 1) rest

/-- The bytes of a text in ASCII. -/
def asciiBytes (t : Text) : Except NotAscii Bytes :=
  match notAscii? 0 t with
  | some run => .error run
  | none     => .ok (t.map UInt8.ofNat)

inductive Unsendable
  | notAscii (run : NotAscii)
  | name (typeName : Text)
  | value (typeName : Text)
  deriving DecidableEq, Repr

def Unsendable.message : Unsendable → Text
  | .notAscii run  => run.message
  | .name typeName => typeName.inApostrophes ++ " object has no attribute 'encode'"
  | .value typeName =>
    Text.concat ["Header value must be str or bytes, not <class ", typeName.inApostrophes, ">"]

/-- Names and values of headers on the line. -/
abbrev Fields := List (Bytes × Bytes)

/-- A name or a value on the line: a text in ASCII, or bytes as they are. -/
def line (refusal : Text → Unsendable) : Value → Except Unsendable Bytes
  | .bytes b => .ok b
  | .str t   => (asciiBytes t).mapError .notAscii
  | v        => .error (refusal v.typeName)

def encode (headers : Headers) : Except Unsendable Fields :=
  headers.mapM fun (name, value) => do return (← line .name name, ← line .value value)

end Headers

/-! ### On the line -/

namespace Headers.Fields

def bytes (t : Text) : Bytes :=
  t.map UInt8.ofNat

/-- A name with its letters from `A` to `Z` in lower case. -/
def foldCase (name : Bytes) : Bytes :=
  name.map fun b => if 65 ≤ b ∧ b ≤ 90 then b + 32 else b

def sameName (a b : Bytes) : Bool :=
  foldCase a == foldCase b

def has (fields : Fields) (name : Text) : Bool :=
  fields.any fun f => sameName f.1 (bytes name)

/-- Puts a value under a name that has none. -/
def putNew (fields : Fields) (name : Text) (value : Bytes) : Fields :=
  if fields.has name then fields else fields ++ [(bytes name, value)]

/-- Puts a value in the place of all values of a name. -/
def replace (fields : Fields) (name : Text) (value : Bytes) : Fields :=
  fields.filter (fun f => !sameName f.1 (bytes name)) ++ [(bytes name, value)]

/-- The text of bytes in an encoding in which all names and values have a text: UTF-8, which covers
ASCII, or else one code point for each byte. -/
def decode (fields : Fields) (b : Bytes) : Text :=
  let isUtf8 (b : Bytes) : Bool := (Utf8.decode b).toOption.isSome
  if fields.all fun f => isUtf8 f.1 && isUtf8 f.2 then (Utf8.decode b).toOption.getD []
  else b.map UInt8.toNat

/-- The values under a name, joined by commas, if there are any. -/
def value? (fields : Fields) (name : Text) : Option Text :=
  match fields.filter fun f => sameName f.1 (Utf8.encodeAll name) with
  | []     => none
  | values => some (Text.joined ", " (values.map fun f => decode fields f.2))

end Headers.Fields

end ChainRpc.Http
