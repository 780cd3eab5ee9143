import ChainRpc.Binary64.Decimal
import ChainRpc.Json
import ChainRpc.Json.Unreadable
import ChainRpc.Text.Detect

/-!
# Reading JSON

A document is one value with white space around it. The grammar is that of JSON with the words `NaN`,
`Infinity` and `-Infinity` for the remaining floating-point numbers, and escapes may spell lone
surrogates. Of members of one name the last value counts, in the place of the first.

The reader goes from left to right over the list of code points and stops at the first fault. A fault
knows how many code points are left, from which its position in the document follows.
-/

namespace ChainRpc.Json

structure Limits where
  digits : Option Nat
  nesting : Nat

def Limits.standard : Limits := ⟨some digitLimit, 990⟩

namespace Reader

/-- Why reading stopped. -/
inductive Stop
  /-- The grammar is broken where `remaining` code points are left. -/
  | broken (kind : SyntaxFault.Kind) (remaining : Nat)
  | tooManyDigits (count : Nat)
  | tooDeep
  deriving DecidableEq, Repr

def isSpace (c : CodePoint) : Bool :=
  c == .space || c == .tab || c == .newline || c == .carriageReturn

def skipSpace (t : Text) : Text :=
  t.dropWhile isSpace

/-! ### Strings -/

/-- The number that four hexadecimal digits stand for. -/
def hex4? (a b c d : CodePoint) : Option Nat := do
  return ((← a.hexValue?) * 16 + (← b.hexValue?)) * 256 + (← c.hexValue?) * 16 + (← d.hexValue?)

def unescape? : CodePoint → Option CodePoint
  | .quote     => some .quote
  | .backslash => some .backslash
  | .slash     => some .slash
  | 98         => some .backspace
  | 102        => some .formFeed
  | 110        => some .newline
  | 114        => some .carriageReturn
  | 116        => some .tab
  | _          => none

/-- The second half of a surrogate pair, if an escape that spells one comes first and something
follows it. An escape there that is no number is a fault. -/
def lowHalf? : Text → Except Stop (Option CodePoint)
  | .backslash :: .letterU :: a :: b :: c :: d :: _ :: rest =>
    match hex4? a b c d with
    | none     => .error (.broken .unicodeEscape (rest.length + 6))
    | some low => .ok (if CodePoint.IsLowSurrogate low then some low else none)
  | _ => .ok none

/-- Reads a string on after its opening mark, where `opening` code points were left at the mark;
`read` holds the code points so far, last first. An escape of four digits has to be followed by
something, and two of them that spell a surrogate pair stand for one code point. -/
def string (opening : Nat) (read : Text) : Text → Except Stop (Text × Text)
  | [] => .error (.broken .unterminated opening)
  | .quote :: rest => .ok (read.reverse, rest)
  | .backslash :: rest =>
    match rest with
    | [] => .error (.broken .unterminated opening)
    | .letterU :: a :: b :: c :: d :: tail =>
      if tail = [] then .error (.broken .unicodeEscape rest.length)
      else match hex4? a b c d with
        | none => .error (.broken .unicodeEscape rest.length)
        | some n =>
          if CodePoint.IsHighSurrogate n then
            match lowHalf? tail with
            | .error stop => .error stop
            | .ok none => string opening (n :: read) tail
            | .ok (some low) =>
              match tail with
              | _ :: _ :: _ :: _ :: _ :: _ :: beyond =>
                string opening (CodePoint.ofPair n low :: read) beyond
              | _ => .error (.broken .unterminated opening)
          else string opening (n :: read) tail
    | .letterU :: _ => .error (.broken .unicodeEscape rest.length)
    | letter :: tail =>
      match unescape? letter with
      | none   => .error (.broken .escape (rest.length + 1))
      | some c => string opening (c :: read) tail
  | c :: rest =>
    if c < 0x20 then .error (.broken .control (rest.length + 1))
    else string opening (c :: read) rest
termination_by structural t => t

/-! ### Words and numbers -/

/-- The words that stand for a value of their own. -/
def words : List (Text × Json) := [
  ("null", .null), ("true", .bool true), ("false", .bool false), ("NaN", .float .nan),
  ("Infinity", .float (.infinite false)), ("-Infinity", .float (.infinite true))]

def word? (t : Text) : Option (Json × Text) :=
  words.findSome? fun (word, value) => (word.isPrefixOf? t).map (value, ·)

/-- The digits of the whole part of a number: one zero, or digits that do not start with one. -/
def wholeDigits : Text → Text × Text
  | .zero :: rest => ([.zero], rest)
  | t             => Binary64.splitDigits t

/-- The digits after a decimal point, if a point with a digit after it comes first. -/
def fractionDigits : Text → Text × Text
  | .point :: c :: rest =>
    if c.IsDigit then Binary64.splitDigits (c :: rest) else ([], .point :: c :: rest)
  | t => ([], t)

/-- The exponent, if the letter for one comes first and digits follow, perhaps after a sign. -/
def exponent : Text → Option Int × Text
  | [] => (none, [])
  | e :: rest =>
    let (negative, tail) := Binary64.splitSign rest
    let (digits, tail) := Binary64.splitDigits tail
    if (e = 'e'.toNat ∨ e = 'E'.toNat) ∧ digits ≠ [] then
      let power : Int := Text.digitsValue digits
      (some (if negative then -power else power), tail)
    else (none, e :: rest)

/-- Reads a number. It is an integer if it has neither a fraction nor an exponent. -/
def number (limits : Limits) (t : Text) : Except Stop (Json × Text) :=
  let (negative, unsigned) : Bool × Text := match t with
    | .minus :: rest => (true, rest)
    | _              => (false, t)
  let (whole, rest) := wholeDigits unsigned
  let (fraction, rest) := fractionDigits rest
  let (power, rest) := exponent rest
  if whole = [] then .error (.broken .value t.length)
  else if fraction = [] ∧ power = none then
    if limits.digits.any (· < whole.length) then .error (.tooManyDigits whole.length)
    else
      let n : Int := Text.digitsValue whole
      .ok (.int (if negative then -n else n), rest)
  else .ok (.float (Binary64.ofDigits negative whole fraction (power.getD 0)), rest)

/-! ### Values -/

/-- Reads a value that is no container. -/
def scalar (limits : Limits) (t : Text) : Except Stop (Json × Text) :=
  match t with
  | .quote :: rest => (string t.length [] rest).map fun (s, rest) => (.str s, rest)
  | _ =>
    match word? t with
    | some found => .ok found
    | none       => number limits t

/-- Reads the items of an array up to its end, `read` holding those so far, last first. Every item
takes at least one code point, so the number of code points bounds the number of items. -/
def items (item : Text → Except Stop (Json × Text)) : (fuel : Nat) → (read : List Json) → Text →
    Except Stop (List Json × Text)
  | 0, _, t => .error (.broken .value t.length)
  | fuel + 1, read, t => do
    let (value, rest) ← item t
    match skipSpace rest with
    | .comma :: rest        => items item fuel (value :: read) (skipSpace rest)
    | .closeBracket :: rest => .ok ((value :: read).reverse, rest)
    | rest                  => .error (.broken .comma rest.length)

/-- Reads an array on after its opening bracket. -/
def array (item : Text → Except Stop (Json × Text)) (t : Text) : Except Stop (Json × Text) :=
  match skipSpace t with
  | .closeBracket :: rest => .ok (.list [], rest)
  | rest => (items item rest.length [] rest).map fun (values, rest) => (.list values, rest)

/-- Reads a name, a colon and a value. -/
def member (item : Text → Except Stop (Json × Text)) (t : Text) : Except Stop ((Text × Json) × Text) :=
  match t with
  | .quote :: rest => do
    let (name, rest) ← string t.length [] rest
    match skipSpace rest with
    | .colon :: rest => do
      let (value, rest) ← item (skipSpace rest)
      return ((name, value), rest)
    | rest => .error (.broken .colon rest.length)
  | _ => .error (.broken .propertyName t.length)

def members (item : Text → Except Stop (Json × Text)) : (fuel : Nat) → (read : Entries Json) → Text →
    Except Stop (Entries Json × Text)
  | 0, _, t => .error (.broken .propertyName t.length)
  | fuel + 1, read, t => do
    let ((name, value), rest) ← member item t
    match skipSpace rest with
    | .comma :: rest      => members item fuel (read.put name value) (skipSpace rest)
    | .closeBrace :: rest => .ok (read.put name value, rest)
    | rest                => .error (.broken .comma rest.length)

def object (item : Text → Except Stop (Json × Text)) (t : Text) : Except Stop (Json × Text) :=
  match skipSpace t with
  | .closeBrace :: rest => .ok (.dict [], rest)
  | rest => (members item rest.length [] rest).map fun (found, rest) => (.dict found, rest)

/-- Reads a value, in which at most `depth` containers may be nested. -/
def value (limits : Limits) : (depth : Nat) → Text → Except Stop (Json × Text)
  | 0, .openBracket :: _ | 0, .openBrace :: _ => .error .tooDeep
  | depth + 1, .openBracket :: rest => array (value limits depth) rest
  | depth + 1, .openBrace :: rest   => object (value limits depth) rest
  | _, t => scalar limits t

/-- Reads a value with white space around it, and nothing after that. -/
def document (limits : Limits) (t : Text) : Except Stop Json := do
  let (found, rest) ← value limits limits.nesting (skipSpace t)
  match skipSpace rest with
  | []   => return found
  | rest => .error (.broken .extraData rest.length)

/-- Why a document could not be read, with the place in it. -/
def Stop.toUnreadable (whole : Text) : Stop → Unreadable
  | .broken kind remaining => .malformed (.ofPosition kind whole (whole.length - remaining))
  | .tooManyDigits count   => .tooManyDigits count
  | .tooDeep               => .tooDeep

end Reader

def ofText (limits : Limits) (t : Text) : Except Unreadable Json :=
  (Reader.document limits t).mapError (·.toUnreadable t)

def ofBytes (raw : Bytes) : Except Unreadable Json :=
  match Encoded.decode raw with
  | .error fault => .error (.undecodable fault)
  | .ok t        => ofText .standard t

end ChainRpc.Json
