import ChainRpc.Idna.Punycode
import ChainRpc.Idna.Repertoire
import ChainRpc.Text.Direction
import ChainRpc.Text.Joining
import ChainRpc.Text.Lower
import ChainRpc.Text.Normal
import ChainRpc.Text.Quoted
import ChainRpc.Text.Script

/-!
# Labels of internationalised names

A label is in its normal spelling, does not begin with a mark, has hyphens only inside and not as third
and fourth, and holds code points of the repertoire, of which some ask for certain neighbours. If a part
of it is written from right to left, so is all of it, numbers aside.
-/

namespace ChainRpc.Idna

inductive Fault
  | emptyName
  | emptyLabel
  | labelTooLong
  | nameTooLong
  /-- Nothing follows the mark of an ASCII form. -/
  | noContent
  | hyphenLast
  | notPunycode
  | notNormal
  | hyphensInside
  | hyphenAtEnd
  | markFirst
  | joiner (c : CodePoint) (position : Nat) (label : Text)
  | context (c : CodePoint) (position : Nat) (label : Text)
  | codePoint (c : CodePoint) (position : Nat) (label : Text)
  | firstDirection (label : Text)
  | inRightToLeft (position : Nat)
  | mixedNumbers
  | inLeftToRight (position : Nat)
  | lastDirection

namespace Fault

def point (c : CodePoint) : Text :=
  let digits := (Text.hexOfNat c).map fun d => if d.Between 97 102 then d - 32 else d
  "U+" ++ List.replicate (4 - digits.length) CodePoint.zero ++ digits

def message : Fault → Text
  | .emptyName     => "Empty domain"
  | .emptyLabel    => "Empty Label"
  | .labelTooLong  => "Label too long"
  | .nameTooLong   => "Domain too long"
  | .noContent     => "Malformed A-label, no Punycode eligible content found"
  | .hyphenLast    => "A-label must not end with a hyphen"
  | .notPunycode   => "Invalid A-label"
  | .notNormal     => "Label must be in Normalization Form C"
  | .hyphensInside => "Label has disallowed hyphens in 3rd and 4th position"
  | .hyphenAtEnd   => "Label must not start or end with a hyphen"
  | .markFirst     => "Label begins with an illegal combining character"
  | .joiner c position label =>
    Text.concat ["Joiner ", point c, " not allowed at position ", Text.ofNat position, " in ",
      label.quoted]
  | .context c position label =>
    Text.concat ["Codepoint ", point c, " not allowed at position ", Text.ofNat position, " in ",
      label.quoted]
  | .codePoint c position label =>
    Text.concat ["Codepoint ", point c, " at position ", Text.ofNat position, " of ",
      label.quoted, " not allowed"]
  | .firstDirection label =>
    Text.concat ["First codepoint in label ", label.quoted, " must be directionality L, R or AL"]
  | .inRightToLeft position =>
    Text.concat ["Invalid direction for codepoint at position ", Text.ofNat position,
      " in a right-to-left label"]
  | .mixedNumbers => "Can not mix numeral types in a right-to-left label"
  | .inLeftToRight position =>
    Text.concat ["Invalid direction for codepoint at position ", Text.ofNat position,
      " in a left-to-right label"]
  | .lastDirection => "Label ends with illegal codepoint directionality"

end Fault

namespace Label

/-! ### Code points in their places -/

/-- The zero-width non-joiner and the zero-width joiner. -/
abbrev IsJoiner (c : CodePoint) : Prop := c.Between 0x200C 0x200D

/-- A joiner may stand between what is before it, given last first, and what is behind it. -/
def admitsJoiner (c : CodePoint) (before behind : Text) : Bool :=
  before.head?.any (fun d => d.combiningClass == CodePoint.viramaClass) ||
    (c == 0x200C && (before.find? fun d => !d.isTransparent).any CodePoint.joinsNext &&
      (behind.find? fun d => !d.isTransparent).any CodePoint.joinsPrevious)

/-- A digit of the two rows of digits used with the Arabic script. -/
abbrev IsArabicDigit (c : CodePoint) : Prop := c.Between 0x660 0x669 ∨ c.Between 0x6F0 0x6F9

/-- The code point is admitted in certain places only, joiners aside: a middle dot, a Greek numeral
sign, two Hebrew signs, a Katakana middle dot, and Arabic digits. -/
def isConditional (c : CodePoint) : Bool :=
  [0xB7, 0x375, 0x5F3, 0x5F4, 0x30FB].contains c || decide (IsArabicDigit c)

/-- Such a code point may stand between what is before it, given last first, and what is behind it. -/
def admits (c : CodePoint) (before behind : Text) : Bool :=
  if c = 0xB7 then before.head? == some 0x6C && behind.head? == some 0x6C
  else if c = 0x375 then behind.head?.any CodePoint.isGreek
  else if c = 0x5F3 ∨ c = 0x5F4 then before.head?.any CodePoint.isHebrew
  else
    let others := before ++ behind
    if c = 0x30FB then others.any CodePoint.isJapanese
    else if c.Between 0x660 0x669 then others.all fun d => ¬ d.Between 0x6F0 0x6F9
    else others.all fun d => ¬ d.Between 0x660 0x669

/-- Checks the code points behind some others, given last first, one after the other. -/
def checkBehind (label before : Text) : Text → Except Fault Unit
  | [] => .ok ()
  | c :: rest =>
    let position := before.length + 1
    if isAdmitted c then checkBehind label (c :: before) rest
    else if IsJoiner c then
      if admitsJoiner c before rest then checkBehind label (c :: before) rest
      else .error (.joiner c position label)
    else if isConditional c then
      if admits c before rest then checkBehind label (c :: before) rest
      else .error (.context c position label)
    else .error (.codePoint c position label)

/-! ### Directions -/

/-- A direction that belongs into a label written from right to left. -/
def goesRightToLeft : Direction → Bool
  | .leftToRight => false
  | _            => true

/-- A direction that belongs into a label written from left to right. -/
def goesLeftToRight : Direction → Bool
  | .leftToRight | .number | .mark | .neutral => true
  | _ => false

/-- The first direction, marks aside, of a label from its end satisfies a test. -/
def endsWith (test : Direction → Bool) (directions : List Direction) : Bool :=
  (directions.reverse.find? (· != .mark)).any test

/-- Checks the directions of a label that is written from right to left from a position on. Numbers of
one kind follow the first one. -/
def checkRightToLeft (kind : Option Direction) : (position : Nat) → List Direction →
    Except Fault Unit
  | _, [] => .ok ()
  | position, d :: rest =>
    if ¬ goesRightToLeft d then .error (.inRightToLeft position)
    else if d = .number ∨ d = .arabicNumber then
      if kind = none ∨ kind = some d then checkRightToLeft (some d) (position + 1) rest
      else .error .mixedNumbers
    else checkRightToLeft kind (position + 1) rest

def checkLeftToRight : (position : Nat) → List Direction → Except Fault Unit
  | _, [] => .ok ()
  | position, d :: rest =>
    if goesLeftToRight d then checkLeftToRight (position + 1) rest
    else .error (.inLeftToRight position)

/-- Checks the directions of a label, if any part of it is written from right to left. -/
def checkDirections (label : Text) : Except Fault Unit :=
  let directions := label.map CodePoint.direction
  if directions.all fun d => goesLeftToRight d then .ok ()
  else
    match directions.headD .neutral with
    | .rightToLeft | .arabic => do
      checkRightToLeft none 1 directions
      let ends (d : Direction) : Bool :=
        d == .rightToLeft || d == .arabic || d == .number || d == .arabicNumber
      if endsWith ends directions then .ok () else .error .lastDirection
    | .leftToRight => checkLeftToRight 1 directions
    | _ => .error (.firstDirection label)

/-! ### Whole labels -/

def check (label : Text) : Except Fault Unit := do
  if label = [] then throw .emptyLabel
  if ¬ label.isNormal then throw .notNormal
  if (label.drop 2).take 2 = ("--" : Text) then throw .hyphensInside
  if label.head? = some CodePoint.minus ∨ label.getLast? = some CodePoint.minus then
    throw .hyphenAtEnd
  if label.head?.any CodePoint.isMark then throw .markFirst
  checkBehind label [] label
  checkDirections label

/-- What the ASCII form of a label begins with if the label is not ASCII itself. -/
def mark : Text := "xn--"

abbrev IsAscii (t : Text) : Prop := ∀ c ∈ t, c < 0x80

/-- Checks what a label in ASCII stands for. -/
def checkAscii (label : Text) : Except Fault Unit :=
  let label := label.lower
  if ¬ mark.isPrefixOf label then check label
  else
    let content := label.drop mark.length
    if content = [] then .error .noContent
    else if content.getLast? = some CodePoint.minus then .error .hyphenLast
    else
      match Punycode.decode content with
      | none => .error .notPunycode
      | some label => check label

/-- Checks a label in either form. -/
def checkEither (label : Text) : Except Fault Unit :=
  if IsAscii label then checkAscii label else check label

def maxLength : Nat := 63

def encode (label : Text) : Except Fault Text := do
  checkEither label
  let ascii := if IsAscii label then label else mark ++ Punycode.encode label
  if maxLength < ascii.length then throw .labelTooLong
  return ascii

end Label

end ChainRpc.Idna
