import ChainRpc.Text.Codec

/-!
# Why a body is no JSON document

A body may have no text in its encoding, its text may break the grammar, or it may exceed a limit:
integers have a greatest number of digits and containers a greatest depth.
-/

namespace ChainRpc

inductive SyntaxFault.Kind
  | value | propertyName | colon | comma | extraData
  | unterminated | control | escape | unicodeEscape
  deriving DecidableEq, Repr

def SyntaxFault.Kind.message : SyntaxFault.Kind → Text
  | .value         => "Expecting value"
  | .propertyName  => "Expecting property name enclosed in double quotes"
  | .colon         => "Expecting ':' delimiter"
  | .comma         => "Expecting ',' delimiter"
  | .extraData     => "Extra data"
  | .unterminated  => "Unterminated string starting at"
  | .control       => "Invalid control character at"
  | .escape        => "Invalid \\escape"
  | .unicodeEscape => "Invalid \\uXXXX escape"

/-- A place where a document breaks the grammar. -/
structure SyntaxFault where
  kind : SyntaxFault.Kind
  /-- How many code points come before the place. -/
  position : Nat
  line : Nat
  column : Nat
  deriving DecidableEq, Repr

def SyntaxFault.ofPosition (kind : SyntaxFault.Kind) (document : Text) (position : Nat) :
    SyntaxFault :=
  let before := document.take position
  ⟨kind, position, before.count .newline + 1,
    (before.reverse.takeWhile (· != CodePoint.newline)).length + 1⟩

def SyntaxFault.message (f : SyntaxFault) : Text :=
  Text.concat [f.kind.message, ": line ", Text.ofNat f.line, " column ", Text.ofNat f.column,
    " (char ", Text.ofNat f.position, ")"]

/-- Why a body is no JSON document. -/
inductive Unreadable
  | undecodable (fault : Undecodable)
  | malformed (fault : SyntaxFault)
  | tooManyDigits (count : Nat)
  | tooDeep
  deriving DecidableEq, Repr

/-- The greatest number of digits of an integer that is turned into text or read from it. -/
def digitLimit : Nat := 4300

/-- The text of an integer, if it is within the limit. -/
def decimal? (n : Int) : Option Text :=
  if n.natAbs < 10 ^ digitLimit then some (Text.ofInt n) else none

def tooManyDigitsMessage (count : Nat) : Text :=
  Text.concat ["Exceeds the limit (", Text.ofNat digitLimit,
    " digits) for integer string conversion: value has ", Text.ofNat count,
    " digits; use sys.set_int_max_str_digits() to increase the limit"]

def tooLargeMessage : Text :=
  Text.concat ["Exceeds the limit (", Text.ofNat digitLimit,
    " digits) for integer string conversion; use sys.set_int_max_str_digits() to increase the limit"]

end ChainRpc
