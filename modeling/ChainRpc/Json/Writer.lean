import ChainRpc.Json
import ChainRpc.Json.Unreadable

/-!
# Writing JSON

Text without white space. Strings are written as they stand except for the quotation mark, the
backslash and the control characters. How floating-point numbers are written is left to the caller.
-/

namespace ChainRpc.Json

def escape (c : CodePoint) : Text :=
  match c with
  | .quote          => "\\\""
  | .backslash      => "\\\\"
  | .backspace      => "\\b"
  | .tab            => "\\t"
  | .newline        => "\\n"
  | .formFeed       => "\\f"
  | .carriageReturn => "\\r"
  | c => if c < 0x20 then "\\u" ++ Text.hexPadded 4 c else [c]

def writeString (t : Text) : Text :=
  .quote :: t.flatMap escape ++ [.quote]

mutual

/-- The text of a value, `float` writing the floating-point numbers. -/
def write (float : Binary64 → Text) : Json → Text
  | .null       => "null"
  | .bool true  => "true"
  | .bool false => "false"
  | .int n      => Text.ofInt n
  | .float x    => float x
  | .str t      => writeString t
  | .list []             => "[]"
  | .list (item :: rest) => .openBracket :: write float item ++ writeItems float rest
  | .dict []             => [.openBrace, .closeBrace]
  | .dict ((name, value) :: rest) =>
    .openBrace :: writeString name ++ .colon :: write float value ++ writeEntries float rest
termination_by structural v => v

/-- The text of further items and of the end of the array. -/
def writeItems (float : Binary64 → Text) : List Json → Text
  | []           => [.closeBracket]
  | item :: rest => .comma :: write float item ++ writeItems float rest
termination_by structural items => items

def writeEntries (float : Binary64 → Text) : List (Text × Json) → Text
  | [] => [.closeBrace]
  | (name, value) :: rest =>
    .comma :: writeString name ++ .colon :: write float value ++ writeEntries float rest
termination_by structural entries => entries

end

end ChainRpc.Json
