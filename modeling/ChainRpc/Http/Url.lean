import ChainRpc.Binary64.Decimal
import ChainRpc.Http.Url.Address
import ChainRpc.Http.Url.Quoting
import ChainRpc.Idna
import ChainRpc.Value.Shown

/-!
# URLs

Where a post goes. A URL is split into scheme, user, host, port, path, query and fragment, and each part
is brought into one form: scheme and host in lower case, a host of any script in its ASCII form, no port
that the scheme has anyway, no detours in the path, and quoted whatever is not ASCII. A relative URL gives
a path only.
-/

namespace ChainRpc.Http

/-- A URL in its parts, all of them quoted. -/
structure Url where
  scheme : Text := []
  /-- A user name and a password, with a colon between them if there is one. -/
  user : Text := []
  /-- A name, an address of four numbers, or one of hexadecimal numbers without its brackets. -/
  host : Text := []
  port : Option Int := none
  path : Text := []
  query : Option Text := none
  fragment : Option Text := none
  deriving DecidableEq

namespace Url

inductive Invalid
  | tooLong
  | unprintable (c : CodePoint) (position : Nat)
  | ipv4 (host : Text)
  | ipv6 (host : Text)
  | name (host : Text)
  | port (digits : Text)
  | slashesFirst
  | colonFirst
  | partTooLong (part : Text)
  deriving DecidableEq, Repr

def Invalid.message : Invalid → Text
  | .tooLong => "URL too long"
  | .unprintable c position =>
    Text.concat ["Invalid non-printable ASCII character in URL, ", Text.quoted [c], " at position ",
      Text.ofNat position, "."]
  | .ipv4 host    => "Invalid IPv4 address: " ++ host.quoted
  | .ipv6 host    => "Invalid IPv6 address: " ++ host.quoted
  | .name host    => "Invalid IDNA hostname: " ++ host.quoted
  | .port digits  => "Invalid port: " ++ digits.quoted
  | .slashesFirst => "Relative URLs cannot have a path starting with '//'"
  | .colonFirst   => "Relative URLs cannot have a path starting with ':'"
  | .partTooLong part => Text.concat ["URL component ", part.inApostrophes, " too long"]

/-- Why nothing can be posted to what is given as a URL. -/
inductive Fault
  | invalid (cause : Invalid)
  | unencodable (cause : Unencodable)
  | notText (value : Value)

def maxLength : Nat := 65536

/-! ### Parts -/

/-- The text before the first code point that satisfies a test, and the text from there on. -/
def splitAt (t : Text) (p : CodePoint → Bool) : Text × Text :=
  t.span (!p ·)

def isLetter (c : CodePoint) : Bool :=
  c.Between 65 90 || c.Between 97 122

/-- A code point that a scheme may have after its first. -/
def isSchemeRest (c : CodePoint) : Bool :=
  isLetter c || c.IsDigit || c == .plus || c == .point || c == .minus

/-- The scheme, if there is one, and the text after its colon. -/
def splitScheme (t : Text) : Text × Text :=
  match t with
  | [] => ([], [])
  | c :: rest =>
    if c = .colon then ([], rest)
    else if isLetter c then
      match rest.span isSchemeRest with
      | (tail, .colon :: rest) => (c :: tail, rest)
      | _ => ([], t)
    else ([], t)

def endsAuthority (c : CodePoint) : Bool :=
  c == .slash || c == '?'.toNat || c == '#'.toNat

/-- The authority after two slashes, if there is one, and the text after it. -/
def splitAuthority : Text → Text × Text
  | .slash :: .slash :: rest => splitAt rest endsAuthority
  | t => ([], t)

/-- The text after the last code point equal to `c`, and the text before that, if it occurs. -/
def splitLast (c : CodePoint) (t : Text) : Option (Text × Text) :=
  let (tail, head) := splitAt t.reverse (· == c)
  match head with
  | [] => none
  | _ :: head => some (head.reverse, tail.reverse)

def splitUser (authority : Text) : Text × Text :=
  (splitLast '@'.toNat authority).getD ([], authority)

/-- The host of an authority without user, and the text after the colon behind it. A host in brackets
goes up to the last closing one. -/
def splitHost (t : Text) : Text × Text :=
  let (host, rest) : Text × Text :=
    match t with
    | .openBracket :: _ =>
      match splitLast .closeBracket t with
      | some (host, rest) => (host ++ [CodePoint.closeBracket], rest)
      | none => splitAt t (· == .colon)
    | _ => splitAt t (· == .colon)
  match rest with
  | .colon :: port => (host, port)
  | port => (host, port)

/-- A query or a fragment behind its mark, if the text begins with the mark. -/
def behindMark (mark : CodePoint) : Text → Option Text
  | []        => none
  | c :: rest => if c = mark then some rest else none

/-! ### One form for each part -/

def lowerAscii (t : Text) : Text :=
  t.map fun c => if c.Between 65 90 then c + 32 else c

def defaultPorts : List (Text × Int) :=
  [("ftp", 21), ("http", 80), ("https", 443), ("ws", 80), ("wss", 443)]

/-- The whole number that a text spells in digits of any script, with a sign, spaces around it and low
lines between digits. -/
def wholeNumber? (t : Text) : Option Int := do
  let t ← Binary64.dropLines? ((t.trimmed CodePoint.isWhiteSpace).map Binary64.asciiDigit)
  let (negative, digits) := Binary64.splitSign t
  if digits = [] ∨ digitLimit < digits.length ∨ ¬ ∀ c ∈ digits, c.IsDigit then none
  else
    let n : Int := Text.digitsValue digits
    return if negative then -n else n

/-- A port, unless it is the one that the scheme has anyway. -/
def readPort (scheme port : Text) : Except Invalid (Option Int) :=
  if port = [] then .ok none
  else
    match wholeNumber? port with
    | none   => .error (.port port)
    | some n => .ok (if defaultPorts.lookup scheme = some n then none else some n)

def readHost (host : Text) : Except Fault Text :=
  if host = [] then .ok []
  else if looksLikeIPv4 host then
    if isIPv4 host then .ok host else .error (.invalid (.ipv4 host))
  else if host.head? = some CodePoint.openBracket ∧ host.getLast? = some CodePoint.closeBracket then
    let address := (host.drop 1).dropLast
    if isIPv6 address then .ok address else .error (.invalid (.ipv6 host))
  else if host.all (· < 0x80) then (quote .host (lowerAscii host)).mapError .unencodable
  else (Idna.encode host.lower).mapError fun _ => .invalid (.name host)

/-- Goes over the parts of a path, given behind those kept so far, last first. One point stays where it
is, two go a step back. -/
def keepParts : (kept : List Text) → List Text → List Text
  | kept, [] => kept.reverse
  | kept, part :: rest =>
    if part = ("." : Text) then keepParts kept rest
    else if part = (".." : Text) then keepParts (if kept = [[]] then kept else kept.drop 1) rest
    else keepParts (part :: kept) rest

/-- A path without detours. -/
def straightened (path : Text) : Text :=
  Text.joined [CodePoint.slash] (keepParts [] (split .slash path))

/-- A path behind a scheme or an authority is straightened; one behind neither may not look like
either. -/
def readPath (isBare : Bool) (path : Text) : Except Invalid Text :=
  if ¬ isBare then .ok (straightened path)
  else
    match path with
    | .slash :: .slash :: _ => .error .slashesFirst
    | .colon :: _           => .error .colonFirst
    | path                  => .ok path

def quoteOptional (part : Part) : Option Text → Except Fault (Option Text)
  | none   => .ok none
  | some t => ((quote part t).mapError .unencodable).map some

/-! ### Reading -/

def firstControl (position : Nat) : Text → Option (CodePoint × Nat)
  | [] => none
  | c :: rest => if c < 0x20 ∨ c = 0x7F then some (c, position) else firstControl (position + 1) rest

/-- Reads a text that is neither too long nor holds control characters. -/
def ofPrintable (t : Text) : Except Fault Url := do
  let (rawScheme, rest) := splitScheme t
  let (authority, rest) := splitAuthority rest
  let (rawPath, rest)   := splitAt rest fun c => c == '?'.toNat || c == '#'.toNat
  let (rawQuery, rest)  := splitAt rest (· == '#'.toNat)
  let (rawUser, rest')  := splitUser authority
  let (rawHost, rawPort) := splitHost rest'
  let user ← (quote .user rawUser).mapError .unencodable
  let host ← readHost rawHost
  let port ← (readPort rawScheme rawPort).mapError .invalid
  let isBare := rawScheme.isEmpty && user.isEmpty && host.isEmpty && port.isNone
  let path ← (readPath isBare rawPath).mapError .invalid
  return {
    scheme := lowerAscii rawScheme
    user := user
    host := host
    port := port
    path := ← (quote .path path).mapError .unencodable
    query := ← quoteOptional .query (behindMark '?'.toNat rawQuery)
    fragment := ← quoteOptional .fragment (behindMark '#'.toNat rest) }

def ofText (t : Text) : Except Fault Url :=
  if maxLength < t.length then .error (.invalid .tooLong)
  else
    match firstControl 0 t with
    | some (c, position) => .error (.invalid (.unprintable c position))
    | none               => ofPrintable t

/-- The URL says by itself where it leads. -/
def isAbsolute (u : Url) : Bool :=
  !u.scheme.isEmpty && !u.host.isEmpty

/-- Where a post to a URL goes. A relative one gives path and query behind one slash. -/
def target (u : Url) : Except Invalid Url :=
  if u.isAbsolute then .ok u
  else
    let path := CodePoint.slash :: u.path.dropWhile (· == CodePoint.slash)
    if maxLength < path.length then .error (.partTooLong "path")
    else if u.query.any fun q => maxLength < q.length then .error (.partTooLong "query")
    else .ok { path := path, query := u.query }

def ofValue : Value → Except Fault Url
  | .str t => do (← ofText t).target.mapError .invalid
  | v      => .error (.notText v)

/-! ### Writing -/

/-- A host behind which a port may follow. -/
def bracketed (host : Text) : Text :=
  if CodePoint.colon ∈ host then Text.concat [[.openBracket], host, [.closeBracket]] else host

def authority (u : Url) : Text :=
  match u.port with
  | none   => bracketed u.host
  | some n => bracketed u.host ++ .colon :: Text.ofInt n

def render (u : Url) : Text :=
  let place := if u.user = [] then u.authority else Text.concat [u.user, "@", u.authority]
  Text.concat [
    if u.scheme = [] then [] else u.scheme ++ [CodePoint.colon],
    if place = [] then [] else "//" ++ place,
    u.path,
    (u.query.map ('?'.toNat :: ·)).getD [],
    (u.fragment.map ('#'.toNat :: ·)).getD []]

/-- The user name and the password, as bytes in UTF-8; what is no UTF-8 is replaced. -/
def credentials (u : Url) : Bytes × Bytes :=
  let (name, rest) := u.user.span (· != CodePoint.colon)
  let bytes (t : Text) : Bytes := Utf8.encodeAll (Utf8.decodeReplacing (unquote t))
  (bytes name, bytes (rest.drop 1))

end Url

end ChainRpc.Http
