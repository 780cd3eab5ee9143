import ChainRpc.Text

/-!
# Addresses of hosts

A host may be given by an address instead of a name: four numbers between points, or hexadecimal
numbers between colons.
-/

namespace ChainRpc.Http.Url

/-- The parts of a text between separators. -/
def split (separator : CodePoint) : Text → List Text
  | [] => [[]]
  | c :: rest =>
    if c = separator then [] :: split separator rest
    else
      match split separator rest with
      | [] => [[c]]
      | part :: parts => (c :: part) :: parts

def isOctet (t : Text) : Bool :=
  t ≠ [] && t.all (fun c => decide c.IsDigit) && t.length ≤ 3 &&
    (t.length == 1 || t.head? != some CodePoint.zero) && Text.digitsValue t ≤ 255

def isIPv4 (t : Text) : Bool :=
  let parts := split .point t
  parts.length == 4 && parts.all isOctet

/-- The host has the form of an address of four numbers: runs of digits between points. -/
def looksLikeIPv4 (host : Text) : Bool :=
  let parts := split .point host
  parts.length == 4 && parts.all fun part => part ≠ [] && part.all fun c => decide c.IsDigit

def isHextet (t : Text) : Bool :=
  t ≠ [] && t.length ≤ 4 && t.all fun c => c.hexValue?.isSome

/-- The parts of an address of hexadecimal numbers; four numbers at the end stand for two of them. -/
def hextets? (t : Text) : Option (List Text) :=
  let parts := split .colon t
  if parts.length < 3 then none
  else
    match parts.getLast? with
    | some last =>
      if CodePoint.point ∈ last then
        if isIPv4 last then some (parts.dropLast ++ List.replicate 2 [CodePoint.zero]) else none
      else some parts
    | none => none

/-- The positions, ends excepted, of empty parts. -/
def gaps (parts : List Text) : List Nat :=
  (List.range (parts.length - 1)).filter fun i => i ≠ 0 && parts[i]? == some []

/-- An address of eight hexadecimal numbers, of which one run of zeros may be left out. -/
def isIPv6 (t : Text) : Bool :=
  let (address, zone) := t.span (· != '%'.toNat)
  let zoneOk := match zone with
    | [] => true
    | _ :: name => name ≠ [] && !name.contains '%'.toNat
  match hextets? address with
  | none => false
  | some parts =>
    let wellFormed := match gaps parts with
      | [] => parts.length == 8 && parts.all isHextet
      | [gap] =>
        let before := parts.take gap
        let after := parts.drop (gap + 1)
        let before := if before.head? == some [] then before.drop 1 else before
        let after := if after.getLast? == some [] then after.dropLast else after
        let startOk := parts.head? != some [] || before.isEmpty
        let endOk := parts.getLast? != some [] || after.isEmpty
        startOk && endOk && before.length + after.length ≤ 7 && before.all isHextet &&
          after.all isHextet
      | _ => false
    zoneOk && parts.length ≤ 9 && wellFormed

end ChainRpc.Http.Url
