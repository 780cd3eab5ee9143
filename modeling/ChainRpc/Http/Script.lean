import ChainRpc.Http.Transport
import ChainRpc.Json.Writer
import ChainRpc.Binary64.Shortest

/-!
# Scripted peers

A peer that gives prepared answers in order, whatever is asked, and remembers what was asked. When
none is left the connection fails.
-/

namespace ChainRpc.Http

/-- Prepared answers, each of which may depend on the body it answers, and the posts so far. -/
structure Script where
  replies : List (Bytes → Outcome)
  /-- What reached the peer, in order. -/
  received : List Post := []

namespace Script

def answer : Peer Script := fun post s =>
  let received := s.received ++ [post]
  match s.replies with
  | []            => { outcome := .failed "no reply scripted", state := ⟨[], received⟩ }
  | reply :: rest => { outcome := reply post.body, state := ⟨rest, received⟩ }

def success (result request : Json) : Json :=
  let id : Json := match request with
    | .dict entries => (Entries.get? "id" entries).getD .null
    | _             => .null
  .dict [("jsonrpc", .str "2.0"), ("id", id), ("result", result)]

def writeFloat : Binary64 → Text
  | .nan               => "NaN"
  | .infinite negative => if negative then "-Infinity" else "Infinity"
  | x                  => x.render Binary64.displayLayout

def reply (j : Json) : Outcome :=
  .answered 200 (Utf8.encodeAll (j.write writeFloat))

/-- Answers every request of a body with a result. -/
def echo (result : Json) (body : Bytes) : Outcome :=
  match Json.ofBytes body with
  | .ok (.list requests) => reply (.list (requests.map (success result)))
  | .ok request          => reply (success result request)
  | .error cause         => .broke (.unreadable cause)

end Script

end ChainRpc.Http
