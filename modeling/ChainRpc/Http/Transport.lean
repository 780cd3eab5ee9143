import ChainRpc.Http.Post
import ChainRpc.Log

/-!
# Posting over HTTP

A transport posts request bodies to one URL with the same headers and answers with the bodies that
come back. What is behind the link is left open: it takes a post and answers, late, with an error or
not at all.
-/

namespace ChainRpc.Http

inductive Outcome
  | answered (status : Nat) (body : Bytes)
  | timedOut (reason : Text)
  | failed (reason : Text)
  | broke (fault : Fault)

/-- What comes of a post, with what the other side logs and the state that it is left in. -/
structure Answer (σ : Type) where
  outcome : Outcome
  log : List Log.Record := []
  state : σ

/-- What answers posts, keeping a state. -/
abbrev Peer (σ : Type) := Post → σ → Answer σ

structure Endpoint where
  /-- A text, unless the caller gave something else. -/
  url : Value
  headers : Headers
  /-- Closing the transport closes its link. -/
  ownsLink : Bool := true

/-- The link to a peer. -/
structure Link (σ : Type) where
  peer : σ
  closed : Bool := false

/-- The result of a post: the body that came back or a fault, and what was logged. -/
structure Delivery where
  result : Except Fault Bytes
  log : List Log.Record

namespace Delivery

def body (b : Bytes) : Delivery := ⟨.ok b, []⟩

def failure (message : Text) (cause : TransportFault) : Delivery :=
  ⟨.error (.transport cause), [⟨.error, message⟩]⟩

def fault (f : Fault) : Delivery := ⟨.error f, []⟩

end Delivery

/-- What a transport makes of the outcome of a post. Only a status from 200 to 299 delivers a body. -/
def Outcome.delivery (url : Text) : Outcome → Delivery
  | .answered status body =>
    if 200 ≤ status ∧ status < 300 then .body body
    else .failure (TransportFault.status url status).message (.status url status)
  | .timedOut reason =>
    .failure (Text.concat ["Timeout talking to ", url, ": ", reason]) (.timedOut url)
  | .failed reason =>
    .failure (Text.concat ["Network error talking to ", url, ": ", reason]) (.failed url reason)
  | .broke f => .fault f

/-- What is left of the outcome of a post. An answer is lost unless the URL says where it leads. -/
def Outcome.through (post : Post) : Outcome → Outcome
  | .answered status body =>
    if post.url.isAbsolute then .answered status body
    else .broke (.unknownScheme post.url.render)
  | outcome => outcome

namespace Endpoint

variable {σ : Type}

def shownUrl (e : Endpoint) : Text :=
  e.url.spoken?.getD []

/-- The post of a body, or what comes of it if it cannot be made. The URL is checked before the
headers. -/
def prepare (e : Endpoint) (body : Bytes) : Except Outcome Post :=
  match Url.ofValue e.url with
  | .error (.invalid cause)     => .error (.failed cause.message)
  | .error (.unencodable cause) => .error (.broke (.url cause))
  | .error (.notText v) => .error (.broke (if v.shown?.isSome then .notUrl v else .tooLarge))
  | .ok url =>
    match e.headers.encode with
    | .error cause => .error (.broke (.header cause))
    | .ok fields   => (Post.build url fields body).mapError .broke

/-- Posts a body. The post is made before the link is used. -/
def send (e : Endpoint) (peer : Peer σ) (body : Bytes) (link : Link σ) : Delivery × Link σ :=
  match e.prepare body with
  | .error outcome => (outcome.delivery e.shownUrl, link)
  | .ok post =>
    if link.closed then (.fault .closed, link)
    else
      let answer := peer post link.peer
      let delivery := (answer.outcome.through post).delivery e.shownUrl
      (⟨delivery.result, answer.log ++ delivery.log⟩, { link with peer := answer.state })

def close (e : Endpoint) (link : Link σ) : Link σ :=
  { link with closed := link.closed || e.ownsLink }

end Endpoint

end ChainRpc.Http
