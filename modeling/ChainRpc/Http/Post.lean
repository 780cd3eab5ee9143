import ChainRpc.Fault
import ChainRpc.Text.Base64

/-!
# Posts

What goes over the line: a URL, a body, and headers that say more than the caller's. The host, the length
of the body and what the client can read are said unless the caller says them; a user in the URL counts
more than any other authorization.
-/

namespace ChainRpc.Http

structure Post where
  url : Url
  fields : Headers.Fields
  body : Bytes

namespace Post

open Headers (Fields)

/-- What a client says of itself. -/
def automatic : List (Text × Text) := [
  ("Accept-Encoding", "gzip, deflate"), ("Connection", "keep-alive"),
  ("User-Agent", "python-httpx/0.28.1")]

/-- The value that says where a post goes. The labels of an ASCII form are checked. -/
def hostField (url : Url) : Except Fault Bytes := do
  if Idna.Label.mark.isPrefixOf url.host then (Idna.check url.host).mapError .host
  (Headers.asciiBytes url.authority).mapError fun run => .header (.notAscii run)

/-- Says where a post goes, unless that is said or the URL does not say it. -/
def withHost (url : Url) (fields : Fields) : Except Fault Fields :=
  if url.host.isEmpty ∨ fields.has "Host" then .ok fields
  else (hostField url).map fun value => fields.putNew "Host" value

/-- Says how long the body is, unless that is said. An empty body may be sent in pieces instead. -/
def withLength (body : Bytes) (fields : Fields) : Fields :=
  if body = [] ∧ fields.has "Transfer-Encoding" then fields
  else fields.putNew "Content-Length" (Fields.bytes (Text.ofNat body.length))

/-- Says who posts, if the URL does. -/
def withUser (url : Url) (fields : Fields) : Fields :=
  let (name, password) := url.credentials
  if name = [] ∧ password = [] then fields
  else
    let credentials := Base64.encode (name ++ Fields.bytes ":" ++ password)
    fields.replace "Authorization" (Fields.bytes ("Basic " ++ credentials))

def build (url : Url) (fields : Fields) (body : Bytes) : Except Fault Post := do
  let fields := automatic.foldl (fun fs (name, value) => fs.putNew name (Fields.bytes value)) fields
  let fields ← withHost url fields
  return ⟨url, withUser url (withLength body fields), body⟩

end Post

end ChainRpc.Http
