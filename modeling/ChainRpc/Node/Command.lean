import ChainRpc.Node

/-!
# Commands to a node

What can be done to a node, as data: registrations and posts. Commands run one after the other on the
same node.
-/

namespace ChainRpc.Node

inductive Command
  | respond (name : Text) (result : Value)
  | fail (name : Text) (e : NodeError)
  /-- Registers a handler, under its own name if no other is given. -/
  | method (name : Option Text) (h : Handler)
  | post (raw : Bytes)

/-- What comes back on a command: a body on a post, and nothing on a registration. -/
structure Command.Result where
  body : Except Fault (Option Bytes) := .ok none
  log : List Log.Record := []

def step (n : Node) : Command → Command.Result × Node
  | .respond name result => ({}, n.respond name result)
  | .fail name e         => ({}, n.fail name e)
  | .method name h       => ({}, n.method name h)
  | .post raw            =>
    let exchange := n.post raw
    (⟨exchange.body.map some, exchange.log⟩, exchange.node)

def run (n : Node) : List Command → List Command.Result × Node
  | [] => ([], n)
  | command :: rest =>
    let (result, n) := n.step command
    let (results, n) := run n rest
    (result :: results, n)

end ChainRpc.Node
