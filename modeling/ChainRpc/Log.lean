import ChainRpc.Text

/-!
# Log records

What the client, the transport and the node report beside their answers. Records below a threshold
are kept out of sight.
-/

namespace ChainRpc.Log

inductive Level
  | debug | info | warning | error | critical
  deriving DecidableEq, Repr

def Level.rank : Level → Int
  | .debug    => 10
  | .info     => 20
  | .warning  => 30
  | .error    => 40
  | .critical => 50

def Level.name : Level → Text
  | .debug    => "DEBUG"
  | .info     => "INFO"
  | .warning  => "WARNING"
  | .error    => "ERROR"
  | .critical => "CRITICAL"

/-- Something reported. -/
structure Record where
  level : Level
  message : Text
  deriving DecidableEq, Repr

def visible (threshold : Int) (records : List Record) : List Record :=
  records.filter fun r => threshold ≤ r.level.rank

def thresholds : List (Text × Int) := [
  ("CRITICAL", 50), ("FATAL", 50), ("ERROR", 40), ("WARN", 30), ("WARNING", 30), ("INFO", 20),
  ("DEBUG", 10), ("NOTSET", 0)]

def threshold? (name : Text) : Option Int :=
  thresholds.lookup name

end ChainRpc.Log
