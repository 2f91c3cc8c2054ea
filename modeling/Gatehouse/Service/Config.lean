import Gatehouse.Service.Address
import Gatehouse.Text.Blank

/-! # Configuration

Four variables of the environment configure the service. One that is not set, or whose value makes
no sense, leaves its setting at the default. A name makes sense whatever it is; a path does unless
it is blank.
-/

namespace Gatehouse.Service

structure Config where
  address : SocketAddress
  databasePath : String
  /-- The milliseconds after which a decision is given up. -/
  timeout : UInt64
  instanceName : String
deriving DecidableEq, Repr

/-- The milliseconds of the default timeout. -/
def defaultTimeout : UInt64 := 2000

namespace Config

def default : Config where
  address := ⟨.octets 0, 8080⟩
  databasePath := "./parley.db"
  timeout := defaultTimeout
  instanceName := "Parley"

/-- A number of 64 bits, perhaps after a plus sign. -/
def readNumber? (s : String) : Option UInt64 :=
  let digits := match s.toList with
    | '+' :: rest => rest
    | cs => cs
  (Text.value? 10 digits).bind fun n => if n < UInt64.size then some (UInt64.ofNat n) else none

/-- A timeout is at least one millisecond. -/
def readTimeout? (s : String) : Option UInt64 := (readNumber? s).filter (· ≠ 0)

/-- A path that is not blank. -/
def readPath? (s : String) : Option String := if Text.trimmed? s = none then none else some s

/-- The configuration of an environment. -/
def ofEnvironment (get : String → Option String) : Config where
  address := ((get "HTTP_ADDR").bind SocketAddress.ofText?).getD default.address
  databasePath := ((get "DATABASE_PATH").bind readPath?).getD default.databasePath
  timeout := ((get "REQUEST_TIMEOUT_MS").bind readTimeout?).getD default.timeout
  instanceName := (get "INSTANCE_NAME").getD default.instanceName

end Config

end Gatehouse.Service
