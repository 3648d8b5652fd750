import RedemptionWatch.Config.Settings

/-!
# The service

What the program needs to run: where it answers administration requests, how long watchers get to
stop, and the watchers.
-/

namespace RedemptionWatch

/-- A service and its watchers. -/
structure Service where
  port : UInt16
  host : String
  /-- How many seconds watchers get to stop. -/
  shutdownTimeout : UInt64
  watchers : List Settings
  deriving Repr

namespace Service

/-- A service without watchers where it usually is. -/
def usual : Service where
  port := 8080
  host := "0.0.0.0"
  shutdownTimeout := 30
  watchers := []

/-- The service with these watchers after those it has. -/
def add (s : Service) (watchers : List Settings) : Service :=
  { s with watchers := s.watchers ++ watchers }

/-- Is the host an address? It is not looked up as a name. -/
def hasAddress (s : Service) : Bool :=
  match s.host.toList with
  | '[' :: rest => rest.getLast? = some ']' && (Host.ipv6? rest.dropLast).isSome
  | cs =>
    let bytes := cs.splitOn '.'
    bytes.length = 4 && bytes.all fun part => part.length ≤ 3 && (Host.decimalByte? part).isSome

end Service

end RedemptionWatch
