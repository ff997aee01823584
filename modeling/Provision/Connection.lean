import Provision.Retry

namespace Provision

/-- The settings of a connection. Times are in milliseconds. -/
structure Connection where
  timeout : Nat := 60000
  connectTimeout : Nat := 10000
  poolIdleTimeout : Nat := 90000
  poolMaxIdlePerHost : Nat := 10
  compression : Bool := true
  retryPolicy : RetryPolicy := RetryPolicy.default
deriving DecidableEq, Repr

def Connection.withoutRetries (connection : Connection) : Connection :=
  { connection with retryPolicy := RetryPolicy.none }

end Provision
