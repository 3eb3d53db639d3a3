import DeliveryCheck.Error

namespace DeliveryCheck.Sql

inductive Fault where
  /-- No connection came free in time. -/
  | poolTimedOut
  | poolClosed
  | rowMissing
  /-- The server cannot be reached or stopped answering. -/
  | unreachable (reason : String)
  | refused (reason : String)
  | badData (reason : String)
deriving DecidableEq

namespace Fault

def message : Fault → String
  | poolTimedOut => "pool timed out while waiting for an open connection"
  | poolClosed => "attempted to acquire a connection on a closed pool"
  | rowMissing => "no rows returned by a query that expected to return at least one row"
  | unreachable reason => "error communicating with database: " ++ reason
  | refused reason => "error returned from database: " ++ reason
  | badData reason => "encountered unexpected or invalid data: " ++ reason

def toError (fault : Fault) : Error := .storeUnavailable fault.message

end Fault

end DeliveryCheck.Sql
