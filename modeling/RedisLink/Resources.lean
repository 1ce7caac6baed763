/-
RedisLink.Resources — retry policy and health checks.

Resources may be shared by many clients. The number of retries and the interval
of health checks are numbers that are not negative. Blocking and asynchronous
connections get retry policies of their own kind with the same strategy.
-/
import RedisLink.Keywords
import RedisLink.Value.Integer

namespace RedisLink

/-- Retries, the strategy of waiting between them, and the interval of health checks. -/
structure Resources where
  retries : Value
  backoff : Value
  healthCheck : Value

namespace Resources

/-- The resources unless others are chosen: three retries, no health checks. -/
def standard : Resources := ⟨.int 3, .backoff .exponential, .int 0⟩

instance : Inhabited Resources := ⟨standard⟩

/-- Resources with a number of retries, a strategy, where `null` is the standard one, and an
interval of health checks. -/
def make (retries backoff healthCheck : Value) : Except Failure Resources := do
  if ← retries.isBelowZero then throw (.negativeRetries retries)
  if ← healthCheck.isBelowZero then throw (.negativeHealthCheck healthCheck)
  return ⟨retries, backoff.orElse standard.backoff, healthCheck⟩

/-- The retry policy of a connection, asynchronous or not. -/
def retry (r : Resources) (asynchronous : Bool) : Value :=
  .retry asynchronous r.retries r.backoff

/-- The keywords that stand for the resources. -/
def keywords (r : Resources) (asynchronous : Bool) : Keywords :=
  [("retry", r.retry asynchronous), ("health_check_interval", r.healthCheck)]

/-- The resources as they are shown. -/
def shown (r : Resources) : String :=
  "ClientResources(retries=" ++ r.retries.asText ++ ", backoff=" ++ r.backoff.kind ++
    ", health_check_interval=" ++ r.healthCheck.asText ++ ")"

end Resources

end RedisLink
