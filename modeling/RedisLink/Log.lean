/-
RedisLink.Log — lines that report what happens.

A line has a level, the part of the library that reports it, and a message.
-/
namespace RedisLink

/-- How much a line matters. -/
inductive LogLevel
  | debug | info | warning
deriving DecidableEq, Repr

/-- The parts of the library that report. -/
inductive LogSource
  | resources | clients | deployments
deriving DecidableEq, Repr

/-- A line of the log. -/
structure LogLine where
  level : LogLevel
  source : LogSource
  message : String
deriving DecidableEq, Repr

/-- The name of a level. -/
def LogLevel.label : LogLevel → String
  | .debug => "DEBUG"
  | .info => "INFO"
  | .warning => "WARNING"

/-- The name of a reporting part. -/
def LogSource.label : LogSource → String
  | .resources => "redis_connection_factory.resources"
  | .clients => "redis_connection_factory.clients"
  | .deployments => "redis_connection_factory.factories"

/-- A line as text. -/
def LogLine.text (line : LogLine) : String :=
  line.level.label ++ " " ++ line.source.label ++ " " ++ line.message

end RedisLink
