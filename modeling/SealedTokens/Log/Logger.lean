import SealedTokens.Log.Config
import SealedTokens.Time.Instant
/-!
Loggers: the one subscriber of a process, its console and its rolling file. Every event that the
filter admits goes to both.
-/
namespace SealedTokens.Log

structure Logger where
  filter : Filter
  /-- The name of the rolling file, if a directory is configured. -/
  file : Option String
  deriving DecidableEq, Repr

/-- What a process has logged: the logger in place, and the events it has written. -/
structure Journal where
  logger : Option Logger := none
  written : List Event := []

namespace Logger

/-- The name of the rolling file of a day. -/
def fileName (name : String) (today : Instant) : String :=
  s!"{name}.{String.ofList today.dateChars}.log"

/-- The event of a logger that has been put in place. -/
def initialized : Event :=
  ⟨.debug, "cachet_logger", ["name", "level", "json", "message"], "logging initialized"⟩

/-- The event of a logger with a file that is about to stop. -/
def stopping : Event :=
  ⟨.info, "cachet_logger", ["message"], "Logging system shutting down, flushing buffers..."⟩

/-- The event of a signer that has been built. -/
def signerBuilt : Event :=
  ⟨.debug, "cachet_container::jwt::cache", ["algorithm", "key_digest", "message"], "Built JWT signer"⟩

/-- The event of a container factory that is ready. -/
def factoryReady : Event :=
  ⟨.info, "cachet_container::factory",
    ["kind", "serializer", "compressor", "sealer", "representer", "message"],
    "Container factory initialized"⟩

/-- A logger of a configuration. `makeDirectory` says why a directory cannot be made, if it
cannot. -/
def ofConfig (name : String) (c : LogConfig) (environment : String) (today : Instant)
    (makeDirectory : String → Option String) : Except LogError Logger := do
  let filter ← c.resolveFilter environment
  match c.directory with
  | none => return ⟨filter, none⟩
  | some directory =>
    if Text.isBlankText name then
      throw ⟨.invalidConfiguration "log file prefix cannot be empty", some s!"directory {directory}"⟩
    match makeDirectory directory with
    | some why => throw ⟨.io why, some s!"failed to create log directory: {directory}"⟩
    | none => return ⟨filter, some (fileName name today)⟩

end Logger

namespace Journal

def log (j : Journal) (event : Event) : Journal :=
  if j.logger.any fun l => l.filter.admits event then { j with written := j.written ++ [event] }
  else j

/-- Puts a logger in place, unless there is one. -/
def install (j : Journal) (logger : Logger) : Except LogError Journal :=
  if j.logger.isSome then
    .error ⟨.subscriber "a global default trace dispatcher has already been set", none⟩
  else .ok ({ j with logger := some logger }.log Logger.initialized)

/-- Builds a factory of signed containers, as far as it is logged. -/
def buildFactory (j : Journal) : Journal := (j.log Logger.signerBuilt).log Logger.factoryReady

/-- Stops a logger that was put in place. -/
def stop (j : Journal) : Journal :=
  if j.logger.any fun l => l.file.isSome then j.log Logger.stopping else j

end Journal

end SealedTokens.Log
