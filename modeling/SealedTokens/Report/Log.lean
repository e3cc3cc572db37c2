import SealedTokens.Log.Logger
import SealedTokens.Report.Error
/-!
Reports of logging: errors without what names a directory of the machine, and events by their level
and text.
-/
namespace SealedTokens

open Report

/-- Whether a context names a directory of the machine. -/
def LogError.namesDirectory (e : LogError) : Bool :=
  e.context.any fun c => "directory ".isPrefixOf c || "failed to create log directory".isPrefixOf c

instance : Reported LogError where
  report e :=
    let shown (name : String) (message : Option String) : Json :=
      if e.namesDirectory then Report.error name none none else Report.error name message e.context
    match e.cause with
    | .appender _ => shown "Logger.Appender" e.message
    | .subscriber _ => shown "Logger.Subscriber" none
    | .io _ => shown "Logger.Io" e.message
    | .invalidConfiguration _ =>
      shown "Logger.InvalidConfiguration"
        (if e.context.any fun c => "log filter".isPrefixOf c then none else some e.message)

instance : Reported LogConfig where
  report c := record [("level", report c.level), ("json", report c.json),
    ("directory", report c.directory), ("filter", report c.filter)]

instance : Reported Log.Level := ⟨fun level => Json.ofText level.name⟩

/-- Events by level and text, or no more than their number. -/
def Report.events (json : Bool) (events : List Log.Event) : Json :=
  if json then
    .list (events.map fun e => .list [Json.ofText (Text.upper e.level.name), report e.message])
  else number events.length

end SealedTokens
