import SealedTokens.Csrf.Error
import SealedTokens.Http.Uri
import SealedTokens.Jwt.Signer
import SealedTokens.Report.Basic
import SealedTokens.Session.Error
import SealedTokens.Time.Span.Text
/-!
Reports of errors: the kind, the message, the context, and the error inside. A message that only
repeats the wording of a text format's or a key format's reader is left out, in the errors around
it too.
-/
namespace SealedTokens

open Report

/-- The report of an error from its parts. -/
def Report.error (kind : String) (message context : Option String) (source : Option Json := none) :
    Json :=
  record <| [("error", Json.ofText kind)] ++
    (message.map fun m => ("message", report m)).toList ++
    (context.map fun c => ("context", report c)).toList ++
    (source.map fun s => ("source", s)).toList

namespace ContainerError

def Cause.name : Cause → String
  | configuration _ => "Configuration"
  | format _ => "Format"
  | decrypt _ => "Decrypt"
  | incompatible .. => "Incompatible"
  | notYetValid _ => "NotYetValid"
  | expired _ => "Expired"
  | io _ => "Io"
  | internal _ => "Internal"

/-- Whether the message is a reader's wording. -/
def isWordless (e : ContainerError) : Bool :=
  match e.cause with
  | .format m => m == Json.refusal
  | .configuration m => m == Signer.notKey
  | _ => false

/-- The message of an error with this one inside, if it says more than a reader's wording. -/
def worded (e : ContainerError) (message : String) : Option String :=
  if e.isWordless then none else some message

end ContainerError

instance : Reported ContainerError where
  report e := Report.error e.cause.name (e.worded e.message) e.context

instance : Reported SessionError where
  report e :=
    match e.cause with
    | .container source =>
      Report.error "Session.Container" (source.worded e.message) e.context (report source)
    | .validator _ => Report.error "Session.Validator" e.message e.context
    | .configuration _ => Report.error "Session.Configuration" e.message e.context
    | .internal _ => Report.error "Session.Internal" e.message e.context

instance : Reported CsrfError where
  report e :=
    let named (name : String) : Json := Report.error s!"Csrf.{name}" e.message e.context
    match e.cause with
    | .container source =>
      Report.error "Csrf.Container" (source.worded e.message) e.context (report source)
    | .sourceMismatch _ => named "SourceMismatch"
    | .missingSource _ => named "MissingSource"
    | .subjectMismatch _ => named "SubjectMismatch"
    | .url _ => named "Url"
    | .configuration _ => named "Configuration"
    | .internal _ => named "Internal"

instance : Reported Http.UriFault where
  report fault := Report.error "Uri" fault.message none

/-- An object with more members. -/
def Report.withMembers (members : List (String × Json)) : Json → Json
  | .object first => match record members with
    | .object more => .object (first ++ more)
    | _ => .object first
  | other => other

/-- What a caller branches by. -/
def ContainerError.flags (e : ContainerError) : List (String × Json) :=
  [("is_format_or_decrypt", report e.isFormatOrDecrypt), ("is_invalid", report e.isInvalid),
    ("is_recoverable", report e.isRecoverable)]

/-- What a caller branches by. -/
def SessionError.flags (e : SessionError) : List (String × Json) :=
  [("is_format_or_decrypt", report e.isFormatOrDecrypt), ("is_invalid", report e.isInvalid),
    ("is_recoverable", report e.isRecoverable)]

/-- What a caller branches by. -/
def CsrfError.flags (e : CsrfError) : List (String × Json) :=
  [("is_rejection", report e.isRejection)]

end SealedTokens
