import SealedTokens.Time.Instant
/-!
The errors of containers. Each has one cause, by which callers branch, and at most one context,
which names the place and appears in the message only.
-/
namespace SealedTokens

inductive ContainerError.Cause where
  /-- An unknown name, stages that do not go together, or key material of no use. -/
  | configuration (message : String)
  /-- Bytes that are no token. -/
  | format (message : String)
  /-- A token that does not authenticate under the key. -/
  | decrypt (message : String)
  /-- A token of another version. -/
  | incompatible (found expected : UInt32)
  /-- A window that has not begun. -/
  | notYetValid (validAfter : Instant)
  /-- A window that is over. -/
  | expired (validBefore : Instant)
  /-- A key file that cannot be read. -/
  | io (message : String)
  /-- Anything else. -/
  | internal (message : String)
  deriving DecidableEq

structure ContainerError where
  cause : ContainerError.Cause
  context : Option String := none
  deriving DecidableEq

/-- A context in a message: in brackets after a space. -/
def contextText : Option String → String
  | some context => s!" ({context})"
  | none => ""

namespace ContainerError

def configuration (message : String) : ContainerError := ⟨.configuration message, none⟩
def format (message : String) : ContainerError := ⟨.format message, none⟩
def decrypt (message : String) : ContainerError := ⟨.decrypt message, none⟩
def internal (message : String) : ContainerError := ⟨.internal message, none⟩

def message (e : ContainerError) : String :=
  let place := contextText e.context
  match e.cause with
  | .configuration m => s!"Invalid configuration{place}: {m}"
  | .format m => s!"Malformed token{place}: {m}"
  | .decrypt m => s!"Decryption error{place}: {m}"
  | .incompatible found expected =>
    s!"Incompatible container{place}: version {found.toNat}, expected {expected.toNat}"
  | .notYetValid t => s!"Container is not yet valid{place}: valid after {t.text}"
  | .expired t => s!"Container expired{place}: valid before {t.text}"
  | .io m => s!"Key file error{place}: {m}"
  | .internal m => s!"Internal container error{place}: {m}"

def withContext (e : ContainerError) (context : String) : ContainerError :=
  { e with context := some context }

/-- The token is unreadable or forged. -/
def isFormatOrDecrypt (e : ContainerError) : Bool :=
  match e.cause with
  | .format _ | .decrypt _ => true
  | _ => false

/-- The token is readable, but of another version or outside its window. -/
def isInvalid (e : ContainerError) : Bool :=
  match e.cause with
  | .incompatible .. | .notYetValid _ | .expired _ => true
  | _ => false

/-- The token is to be treated as absent. -/
def isRecoverable (e : ContainerError) : Bool := e.isFormatOrDecrypt || e.isInvalid

end ContainerError

end SealedTokens
