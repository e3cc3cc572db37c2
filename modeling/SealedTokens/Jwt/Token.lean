import SealedTokens.Jwt.Claims
import SealedTokens.Jwt.Jose
import SealedTokens.Jwt.Signer
import SealedTokens.Entropy
/-!
Signed tokens: three base64 segments with points between them, the header, the claims and the
signature over both. A token is read in a fixed order: its shape, its header, the algorithm, the
signature, and the claims last.
-/
namespace SealedTokens.Jwt

def point : UInt8 := 46

def segment (content : Bytes) : Bytes := Base64.encode Base64.urlSafeBare content

def signedPart (algorithm : SignatureAlgorithm) (claims : Claims) : Bytes :=
  segment (Jose.text algorithm) ++ point :: segment claims.toJson.print

/-- What an error of signing says about where it arose. -/
def signingContext (algorithm : SignatureAlgorithm) : String :=
  if algorithm = .es512 then "ES512 signing failed" else "JWT signing failed"

def issue (signer : Signer) (claims : Claims) : Except ContainerError Bytes :=
  let message := signedPart signer.algorithm claims
  match signer.sign? message with
  | some signature => .ok (message ++ point :: segment signature)
  | none => .error ⟨.internal "signature error", some (signingContext signer.algorithm)⟩

/-- A token's parts: header and claims as they are written, the bytes that are signed, and the
signature as it is written. -/
structure Parts where
  header : Bytes
  claims : Bytes
  signed : Bytes
  signature : Bytes

/-- The parts before and after the last point. -/
def splitLast? (text : Bytes) : Option (Bytes × Bytes) :=
  let last := text.reverse.takeWhile (· != point)
  if last.length = text.length then none
  else some (text.take (text.length - last.length - 1), last.reverse)

/-- The parts at the last two points; whatever stands before them is the header. -/
def parts? (text : Bytes) : Option Parts := do
  let (signed, signature) ← splitLast? text
  let (header, claims) ← splitLast? signed
  return ⟨header, claims, signed, signature⟩

/-- An error about the form of a token. -/
def malformed (message : String) : ContainerError := ⟨.format message, some "JWT"⟩

/-- A signature that does not belong to the token. -/
def mismatch (message : String) : ContainerError := ⟨.decrypt message, some "JWT signature mismatch"⟩

/-- What decoding a token with its full header finds wrong with it. `other` stands for the kinds of
error that are about keys and about checks of the claims. -/
inductive DecodeError where
  | invalidToken
  | invalidAlgorithm
  | missingAlgorithm
  | invalidSignature
  | base64 (fault : Base64.Fault)
  | json
  | utf8 (message : String)
  | other (message : String)

namespace DecodeError

def message : DecodeError → String
  | invalidToken => "InvalidToken"
  | invalidAlgorithm => "InvalidAlgorithm"
  | missingAlgorithm => "MissingAlgorithm"
  | invalidSignature => "InvalidSignature"
  | base64 fault => "Base64 error: " ++ fault.message
  | json => Json.refusal
  | utf8 message => "UTF-8 error: " ++ message
  | other message => message

end DecodeError

/-- The error that a container answers with: a signature that does not verify is a failed
decryption, whatever is about the form of the token is malformed, and the rest is internal. -/
def classify (e : DecodeError) : ContainerError :=
  match e with
  | .invalidSignature => mismatch e.message
  | .invalidToken | .invalidAlgorithm | .missingAlgorithm => malformed e.message
  | .base64 _ | .json | .utf8 _ => malformed e.message
  | .other _ => ⟨.internal e.message, some "JWT"⟩

/-- The content of a segment; `refusal` says what a fault is. -/
def content {ε : Type} (refusal : Base64.Fault → ε) (segment : Bytes) : Except ε Bytes :=
  match Base64.decode Base64.urlSafeBare segment with
  | .ok bytes => .ok bytes
  | .error fault => .error (refusal fault)

/-- The value of a segment with JSON. -/
def value {ε α : Type} (refusal : ε) (read? : Json → Option α) (bytes : Bytes) : Except ε α :=
  match (Json.parse? bytes).bind read? with
  | some v => .ok v
  | none => .error refusal

/-- Decodes a token with its full header. -/
def decodeFull (signer : Signer) (text : Bytes) : Except DecodeError Claims := do
  let some parts := parts? text | throw .invalidToken
  let algorithm ← value .json Jose.fullAlgorithm? (← content .base64 parts.header)
  if algorithm ≠ signer.algorithm then throw .invalidAlgorithm
  let signature ← content .base64 parts.signature
  -- The claims come last: nothing is said about claims that nobody signed.
  if !signer.verify parts.signed signature then throw .invalidSignature
  let json ← value .json some (← content .base64 parts.claims)
  match Claims.ofJson? json with
  | some claims => if Claims.registeredClaimsFit json then return claims else throw .json
  | none => throw .json

/-- Reads a token with its full header. -/
def readFull (signer : Signer) (text : Bytes) : Except ContainerError Claims :=
  (decodeFull signer text).mapError classify

/-- Reads a token of exactly three segments with its bare header. -/
def readBare (signer : Signer) (text : Bytes) : Except ContainerError Claims := do
  let some parts := parts? text | throw (.format "JWT must have three segments")
  -- What stands before the last two points is one segment only if it has no point of its own.
  if parts.header.contains point then throw (.format "JWT must have three segments")
  let fault (f : Base64.Fault) : ContainerError := malformed f.message
  let refusal := malformed Json.refusal
  let expected := Registry.name signer.algorithm
  let name ← value refusal Jose.bareAlgorithm? (← content fault parts.header)
  if name ≠ expected then
    throw (malformed s!"unexpected algorithm {Text.quoted name}, expected {Text.quoted expected}")
  let signature ← content fault parts.signature
  if !signer.verify parts.signed signature then throw (mismatch "signature verification failed")
  value refusal Claims.ofJson? (← content fault parts.claims)

def read (signer : Signer) (text : Bytes) : Except ContainerError Claims :=
  if signer.algorithm = .es512 then readBare signer text else readFull signer text

end SealedTokens.Jwt
