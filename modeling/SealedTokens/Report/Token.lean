import SealedTokens.Container.Basic
import SealedTokens.Report.Error
import SealedTokens.Text.Utf8
/-!
Reports of tokens. A sealed token of a stack that compresses is shown by its nonce and what it
seals, others as they are spelled; of a signed token with a randomised signature only what is signed
is shown.
-/
namespace SealedTokens

open Report

/-- Whether equal claims get different signatures. -/
def SignatureAlgorithm.isRandomised : SignatureAlgorithm → Bool
  | ps256 | ps384 | ps512 | es512 => true
  | _ => false

/-- A token as text, with damaged parts replaced. -/
def Report.tokenText (token : Bytes) : String := Text.lossy token

namespace Backend

/-- The nonce of a sealed token and what it seals. -/
def inside (codec : Codec) (token : Bytes) : Except ContainerError Json := do
  let box ← codec.representer.decode token
  let nonce :=
    if codec.sealer.kind = .nop then [] else box.take Crypto.XChaCha20Poly1305.nonceLength
  let plain ← codec.compressor.decompress (← codec.sealer.ofBox box)
  return record [("nonce", .text (Bytes.ofAscii (Bytes.hex nonce))), ("plain", report plain)]

/-- What is shown of a token; a raw view always shows its spelling. A spelling in text is shown in
full, however long it is. -/
def tokenReport (backend : Backend) (raw : Bool) (token : Bytes) : Json :=
  let spelled := record [("text", .ofText (tokenText token))]
  match backend with
  | .signed signer =>
    match Jwt.splitLast? token with
    | some (claims, _) =>
      if signer.algorithm.isRandomised then
        record [("signed", .ofText (tokenText claims)), ("segments", number 3)]
      else spelled
    | none => spelled
  | .sealed codec =>
    if codec.compressor = .lz4 && !raw then report (inside codec token)
    else match codec.representer with
      | .base64 => spelled
      | .nop => record [("hex", report token)]

end Backend

end SealedTokens
