import SealedTokens.Crypto.Der
import SealedTokens.Crypto.Ecdsa
import SealedTokens.Crypto.Ed25519
import SealedTokens.Crypto.Pem
import SealedTokens.Crypto.Rsa
/-!
Private keys in PEM texts: PKCS #8 for every algorithm, and PKCS #1 for RSA as well. A key of
another algorithm or curve, and one whose public half does not belong to it, is refused.
-/
namespace SealedTokens.Crypto.PrivateKey

/-- The object identifiers of the key algorithms and of the curves. -/
def rsaObject : Bytes := [0x2a, 0x86, 0x48, 0x86, 0xf7, 0x0d, 0x01, 0x01, 0x01]
def curveObject : Bytes := [0x2a, 0x86, 0x48, 0xce, 0x3d, 0x02, 0x01]
def ed25519Object : Bytes := [0x2b, 0x65, 0x70]
def p256Object : Bytes := [0x2a, 0x86, 0x48, 0xce, 0x3d, 0x03, 0x01, 0x07]
def p384Object : Bytes := [0x2b, 0x81, 0x04, 0x00, 0x22]
def p521Object : Bytes := [0x2b, 0x81, 0x04, 0x00, 0x23]

/-- The parts of a PKCS #8 key: its algorithm with parameters, the key in the algorithm's own form,
and the public half where there is one. -/
structure Envelope where
  algorithm : Bytes
  parameters : Option Der.Element
  key : Bytes
  publicKey : Option Bytes

/-- The public half among the parts that may follow a key; parts of other kinds are skipped. -/
def publicPart? : List Der.Element → Option (Option Bytes)
  | [] => some none
  | e :: rest =>
    if e.tag = 0xa0 then publicPart? rest
    else if e.tag = 0x81 then
      match e.content with
      | 0 :: content => some (some content)
      | _ => none
    else none

/-- Reads a PKCS #8 key; its version is one just when it holds the public half. -/
def Envelope.ofDer? (bytes : Bytes) : Option Envelope := do
  match ← (← Der.whole? bytes).items? Der.sequenceTag with
  | version :: algorithm :: key :: rest =>
    let publicKey ← publicPart? rest
    if (← version.nat?) ≠ (if publicKey.isSome then 1 else 0) then none
    let key ← key.content? Der.octetsTag
    match ← algorithm.items? Der.sequenceTag with
    | [object] => return ⟨← object.content? Der.objectTag, none, key, publicKey⟩
    | [object, parameters] => return ⟨← object.content? Der.objectTag, some parameters, key, publicKey⟩
    | _ => none
  | _ => none

/-- The PKCS #8 key of a PEM text. -/
def Envelope.ofPem? (width : Pem.LineWidth) (text : Bytes) : Option Envelope := do
  let (label, content) ← Pem.parse? width text
  if label = Bytes.ofAscii "PRIVATE KEY" then Envelope.ofDer? content else none

/-- Reads a PKCS #1 key of two primes, whose parts have to belong together. -/
def rsaOfDer? (bytes : Bytes) : Option Rsa.Key := do
  let numbers ← (← (← Der.whole? bytes).items? Der.sequenceTag).mapM Der.Element.nat?
  match numbers with
  | [0, n, e, d, p, q, _, _, _] =>
    let key : Rsa.Key := ⟨n, e, d⟩
    if key.isConsistent p q then return key else none
  | _ => none

/-- The RSA key of a PEM text. -/
def rsa? (text : Bytes) : Option Rsa.Key :=
  ofEnvelope? <|> ofPkcs1?
where
  ofEnvelope? : Option Rsa.Key := do
    let envelope ← Envelope.ofPem? .standard text
    if envelope.algorithm = rsaObject && envelope.parameters = some ⟨Der.nullTag, []⟩ then
      rsaOfDer? envelope.key
    else none
  ofPkcs1? : Option Rsa.Key := do
    let (label, content) ← Pem.parse? .standard text
    if label = Bytes.ofAscii "RSA PRIVATE KEY" then rsaOfDer? content else none

/-- A key on a curve: the secret number and the public point. -/
structure CurveKey where
  secret : Nat
  point : Curve.Point

/-- Whether the form of a point, plain or compressed, is that of the coordinates. -/
def isPointForm (curve : Curve) (x y : Nat) (form : Bytes) : Bool :=
  form == curve.pointBytes x y ||
    form == UInt8.ofNat (2 + y % 2) :: Bytes.ofNatBE curve.size x

/-- Checks the parts that may follow a secret number: the curve, and the public point. -/
def checkCurveParts (curve : Curve) (object : Bytes) (x y : Nat) : List Der.Element → Bool
  | [] => true
  | e :: rest =>
    match Der.whole? e.content with
    | some inner =>
      (if e.tag = 0xa0 then inner.content? Der.objectTag == some object
        else e.tag = 0xa1 && (inner.bits?).any (isPointForm curve x y)) &&
        checkCurveParts curve object x y rest
    | none => false

/-- The key on a curve of a PEM text. -/
def curve? (curve : Curve) (object text : Bytes) : Option CurveKey := do
  let envelope ← Envelope.ofPem? .standard text
  if envelope.algorithm ≠ curveObject ||
      envelope.parameters ≠ some ⟨Der.objectTag, object⟩ then none
  match ← (← Der.whole? envelope.key).items? Der.sequenceTag with
  | version :: secret :: rest =>
    let secret ← secret.content? Der.octetsTag
    if (← version.nat?) ≠ 1 || secret.length > curve.size || secret.length < 24 then none
    let k := Bytes.toNatBE secret
    if k = 0 || k ≥ curve.order then none
    let (x, y) ← curve.plane? (curve.multiple k curve.base)
    if checkCurveParts curve object x y rest then return ⟨k, x, y, 1⟩ else none
  | _ => none

/-- A key for Ed25519 and its public point. -/
structure EdKey where
  key : Ed25519.Key
  point : Ed25519.Point

/-- The Ed25519 key of a PEM text. -/
def ed25519? (text : Bytes) : Option EdKey := do
  let envelope ← Envelope.ofPem? .asFirst text
  if envelope.algorithm ≠ ed25519Object || envelope.parameters.isSome then none
  match envelope.key with
  | 0x04 :: 0x20 :: seed =>
    if seed.length ≠ 32 then none
    let key := Ed25519.Key.ofSeed seed
    let point := key.point
    if envelope.publicKey.all (· = point.bytes) then return ⟨key, point⟩ else none
  | _ => none

end SealedTokens.Crypto.PrivateKey
