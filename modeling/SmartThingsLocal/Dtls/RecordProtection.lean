import SmartThingsLocal.Coap.Message
import SmartThingsLocal.Foundation.Stateful

/-!
# Record protection

The cryptography the DTLS PSK engine calls, as functions that are not interpreted, and
what the engine builds from it: the PRF of TLS 1.2 and `_Transform`, which protects
records with AES-128-CBC and HMAC-SHA256, MAC then encrypt, with an explicit IV.
-/

namespace SmartThingsLocal

namespace Dtls

def version : ByteString := [0xFE, 0xFD]
def macLen : ℕ := 32
def keyLen : ℕ := 16
def block : ℕ := 16
def maxPadScan : ℕ := 256

/-- The bytes of an ASCII text. -/
def ascii (text : String) : ByteString :=
  text.toList.map fun character => UInt8.ofNat character.toNat

end Dtls

/--
The functions of `hmac`, `hashlib`, `cryptography`, `os` and `time` that the engine calls,
with what they are documented to return. Random draws and clock readings are numbered.
-/
structure Primitives where
  hmacSha256 : ByteString → ByteString → ByteString
  length_hmacSha256 : ∀ key message, (hmacSha256 key message).length = Dtls.macLen
  sha256 : ByteString → ByteString
  aesCbcEncrypt : (key iv text : ByteString) → ByteString
  aesCbcDecrypt : (key iv text : ByteString) → ByteString
  length_aesCbcEncrypt : ∀ key iv text, Dtls.block ∣ text.length →
    (aesCbcEncrypt key iv text).length = text.length
  length_aesCbcDecrypt : ∀ key iv text, Dtls.block ∣ text.length →
    (aesCbcDecrypt key iv text).length = text.length
  aesCbcDecrypt_encrypt : ∀ key iv text, Dtls.block ∣ text.length →
    aesCbcDecrypt key iv (aesCbcEncrypt key iv text) = text
  generatePrivateKey : ℕ → ℕ
  publicBytes : ℕ → ByteString
  length_publicBytes : ∀ key, (publicBytes key).length = 65
  isEncodedPoint : ByteString → Bool
  exchange : ℕ → ByteString → ByteString
  length_exchange : ∀ key point, isEncodedPoint point = true → (exchange key point).length = 32
  urandom : (draw size : ℕ) → ByteString
  length_urandom : ∀ draw size, (urandom draw size).length = size
  now : ℕ → ℚ

variable (primitives : Primitives)

/-- The loop of `_prf` for a number of blocks, from the value of `a`. -/
def prfBlocks (secret seed : ByteString) : ℕ → ByteString → ByteString
  | 0, _ => []
  | blocks + 1, a =>
      primitives.hmacSha256 secret (a ++ seed) ++
        prfBlocks secret seed blocks (primitives.hmacSha256 secret a)

/-- The TLS 1.2 PRF with SHA-256; every block has 32 octets, so their number is known. -/
def prf (secret label seed : ByteString) (length : ℕ) : ByteString :=
  let labelled := label ++ seed
  (prfBlocks primitives secret labelled ((length + Dtls.macLen - 1) / Dtls.macLen)
    (primitives.hmacSha256 secret labelled)).take length

/-- The keys of `_Transform`. -/
structure Transform where
  macEnc : ByteString
  macDec : ByteString
  encKey : ByteString
  decKey : ByteString
  deriving DecidableEq, Repr

namespace Transform

open Dtls

/-- The split of the key block: client MAC, server MAC, client key, server key. -/
def ofKeyBlock (keyBlock : ByteString) : Transform where
  macEnc := keyBlock.take macLen
  macDec := (keyBlock.drop macLen).take macLen
  encKey := (keyBlock.drop (macLen * 2)).take keyLen
  decKey := (keyBlock.drop (macLen * 2 + keyLen)).take keyLen

/-- `_mac_input`. -/
def macInput (epoch seq : ℕ) (contentType : UInt8) (payload : ByteString) :
    Except PythonError ByteString := do
  let epoch ← packH epoch
  let seq ← toBytes 6 seq
  let length ← packH payload.length
  return epoch ++ seq ++ contentType :: version ++ length ++ payload

/-- The fragment that protects a payload, with the IV that is drawn for it. -/
def protect (transform : Transform) (iv : ByteString) (epoch seq : ℕ) (contentType : UInt8)
    (payload : ByteString) : Except PythonError ByteString := do
  let input ← macInput epoch seq contentType payload
  let content := payload ++ primitives.hmacSha256 transform.macEnc input
  let pad := block - (content.length + 1) % block
  let pad := if pad = block then 0 else pad
  let padding ← bytesOf (List.replicate (pad + 1) pad)
  return iv ++ primitives.aesCbcEncrypt transform.encKey iv (content ++ padding)

/-- The scan of the padding: the deviations of the last `scan` octets that lie within it. -/
def scanPadding (plain : ByteString) (pad scan bad : ℕ) : Except PythonError ℕ :=
  (List.range scan).foldlM (fun bad index => do
    let byte ← octetAt plain (plain.length - 1 - index)
    return bad ||| if index ≤ pad then byte.toNat ^^^ pad else 0) bad

/-- The payload of a fragment, or `none` if the record is not authentic. -/
def unprotect (transform : Transform) (epoch seq : ℕ) (contentType : UInt8)
    (fragment : ByteString) : Except PythonError (Option ByteString) :=
  if fragment.length < block * 2 ∨ (fragment.length - block) % block ≠ 0 then .ok none
  else do
    let plain := primitives.aesCbcDecrypt transform.decKey (fragment.take block)
      (fragment.drop block)
    let last ← octetAt plain (plain.length - 1)
    -- a padding that cannot fit is taken as empty, and the record is refused at the end
    let fits := last.toNat + 1 + macLen ≤ plain.length
    let pad := if fits then last.toNat else 0
    let bad ← scanPadding plain pad (min plain.length maxPadScan) (if fits then 0 else 1)
    let content := plain.take (plain.length - pad - 1)
    let payload := content.take (content.length - macLen)
    let mac := content.drop (content.length - macLen)
    let input ← macInput epoch seq contentType payload
    let bad := if mac = primitives.hmacSha256 transform.macDec input then bad else 1
    return if bad ≠ 0 then none else some payload

variable {primitives}

end Transform

end SmartThingsLocal
