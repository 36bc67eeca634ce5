import CredentialRotation.Log
import CredentialRotation.Pem.KeyBlocks
import CredentialRotation.Rsa.PrivateKey
import CredentialRotation.Text.Utf8

/-!
The reading of a private key from text with a single private key block.
-/
namespace CredentialRotation.PrivateKey

/-- The body of a private key block without line breaks. -/
def joinLines (body : List Char) : List Char :=
  body.filter fun c => c ≠ '\r' && c ≠ '\n'

/-- Reads the key in the body of a block. -/
def decodeBody (body : List Char) : Except DecodeFailure PrivateKey :=
  match Base64.decode (Utf8.encode (joinLines body)) with
  | .error fault => .error (.keyBase64 fault)
  | .ok der =>
    match ofPkcs8? der with
    | some key => .ok key
    | none => .error .key

/-- Reads the private key of a text. Of several keys none is chosen. -/
def decode (text : Octets) : Attempt PrivateKey := do
  match Pem.keyBodies (Utf8.decodeLossy text) with
  | [] => throw .keyNotFound
  | [body] =>
    match decodeBody body with
    | .ok key => return key
    | .error cause => throw (.decode cause)
  | _ :: _ :: _ =>
    Attempt.report .severalKeys
    throw .keyNotFound

/-- The numbers a signer works with, if the key can sign. -/
def signer (key : PrivateKey) : Except CredentialFailure Rsa.Components :=
  if key.canSign then .ok key.components else .error (.unusableKey (.refused key.modulusBits))

end CredentialRotation.PrivateKey
