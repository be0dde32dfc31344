import Gateway.Digest.Sha256
import Gateway.Text.Hex

/-! # The pad transform

A pad is a byte string, called a key, that is combined with data byte by byte by exclusive or. A key
shorter than the data is used again from its start. The same transform encrypts and decrypts.
-/

namespace Gateway

/-- Why key material is refused. -/
inductive PadError where
  /-- The key is empty. -/
  | empty
  /-- There is no key to work with. -/
  | missing
deriving DecidableEq, Repr

def PadError.message : PadError → String
  | .empty => "Invalid OTP key"
  | .missing => "No OTP key"

namespace Pad

/-- Data combined with a key of which `rest` is still unused; once that is used up, the whole key
follows. -/
def combine (key : Bytes) : Bytes → Bytes → Bytes
  | _, [] => []
  | unused :: rest, byte :: data => (byte ^^^ unused) :: combine key rest data
  | [], byte :: data =>
    match key with
    | [] => byte :: data
    | first :: rest => (byte ^^^ first) :: combine key rest data

/-- Data combined with a key from its start. -/
def apply (key data : Bytes) : Except PadError Bytes :=
  if key.isEmpty then .error .empty else .ok (combine key key data)

/-- The name of a key in logs: the first eight bytes of its digest. -/
def fingerprint (key : Bytes) : String := Hex.encode ((Sha256.digest key).take 8)

end Pad

/-- A source of random bytes: a stream and how far it has been read. -/
structure Entropy where
  byte : Nat → UInt8
  position : Nat

instance : Inhabited Entropy := ⟨⟨fun _ => 0, 0⟩⟩

def Entropy.draw (entropy : Entropy) (count : Nat) : Bytes × Entropy :=
  ((List.range count).map fun offset => entropy.byte (entropy.position + offset),
    { entropy with position := entropy.position + count })

/-- A new key of the given size. -/
def Pad.generate (size : Nat) (entropy : Entropy) : Except PadError Bytes × Entropy :=
  if size = 0 then (.error .empty, entropy)
  else
    let (key, entropy) := entropy.draw size
    (.ok key, entropy)

end Gateway
