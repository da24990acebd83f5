import Mathlib.Data.List.Basic
import CorvidNano.Library.Utf8

/-!
# Addresses

An Algorand address is the unpadded base32 text of a public key and of the last four bytes of the
key's SHA-512/256 hash. `decodeAddress` is `decode_address` in `transaction.rs`. The hash and the
base32 codec are parameters.
-/

namespace CorvidNano.Agent.Address

/-- The hash function. -/
structure Sha512_256 where
  digest : List UInt8 → Vector UInt8 32

/-- The codec of base32 texts without padding. The error is the one that is shown. -/
structure Base32NoPad where
  encode : List UInt8 → String
  decode : List UInt8 → Except String (List UInt8)

/-- A public key of 32 bytes. -/
abbrev PublicKey := Vector UInt8 32

variable (sha : Sha512_256) (base32 : Base32NoPad)

/-- The last four bytes of a key's hash. -/
def checksum (publicKey : PublicKey) : List UInt8 :=
  (sha.digest publicKey.toList).toList.drop 28

/-- `encode_address`. -/
def encodeAddress (publicKey : PublicKey) : String :=
  base32.encode (publicKey.toList ++ checksum sha publicKey)

/-- `decode_address`. -/
def decodeAddress (address : String) : Except String PublicKey :=
  match base32.decode (Utf8.bytes address) with
  | .error reason => .error ("Invalid Algorand address '" ++ address ++ "': " ++ reason)
  | .ok decoded =>
      if h : decoded.length = 36 then
        let publicKey : PublicKey := ⟨(decoded.take 32).toArray, by simp [h]⟩
        if checksum sha publicKey = decoded.drop 32 then .ok publicKey
        else .error ("Algorand address checksum mismatch for '" ++ address ++ "'")
      else
        .error ("Invalid Algorand address length: expected 36 bytes (32 + 4 checksum), got " ++
          toString decoded.length)

variable {sha : Sha512_256} {base32 : Base32NoPad}

@[simp] theorem length_checksum (publicKey : PublicKey) :
    (checksum sha publicKey).length = 4 := by
  simp [checksum]

/-- An address is accepted if its text is that of a key and the key's checksum. -/
theorem decode_address_eq_ok {address : String} {publicKey : PublicKey} :
    decodeAddress sha base32 address = .ok publicKey ↔
      base32.decode (Utf8.bytes address) =
        .ok (publicKey.toList ++ checksum sha publicKey) := by
  unfold decodeAddress
  constructor
  · intro h
    split at h
    · cases h
    · rename_i decoded hdecoded
      split at h
      · rename_i hlength
        dsimp only at h
        split at h
        · rename_i hchecksum
          obtain rfl := Except.ok.inj h
          rw [hdecoded, hchecksum]
          show Except.ok decoded = .ok ((decoded.take 32) ++ _)
          rw [List.take_append_drop]
        · cases h
      · cases h
  · intro h
    have hlength : (publicKey.toList ++ checksum sha publicKey).length = 36 := by simp
    have hkey : (publicKey.toList ++ checksum sha publicKey).take 32 = publicKey.toList :=
      List.take_left' publicKey.length_toList
    have hsum : (publicKey.toList ++ checksum sha publicKey).drop 32 = checksum sha publicKey :=
      List.drop_left' publicKey.length_toList
    simp only [h, hlength, hkey, hsum, dite_true]
    exact if_pos rfl

/-- The address of a key is decoded if the codec reads its text back. -/
theorem decode_encode_address {publicKey : PublicKey}
    (h : base32.decode (Utf8.bytes (encodeAddress sha base32 publicKey)) =
      .ok (publicKey.toList ++ checksum sha publicKey)) :
    decodeAddress sha base32 (encodeAddress sha base32 publicKey) = .ok publicKey :=
  decode_address_eq_ok.mpr h

end CorvidNano.Agent.Address
