import CorvidNano.Agent.Address
import CorvidNano.Library.Base32
import CorvidNano.Library.Fallible

/-!
# The decoders of addresses

`wallet.rs` has a `decode_address` of its own beside the one in `transaction.rs`, with other
texts for its errors. `decoders_agree` says that both accept the same texts, those of
`encode_address`, and read the same keys from them.
-/

namespace CorvidNano.Agent.Wallet

open Address Fallible

/-- The codec of the crate: texts without padding, which are decoded only if they are canonical.
What its errors say is left open. -/
structure Canonical (base32 : Base32NoPad) : Prop where
  encode_eq : ∀ data, base32.encode data = Base32.encode data
  decode_eq : ∀ text, (base32.decode text).toOption = Base32.decode text

variable (sha : Sha512_256) (base32 : Base32NoPad)

/-- The key is the first 32 bytes of an address. -/
theorem size_take_key {bytes : List UInt8} (h : bytes.length = 36) :
    (bytes.take 32).toArray.size = 32 := by
  rw [List.size_toArray, List.length_take, h]
  rfl

/-- `decode_address` of `wallet.rs`. -/
def decodeAddress (address : String) : Except String PublicKey :=
  match base32.decode (Utf8.bytes address) with
  | .error reason => .error ("Invalid base32: " ++ reason)
  | .ok bytes =>
      if h : bytes.length = 36 then
        let publicKey : PublicKey := ⟨(bytes.take 32).toArray, size_take_key h⟩
        if checksum sha publicKey = bytes.drop 32 then .ok publicKey
        else .error "Address checksum mismatch"
      else
        .error ("Address must be 36 bytes (got " ++ toString bytes.length ++
          "). Check your address.")

/-- The two decoders accept the same texts with the same keys: the address of every key, and
nothing else. -/
structure Agree : Prop where
  same : ∀ address, (decodeAddress sha base32 address).toOption =
    (Address.decodeAddress sha base32 address).toOption
  decode_encode : ∀ publicKey,
    decodeAddress sha base32 (encodeAddress sha base32 publicKey) = .ok publicKey ∧
      Address.decodeAddress sha base32 (encodeAddress sha base32 publicKey) = .ok publicKey
  encode_decode : ∀ address publicKey, decodeAddress sha base32 address = .ok publicKey ∨
    Address.decodeAddress sha base32 address = .ok publicKey →
      encodeAddress sha base32 publicKey = address

variable {sha : Sha512_256} {base32 : Base32NoPad}

/-- The decoders differ in the texts of their errors only. -/
theorem to_option_decode_address (address : String) :
    (decodeAddress sha base32 address).toOption =
      (Address.decodeAddress sha base32 address).toOption := by
  unfold decodeAddress Address.decodeAddress
  cases base32.decode (Utf8.bytes address) with
  | error reason => rfl
  | ok bytes =>
      dsimp only
      split
      · split
        · rfl
        · rfl
      · rfl

/-- What one decoder reads, the other does. -/
theorem decode_address_eq_ok_iff {address : String} {publicKey : PublicKey} :
    decodeAddress sha base32 address = .ok publicKey ↔
      Address.decodeAddress sha base32 address = .ok publicKey := by
  rw [← to_option_eq_some, ← to_option_eq_some, to_option_decode_address]

/-- With the codec of the crate an address is accepted exactly if it is that of its key. -/
theorem decode_address_iff_encode (hbase32 : Canonical base32) {address : String}
    {publicKey : PublicKey} :
    Address.decodeAddress sha base32 address = .ok publicKey ↔
      encodeAddress sha base32 publicKey = address := by
  rw [decode_address_eq_ok, ← to_option_eq_some, hbase32.decode_eq, encodeAddress,
    hbase32.encode_eq]
  constructor
  · exact Base32.encode_of_decode
  · rintro rfl
    exact Base32.decode_encode _

/-- With the codec of the crate, every character of an address is a symbol of base32. -/
theorem address_chars (hbase32 : Canonical base32) {address : String} {publicKey : PublicKey}
    (h : decodeAddress sha base32 address = .ok publicKey) {c : Char} (hc : c ∈ address.toList) :
    ∃ n < 32, c = Char.ofNat (Base32.symbol n).toNat := by
  rw [decode_address_eq_ok_iff, decode_address_iff_encode hbase32, encodeAddress,
    hbase32.encode_eq] at h
  exact Base32.encode_chars (h ▸ hc)

/-- The decoders agree with each other and with the encoder. -/
theorem decoders_agree (sha : Sha512_256) (hbase32 : Canonical base32) : Agree sha base32 where
  same := to_option_decode_address
  decode_encode publicKey := by
    have htransaction : Address.decodeAddress sha base32 (encodeAddress sha base32 publicKey) =
        .ok publicKey :=
      (decode_address_iff_encode hbase32).mpr rfl
    exact ⟨decode_address_eq_ok_iff.mpr htransaction, htransaction⟩
  encode_decode address publicKey h := by
    rw [decode_address_eq_ok_iff, or_self] at h
    exact (decode_address_iff_encode hbase32).mp h

/-- A codec with one text for all errors. -/
def noPad : Base32NoPad where
  encode := Base32.encode
  decode text := (Base32.decode text).elim (.error "invalid symbol at 0") .ok

theorem no_pad_canonical : Canonical noPad where
  encode_eq _ := rfl
  decode_eq text := by
    show ((Base32.decode text).elim _ Except.ok).toOption = Base32.decode text
    cases Base32.decode text with
    | none => rfl
    | some data => rfl

/-- The decoders agree with this codec. -/
theorem decoders_agree_no_pad : Agree ⟨fun _ => Vector.replicate 32 7⟩ noPad :=
  decoders_agree _ no_pad_canonical

end CorvidNano.Agent.Wallet
