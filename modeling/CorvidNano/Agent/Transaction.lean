import CorvidNano.Agent.Address
import CorvidNano.Library.MessagePack

/-!
# Transactions

The two builders of payment transactions and `sign_transaction` in `transaction.rs`. A builder
writes a MessagePack map field by field after a header with the number of fields. The signature
is over the bytes of the map, and the envelope repeats these bytes.

`transaction_round_trip` reads back what the builders and the envelope write. `canonical_iff` says
for which inputs the map is the canonical one, in which no field has a zero value.
-/

namespace CorvidNano.Agent.Transaction

open Address MessagePack

/-- The parameters of the network that a transaction repeats. -/
structure SuggestedParams where
  minFee : UInt64
  firstValid : UInt64
  lastValid : UInt64
  genesisId : String
  genesisHash : Vector UInt8 32

/-- A key that signs messages. -/
structure SigningKey where
  sign : List UInt8 → Vector UInt8 64

variable (codec : Codec) (sha : Sha512_256) (base32 : Base32NoPad)

/-- `build_payment_transaction_with_amount`. -/
def buildPaymentTransactionWithAmount (sender receiver : String) (amount : UInt64)
    (params : SuggestedParams) : Except String (List UInt8) := do
  let senderBytes ← decodeAddress sha base32 sender
  let receiverBytes ← decodeAddress sha base32 receiver
  let fieldCount := if amount > 0 then 9 else 8
  .ok (codec.writeAll [.mapLen fieldCount] ++
    (if amount > 0 then codec.writeAll [.str "amt", .uint amount] else []) ++
    codec.writeAll [
      .str "fee", .uint params.minFee,
      .str "fv", .uint params.firstValid,
      .str "gen", .str params.genesisId,
      .str "gh", .bin params.genesisHash.toList,
      .str "lv", .uint params.lastValid,
      .str "rcv", .bin receiverBytes.toList,
      .str "snd", .bin senderBytes.toList,
      .str "type", .str "pay"])

/-- `build_payment_transaction`. -/
def buildPaymentTransaction (sender receiver : String) (note : List UInt8)
    (params : SuggestedParams) : Except String (List UInt8) := do
  let senderBytes ← decodeAddress sha base32 sender
  let receiverBytes ← decodeAddress sha base32 receiver
  .ok (codec.writeAll [
      .mapLen 9,
      .str "fee", .uint params.minFee,
      .str "fv", .uint params.firstValid,
      .str "gen", .str params.genesisId,
      .str "gh", .bin params.genesisHash.toList,
      .str "lv", .uint params.lastValid,
      .str "note", .bin note,
      .str "rcv", .bin receiverBytes.toList,
      .str "snd", .bin senderBytes.toList,
      .str "type", .str "pay"])

/-- The bytes that are signed: the transaction after `TX`. -/
def toSign (rawTxn : List UInt8) : List UInt8 := Utf8.bytes "TX" ++ rawTxn

/-- `sign_transaction`. -/
def signTransaction (rawTxn : List UInt8) (signingKey : SigningKey) : List UInt8 :=
  let signature := signingKey.sign (toSign rawTxn)
  codec.writeAll [.mapLen 2, .str "sig", .bin signature.toList, .str "txn"] ++ rawTxn

/-! ## What a transaction says -/

/-- The fields of a payment of an amount. -/
def amountFields (amount : UInt64) (params : SuggestedParams) (sender receiver : PublicKey) :
    Fields :=
  (if amount > 0 then [("amt", .uint amount)] else []) ++ [
    ("fee", .uint params.minFee),
    ("fv", .uint params.firstValid),
    ("gen", .str params.genesisId),
    ("gh", .bin params.genesisHash.toList),
    ("lv", .uint params.lastValid),
    ("rcv", .bin receiver.toList),
    ("snd", .bin sender.toList),
    ("type", .str "pay")]

/-- The fields of a payment of nothing with a note. -/
def noteFields (note : List UInt8) (params : SuggestedParams) (sender receiver : PublicKey) :
    Fields := [
  ("fee", .uint params.minFee),
  ("fv", .uint params.firstValid),
  ("gen", .str params.genesisId),
  ("gh", .bin params.genesisHash.toList),
  ("lv", .uint params.lastValid),
  ("note", .bin note),
  ("rcv", .bin receiver.toList),
  ("snd", .bin sender.toList),
  ("type", .str "pay")]

/-- The bytes are the map of the fields: the header counts them, their keys ascend, and decoding
gives them. -/
structure Encodes (rawTxn : List UInt8) (fields : Fields) : Prop where
  header : ∃ rest, codec.read rawTxn = some (.mapLen fields.length, rest)
  ascending : (fields.map Prod.fst).Pairwise (· < ·)
  decoded : decode codec rawTxn = some (.map fields)

/-- The envelope of a signature and a transaction. -/
def envelope (signature : List UInt8) (fields : Fields) : Value :=
  .map [("sig", .bin signature), ("txn", .map fields)]

/-- The bytes are the envelope of the key's signature of a transaction and of the very bytes of
the transaction. -/
structure Signs (signingKey : SigningKey) (rawTxn signed : List UInt8) (fields : Fields) :
    Prop where
  txnBytes : codec.readMany 4 signed = some ([.mapLen 2, .str "sig",
    .bin (signingKey.sign (toSign rawTxn)).toList, .str "txn"], rawTxn)
  decoded : decode codec signed =
    some (envelope (signingKey.sign (toSign rawTxn)).toList fields)

variable {codec : Codec} {sha : Sha512_256} {base32 : Base32NoPad}

/-- The keys of a payment of an amount ascend. -/
theorem amount_fields_ascending (amount : UInt64) (params : SuggestedParams)
    (sender receiver : PublicKey) :
    ((amountFields amount params sender receiver).map Prod.fst).Pairwise (· < ·) := by
  unfold amountFields
  split
  · show ["amt", "fee", "fv", "gen", "gh", "lv", "rcv", "snd", "type"].Pairwise (· < ·)
    decide
  · show ["fee", "fv", "gen", "gh", "lv", "rcv", "snd", "type"].Pairwise (· < ·)
    decide

/-- The keys of a payment with a note ascend. -/
theorem note_fields_ascending (note : List UInt8) (params : SuggestedParams)
    (sender receiver : PublicKey) :
    ((noteFields note params sender receiver).map Prod.fst).Pairwise (· < ·) := by
  show ["fee", "fv", "gen", "gh", "lv", "note", "rcv", "snd", "type"].Pairwise (· < ·)
  decide

/-- The first builder writes the map of its fields, also where the amount is left out. -/
theorem build_with_amount_eq {sender receiver : String} {senderKey receiverKey : PublicKey}
    (hsender : decodeAddress sha base32 sender = .ok senderKey)
    (hreceiver : decodeAddress sha base32 receiver = .ok receiverKey) (amount : UInt64)
    (params : SuggestedParams) :
    buildPaymentTransactionWithAmount codec sha base32 sender receiver amount params =
      .ok (encode codec (.map (amountFields amount params senderKey receiverKey))) := by
  unfold buildPaymentTransactionWithAmount amountFields
  rw [hsender, hreceiver]
  show Except.ok _ = Except.ok _
  -- The header is computed apart from the fields, so each case has its own count.
  split
  · simp only [encode, ← write_all_append]
    rfl
  · simp only [encode, List.append_nil, ← write_all_append]
    rfl

/-- The second builder writes the map of its fields. -/
theorem build_payment_eq {sender receiver : String} {senderKey receiverKey : PublicKey}
    (hsender : decodeAddress sha base32 sender = .ok senderKey)
    (hreceiver : decodeAddress sha base32 receiver = .ok receiverKey) (note : List UInt8)
    (params : SuggestedParams) :
    buildPaymentTransaction codec sha base32 sender receiver note params =
      .ok (encode codec (.map (noteFields note params senderKey receiverKey))) := by
  unfold buildPaymentTransaction
  rw [hsender, hreceiver]
  rfl

/-- The header of the envelope and the bytes of a map are the bytes of the envelope. -/
theorem sign_transaction_eq (signingKey : SigningKey) (fields : Fields) :
    signTransaction codec (encode codec (.map fields)) signingKey =
      encode codec (envelope
        (signingKey.sign (toSign (encode codec (.map fields)))).toList fields) := by
  simp only [signTransaction, encode, ← write_all_append]
  simp [envelope, tokens, fieldTokens]

/-- The encoding of a map with ascending keys. -/
theorem encodes_encode {fields : Fields} (hread : ReadsBack codec (.map fields))
    (hascending : (fields.map Prod.fst).Pairwise (· < ·)) :
    Encodes codec (encode codec (.map fields)) fields where
  header := ⟨_, read_encode_map hread⟩
  ascending := hascending
  decoded := decode_encode hread

/-- Every primitive of the signed transaction with the fields is read back. -/
def SignedReadsBack (codec : Codec) (signingKey : SigningKey) (fields : Fields) : Prop :=
  ReadsBack codec (envelope
    (signingKey.sign (toSign (encode codec (.map fields)))).toList fields)

/-- The primitives of the transaction are among those of the envelope. -/
theorem SignedReadsBack.fields {signingKey : SigningKey} {fields : Fields}
    (h : SignedReadsBack codec signingKey fields) : ReadsBack codec (.map fields) := by
  intro token htoken
  refine h token ?_
  simp only [envelope, tokens, fieldTokens, List.mem_cons, List.mem_append] at htoken ⊢
  tauto

/-- The envelope of an encoded transaction repeats its bytes. -/
theorem signs_sign_transaction {signingKey : SigningKey} {fields : Fields}
    (h : SignedReadsBack codec signingKey fields) :
    Signs codec signingKey (encode codec (.map fields))
      (signTransaction codec (encode codec (.map fields)) signingKey) fields where
  txnBytes := by
    refine read_many_write_all [_, _, _, _] (fun token htoken => h token ?_) _
    simp only [envelope, tokens, fieldTokens, List.mem_cons, List.mem_append,
      List.not_mem_nil, or_false] at htoken ⊢
    obtain rfl | rfl | rfl | rfl := htoken <;> simp
  decoded := by
    rw [sign_transaction_eq]
    exact decode_encode h

/-- For all valid addresses, each builder writes the map of its inputs, with `amt` only where the
amount is not zero, and the signed transaction is the envelope of the signature and of the bytes
that the builder wrote. The primitives that are written are assumed to be read back. -/
theorem transaction_round_trip (codec : Codec) (sha : Sha512_256) (base32 : Base32NoPad)
    (signingKey : SigningKey) {sender receiver : String} {senderKey receiverKey : PublicKey}
    (hsender : decodeAddress sha base32 sender = .ok senderKey)
    (hreceiver : decodeAddress sha base32 receiver = .ok receiverKey)
    (amount : UInt64) (note : List UInt8) (params : SuggestedParams)
    (hamount : SignedReadsBack codec signingKey
      (amountFields amount params senderKey receiverKey))
    (hnote : SignedReadsBack codec signingKey (noteFields note params senderKey receiverKey)) :
    (∃ rawTxn,
      buildPaymentTransactionWithAmount codec sha base32 sender receiver amount params =
        .ok rawTxn ∧
      Encodes codec rawTxn (amountFields amount params senderKey receiverKey) ∧
      Signs codec signingKey rawTxn (signTransaction codec rawTxn signingKey)
        (amountFields amount params senderKey receiverKey)) ∧
    ∃ rawTxn,
      buildPaymentTransaction codec sha base32 sender receiver note params = .ok rawTxn ∧
      Encodes codec rawTxn (noteFields note params senderKey receiverKey) ∧
      Signs codec signingKey rawTxn (signTransaction codec rawTxn signingKey)
        (noteFields note params senderKey receiverKey) :=
  ⟨⟨_, build_with_amount_eq hsender hreceiver amount params,
      encodes_encode hamount.fields (amount_fields_ascending _ _ _ _),
      signs_sign_transaction hamount⟩,
    ⟨_, build_payment_eq hsender hreceiver note params,
      encodes_encode hnote.fields (note_fields_ascending _ _ _ _),
      signs_sign_transaction hnote⟩⟩

/-! ## The canonical encoding -/

/-- A field whose value is zero or empty. A note is a byte string of any length. The other byte
strings are arrays of 32 bytes, which are zero when all their bytes are. -/
def isZero : String × Value → Bool
  | (_, .uint value) => value == 0
  | (_, .str text) => text == ""
  | (key, .bin bytes) => if key = "note" then bytes.isEmpty else bytes.all (· == 0)
  | (_, .map fields) => fields.isEmpty

/-- The encoding that a node hashes and verifies: the map of ascending keys that encoding what it
decodes to gives again, its integers in their shortest form, without a field that is zero or
empty. -/
def Canonical (codec : Codec) (rawTxn : List UInt8) : Prop :=
  ∃ fields, Encodes codec rawTxn fields ∧ rawTxn = encode codec (.map fields) ∧
    (∀ value, .uint value ∈ tokens (.map fields) → codec.WritesShortest value) ∧
    ∀ field ∈ fields, isZero field = false

/-- No parameter of the network and no address is zero or empty. -/
structure NoneZero (params : SuggestedParams) (sender receiver : PublicKey) : Prop where
  minFee : params.minFee ≠ 0
  firstValid : params.firstValid ≠ 0
  lastValid : params.lastValid ≠ 0
  genesisId : params.genesisId ≠ ""
  genesisHash : ∃ byte ∈ params.genesisHash.toList, byte ≠ 0
  sender : ∃ byte ∈ sender.toList, byte ≠ 0
  receiver : ∃ byte ∈ receiver.toList, byte ≠ 0

/-- An encoded map is canonical if none of its fields is zero. -/
theorem canonical_encode_iff {fields : Fields} (hread : ReadsBack codec (.map fields))
    (hascending : (fields.map Prod.fst).Pairwise (· < ·))
    (hshortest : ∀ value, codec.WritesShortest value) :
    Canonical codec (encode codec (.map fields)) ↔ ∀ field ∈ fields, isZero field = false := by
  constructor
  · intro ⟨others, hencodes, _, _, hothers⟩
    have hsame : others = fields :=
      Value.map.inj (Option.some.inj (hencodes.decoded.symm.trans (decode_encode hread)))
    exact hsame ▸ hothers
  · intro h
    exact ⟨fields, encodes_encode hread hascending, rfl, fun value _ => hshortest value, h⟩

/-- Bytes that are not all zero. -/
theorem all_zero_eq_false_iff {bytes : List UInt8} :
    (bytes.all (· == 0)) = false ↔ ∃ byte ∈ bytes, byte ≠ 0 := by
  simp

/-- The fields of a payment of an amount are not zero if the parameters and the addresses are not.
The amount is not a field where it is zero. -/
theorem amount_fields_nonzero_iff {amount : UInt64} {params : SuggestedParams}
    {sender receiver : PublicKey} :
    (∀ field ∈ amountFields amount params sender receiver, isZero field = false) ↔
      NoneZero params sender receiver := by
  have hamount : ∀ field ∈ (if amount > 0 then [("amt", Value.uint amount)] else []),
      isZero field = false := by
    intro field hfield
    split at hfield
    · rename_i hpos
      obtain rfl := List.mem_singleton.mp hfield
      exact beq_eq_false_iff_ne.mpr (UInt64.ne_of_lt hpos).symm
    · exact absurd hfield List.not_mem_nil
  unfold amountFields
  rw [List.forall_mem_append, and_iff_right hamount]
  constructor
  · intro h
    simp only [List.forall_mem_cons, isZero, beq_eq_false_iff_ne] at h
    obtain ⟨hfee, hfirst, hgenesis, hhash, hlast, hreceiver, hsender, _⟩ := h
    exact ⟨hfee, hfirst, hlast, hgenesis, all_zero_eq_false_iff.mp hhash,
      all_zero_eq_false_iff.mp hsender, all_zero_eq_false_iff.mp hreceiver⟩
  · intro h
    simp only [List.forall_mem_cons, isZero, beq_eq_false_iff_ne]
    exact ⟨h.minFee, h.firstValid, h.genesisId, all_zero_eq_false_iff.mpr h.genesisHash,
      h.lastValid, all_zero_eq_false_iff.mpr h.receiver, all_zero_eq_false_iff.mpr h.sender,
      by decide, List.forall_mem_nil _⟩

/-- The fields of a payment with a note are those of one of nothing, and the note. -/
theorem note_fields_nonzero_iff {note : List UInt8} {params : SuggestedParams}
    {sender receiver : PublicKey} :
    (∀ field ∈ noteFields note params sender receiver, isZero field = false) ↔
      NoneZero params sender receiver ∧ note ≠ [] := by
  have hmem : ∀ field, field ∈ noteFields note params sender receiver ↔
      field ∈ amountFields 0 params sender receiver ∨ field = ("note", .bin note) := by
    intro field
    simp [noteFields, amountFields]
    tauto
  have hnote : isZero ("note", .bin note) = false ↔ note ≠ [] := by
    simp [isZero]
  rw [← amount_fields_nonzero_iff, ← hnote]
  constructor
  · intro h
    exact ⟨fun field hfield => h field ((hmem field).mpr (.inl hfield)),
      h _ ((hmem _).mpr (.inr rfl))⟩
  · intro h field hfield
    obtain hfield | rfl := (hmem field).mp hfield
    · exact h.1 field hfield
    · exact h.2

/-- A payment of an amount is canonical if neither a parameter nor an address is zero or empty,
and a payment with a note if the note is not empty either. -/
theorem canonical_iff (codec : Codec) (sha : Sha512_256) (base32 : Base32NoPad)
    {sender receiver : String} {senderKey receiverKey : PublicKey}
    (hsender : decodeAddress sha base32 sender = .ok senderKey)
    (hreceiver : decodeAddress sha base32 receiver = .ok receiverKey)
    (amount : UInt64) (note : List UInt8) (params : SuggestedParams)
    (hamount : ReadsBack codec (.map (amountFields amount params senderKey receiverKey)))
    (hnote : ReadsBack codec (.map (noteFields note params senderKey receiverKey)))
    (hshortest : ∀ value, codec.WritesShortest value) :
    (∃ rawTxn,
      buildPaymentTransactionWithAmount codec sha base32 sender receiver amount params =
        .ok rawTxn ∧
      (Canonical codec rawTxn ↔ NoneZero params senderKey receiverKey)) ∧
    ∃ rawTxn,
      buildPaymentTransaction codec sha base32 sender receiver note params = .ok rawTxn ∧
      (Canonical codec rawTxn ↔ NoneZero params senderKey receiverKey ∧ note ≠ []) := by
  constructor
  · refine ⟨_, build_with_amount_eq hsender hreceiver amount params, ?_⟩
    exact (canonical_encode_iff hamount (amount_fields_ascending _ _ _ _) hshortest).trans
      amount_fields_nonzero_iff
  · refine ⟨_, build_payment_eq hsender hreceiver note params, ?_⟩
    exact (canonical_encode_iff hnote (note_fields_ascending _ _ _ _) hshortest).trans
      note_fields_nonzero_iff

/-! ## The real format -/

/-- The MessagePack format reads back a signed payment with a genesis id that it can hold. -/
theorem format_signed_amount (signingKey : SigningKey) (amount : UInt64)
    {params : SuggestedParams} (sender receiver : PublicKey)
    (hgenesis : (Utf8.bytes params.genesisId).length < 2 ^ 32) :
    SignedReadsBack format signingKey (amountFields amount params sender receiver) := by
  have huint : ∀ value : UInt64, value.toNat < 18446744073709551616 := fun value => value.toNat_lt
  have hgenesis : (Utf8.bytes params.genesisId).length < 4294967296 := by omega
  refine format_reads_back_value ?_
  unfold amountFields
  split
  all_goals
    simp [envelope, tokens, fieldTokens, Token.number, Token.kind, Kind.limit, hgenesis, huint]
    decide

/-- The MessagePack format reads back a signed payment with a genesis id and a note that it can
hold. -/
theorem format_signed_note (signingKey : SigningKey) {note : List UInt8}
    {params : SuggestedParams} (sender receiver : PublicKey) (hnote : note.length < 2 ^ 32)
    (hgenesis : (Utf8.bytes params.genesisId).length < 2 ^ 32) :
    SignedReadsBack format signingKey (noteFields note params sender receiver) := by
  have huint : ∀ value : UInt64, value.toNat < 18446744073709551616 := fun value => value.toNat_lt
  have hnote : note.length < 4294967296 := by omega
  have hgenesis : (Utf8.bytes params.genesisId).length < 4294967296 := by omega
  refine format_reads_back_value ?_
  simp [noteFields, envelope, tokens, fieldTokens, Token.number, Token.kind, Kind.limit,
    hgenesis, hnote, huint]
  decide

/-- The public key of the seed of 32 ones. -/
def sampleKey : PublicKey :=
  #v[0x8a, 0x88, 0xe3, 0xdd, 0x74, 0x09, 0xf1, 0x95, 0xfd, 0x52, 0xdb, 0x2d, 0x3c, 0xba,
    0x5d, 0x72, 0xca, 0x67, 0x09, 0xbf, 0x1d, 0x94, 0x12, 0x1b, 0xf3, 0x74, 0x88, 0x01,
    0xb4, 0x0f, 0x6f, 0x5c]

/-- The hash of the sample key. -/
def sampleSha : Sha512_256 where
  digest _ :=
    #v[0x12, 0x91, 0xa8, 0x2d, 0x91, 0x38, 0x5c, 0x3b, 0xad, 0xdb, 0x6c, 0xc3, 0xde, 0xef,
      0x21, 0xb6, 0x85, 0x93, 0xf7, 0xb1, 0x89, 0x70, 0xec, 0x6e, 0xee, 0xd3, 0x8a, 0xd6,
      0xe9, 0xd1, 0xb2, 0x59]

/-- The address of the sample key. -/
def sampleAddress : String := "RKEOHXLUBHYZL7KS3MWTZOS5OLFGOCN7DWKBEG7TOSEADNAPN5OOTUNSLE"

/-- The base32 codec at the sample address. -/
def sampleBase32 : Base32NoPad where
  encode _ := sampleAddress
  decode text :=
    if text = Utf8.bytes sampleAddress then
      .ok (sampleKey.toList ++ [0xe9, 0xd1, 0xb2, 0x59])
    else .error "invalid symbol at 0"

/-- The parameters of a test network. -/
def sampleParams : SuggestedParams where
  minFee := 1000
  firstValid := 100
  lastValid := 1100
  genesisId := "testnet-v1.0"
  genesisHash := Vector.replicate 32 3

/-- The signatures with the seed of 32 ones of the two sample payments, of an amount of 5 and with
the note `hello`, told apart by the lengths of what is signed. -/
def sampleSigningKey : SigningKey where
  sign message :=
    if message.length = 164 then
      #v[0x86, 0x20, 0x5c, 0x27, 0xd3, 0xee, 0x88, 0x5e, 0x86, 0x65, 0xb9, 0x66, 0x58, 0x8a,
        0xb0, 0x05, 0x5d, 0x2e, 0x49, 0x1a, 0x96, 0x26, 0xd5, 0x5e, 0x7e, 0xa4, 0x3c, 0x51,
        0x4d, 0xc7, 0xff, 0x15, 0xaf, 0xce, 0x03, 0xe4, 0x65, 0x0a, 0x1a, 0xc5, 0xd1, 0x90,
        0x6d, 0x82, 0xd9, 0xb9, 0x6f, 0x4d, 0xee, 0x7a, 0x60, 0xa6, 0x54, 0xd1, 0xce, 0xce,
        0x42, 0xc2, 0x98, 0x62, 0x62, 0x46, 0x44, 0x01]
    else
      #v[0x32, 0x50, 0x9e, 0xed, 0x79, 0x9a, 0x97, 0x0d, 0x52, 0xb2, 0xa4, 0xe1, 0x71, 0x95,
        0x47, 0x59, 0x47, 0x13, 0x41, 0xde, 0x4f, 0x0b, 0x18, 0xe1, 0x23, 0xe8, 0x24, 0x2a,
        0xad, 0x51, 0x2f, 0x04, 0xed, 0x3d, 0xe1, 0x82, 0x61, 0xd2, 0x78, 0x64, 0xdf, 0x5b,
        0xf8, 0xdb, 0x40, 0xeb, 0x6e, 0x6f, 0x62, 0xa8, 0xdc, 0x4e, 0x4f, 0x66, 0x6e, 0x03,
        0x93, 0x11, 0xea, 0xa1, 0xdf, 0x39, 0x61, 0x02]

/-- The sample address is that of the sample key. -/
theorem decode_sample_address :
    decodeAddress sampleSha sampleBase32 sampleAddress = .ok sampleKey := by
  have hchecksum : checksum sampleSha sampleKey = [0xe9, 0xd1, 0xb2, 0x59] := by decide
  have haddress : encodeAddress sampleSha sampleBase32 sampleKey = sampleAddress := rfl
  rw [← haddress]
  refine decode_encode_address ?_
  rw [haddress, hchecksum]
  simp [sampleBase32]

/-- `transaction_round_trip` for the sample payments. -/
theorem sample_payments_round_trip :
    (∃ rawTxn,
      buildPaymentTransactionWithAmount format sampleSha sampleBase32 sampleAddress sampleAddress
        5 sampleParams = .ok rawTxn ∧
      Encodes format rawTxn (amountFields 5 sampleParams sampleKey sampleKey) ∧
      Signs format sampleSigningKey rawTxn (signTransaction format rawTxn sampleSigningKey)
        (amountFields 5 sampleParams sampleKey sampleKey)) ∧
    ∃ rawTxn,
      buildPaymentTransaction format sampleSha sampleBase32 sampleAddress sampleAddress
        (Utf8.bytes "hello") sampleParams = .ok rawTxn ∧
      Encodes format rawTxn (noteFields (Utf8.bytes "hello") sampleParams sampleKey sampleKey) ∧
      Signs format sampleSigningKey rawTxn (signTransaction format rawTxn sampleSigningKey)
        (noteFields (Utf8.bytes "hello") sampleParams sampleKey sampleKey) :=
  transaction_round_trip format sampleSha sampleBase32 sampleSigningKey decode_sample_address
    decode_sample_address 5 (Utf8.bytes "hello") sampleParams
    (format_signed_amount _ _ _ _ (by decide))
    (format_signed_note _ _ _ (by decide) (by decide))

/-- `canonical_iff` for the sample payments. -/
theorem sample_payments_canonical_iff :
    (∃ rawTxn,
      buildPaymentTransactionWithAmount format sampleSha sampleBase32 sampleAddress sampleAddress
        5 sampleParams = .ok rawTxn ∧
      (Canonical format rawTxn ↔ NoneZero sampleParams sampleKey sampleKey)) ∧
    ∃ rawTxn,
      buildPaymentTransaction format sampleSha sampleBase32 sampleAddress sampleAddress
        (Utf8.bytes "hello") sampleParams = .ok rawTxn ∧
      (Canonical format rawTxn ↔
        NoneZero sampleParams sampleKey sampleKey ∧ Utf8.bytes "hello" ≠ []) :=
  canonical_iff format sampleSha sampleBase32 decode_sample_address decode_sample_address 5
    (Utf8.bytes "hello") sampleParams
    (format_signed_amount sampleSigningKey _ _ _ (by decide)).fields
    (format_signed_note sampleSigningKey _ _ (by decide) (by decide)).fields
    format_writes_shortest

/-- A payment before the first round of a network, and one with an empty note. -/
theorem first_round_not_canonical :
    (∃ rawTxn,
      buildPaymentTransactionWithAmount format sampleSha sampleBase32 sampleAddress sampleAddress
        5 { sampleParams with firstValid := 0 } = .ok rawTxn ∧ ¬ Canonical format rawTxn) ∧
    ∃ rawTxn,
      buildPaymentTransaction format sampleSha sampleBase32 sampleAddress sampleAddress []
        sampleParams = .ok rawTxn ∧ ¬ Canonical format rawTxn := by
  constructor
  · refine ⟨_, build_with_amount_eq decode_sample_address decode_sample_address _ _, ?_⟩
    rw [canonical_encode_iff (format_signed_amount sampleSigningKey _ _ _ (by decide)).fields
      (amount_fields_ascending _ _ _ _) format_writes_shortest, amount_fields_nonzero_iff]
    exact fun h => h.firstValid rfl
  · refine ⟨_, build_payment_eq decode_sample_address decode_sample_address _ _, ?_⟩
    rw [canonical_encode_iff
      (format_signed_note sampleSigningKey _ _ (by decide) (by decide)).fields
      (note_fields_ascending _ _ _ _) format_writes_shortest, note_fields_nonzero_iff]
    exact fun h => h.2 rfl

end CorvidNano.Agent.Transaction
