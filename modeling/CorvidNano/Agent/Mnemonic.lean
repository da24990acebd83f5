import CorvidNano.A2a.Request
import CorvidNano.Agent.Address
import CorvidNano.Agent.Wordlist
import CorvidNano.Library.BitGroups
import CorvidNano.Library.LittleEndian

/-!
# Mnemonics

`seed_to_mnemonic` and `mnemonic_to_seed` in `wallet.rs`. The 256 bits of a seed, the most
significant bit of each byte first, are cut into 24 groups of eleven bits, of which the last is
filled up with eight zeros. A 25th word is a checksum of the seed. SHA-512/256 is a parameter.

`mnemonic_codec_iff` says for which accepted phrases encoding gives back the phrase: the eight
bits of padding are not looked at. `compatible_iff` says for which seeds the phrase is the one
that the Algorand standard defines, which reads the seed as a little-endian number.
-/

namespace CorvidNano.Agent.Mnemonic

open A2a BitGroups Wordlist
open Address (Sha512_256)

/-- A seed of 32 bytes. -/
abbrev Seed := Vector UInt8 32

/-- The bytes as numbers. -/
def numbers (bytes : List UInt8) : List Nat := bytes.map UInt8.toNat

/-- `bytes_to_11bit`. -/
def bytesTo11bit (data : List UInt8) : List Nat := regroupPadded 32 8 11 (numbers data)

/-- `bits_to_bytes`. -/
def bitsToBytes (indices : List Nat) : Except String Seed :=
  let output := (regroup 32 11 8 indices).output.map UInt8.ofNat
  if h : output.length < 32 then
    .error ("Failed to reconstruct seed: got " ++ toString output.length ++
      " bytes, expected 32")
  else .ok ⟨(output.take 32).toArray, by simpa using h⟩

/-- The checksum of both directions: the first eleven bits of the digest. -/
def checksum (hash : Vector UInt8 32) : Nat :=
  (hash[0].toNat <<< 3) ||| (hash[1].toNat >>> 5)

/-- The words at some indices. An index outside the list panics. -/
def wordsAt (indices : List Nat) : Option (List (List Char)) :=
  indices.mapM fun index => words[index]?

/-- Words with a space between them. -/
def joinWords (phraseWords : List (List Char)) : List Char := [' '].intercalate phraseWords

variable (sha : Sha512_256)

/-- `seed_to_mnemonic`. -/
def seedToMnemonic (seed : Seed) : Option (List Char) :=
  let indices := bytesTo11bit seed.toList ++ [checksum (sha.digest seed.toList)]
  (wordsAt indices).map joinWords

/-- The loop of `mnemonic_to_seed` over the words. -/
def wordIndices (position : Nat) : List (List Char) → Except String (List Nat)
  | [] => .ok []
  | word :: rest =>
      match wordIndex word with
      | none =>
          .error ("Unknown word at position " ++ toString (position + 1) ++ ": \"" ++
            String.ofList word ++ "\"")
      | some index => do
          let indices ← wordIndices (position + 1) rest
          .ok (index :: indices)

/-- `mnemonic_to_seed`. -/
def mnemonicToSeed (mnemonic : List Char) : Except String Seed :=
  let mnemonicWords := splitWhitespace mnemonic
  if mnemonicWords.length ≠ 25 then
    .error ("Mnemonic must be 25 words (got " ++ toString mnemonicWords.length ++ ")")
  else do
    let indices ← wordIndices 0 mnemonicWords
    let seed ← bitsToBytes (indices.take 24)
    if indices[24]? ≠ some (checksum (sha.digest seed.toList)) then
      .error "Mnemonic checksum mismatch — the phrase may be incorrect"
    else .ok seed

/-- The 24th word of a phrase has an index that is a multiple of 256, so that the eight bits of
padding are zero. -/
def EndsOnByte (phrase : List Char) : Prop :=
  ((splitWhitespace phrase)[23]?.bind wordIndex).map (· % 256) = some 0

/-! ## Words -/

/-- The words are listed at the indices. -/
def Spells (indices : List Nat) (found : List (List Char)) : Prop :=
  List.Forall₂ (fun index word => words[index]? = some word) indices found

/-- The words at some indices are those that are listed there. -/
theorem words_at_eq_some {indices : List Nat} {found : List (List Char)} :
    wordsAt indices = some found ↔ Spells indices found := by
  unfold wordsAt Spells
  induction indices generalizing found with
  | nil =>
      rw [List.forall₂_nil_left_iff]
      exact ⟨fun h => (Option.some.inj h).symm, fun h => congrArg some h.symm⟩
  | cons index rest ih =>
      rw [List.mapM_cons, List.forall₂_cons_left_iff]
      simp only [Option.bind_eq_bind, Option.bind_eq_some_iff, Option.pure_def,
        Option.some.injEq, ih]
      constructor
      · rintro ⟨word, hword, others, hothers, rfl⟩
        exact ⟨word, others, hword, hothers, rfl⟩
      · rintro ⟨word, others, hword, hothers, rfl⟩
        exact ⟨word, hword, others, hothers, rfl⟩

/-- The indices of words are those at which they are listed. -/
theorem word_indices_eq_ok {position : Nat} {found : List (List Char)} {indices : List Nat} :
    wordIndices position found = .ok indices ↔ Spells indices found := by
  unfold Spells
  induction found generalizing position indices with
  | nil =>
      rw [List.forall₂_nil_right_iff]
      exact ⟨fun h => (Except.ok.inj h).symm, fun h => congrArg Except.ok h.symm⟩
  | cons word others ih =>
      rw [List.forall₂_cons_right_iff]
      unfold wordIndices
      cases hword : wordIndex word with
      | none =>
          refine iff_of_false (fun h => nomatch h) ?_
          rintro ⟨index, rest, hlisted, _⟩
          rw [word_index_eq_some.mpr hlisted] at hword
          cases hword
      | some index =>
          have hlisted := word_index_eq_some.mp hword
          constructor
          · intro h
            cases hrest : wordIndices (position + 1) others with
            | error error =>
                rw [hrest] at h
                cases h
            | ok rest =>
                rw [hrest] at h
                cases h
                exact ⟨index, rest, hlisted, ih.mp hrest, rfl⟩
          · rintro ⟨other, rest, hother, hrest, rfl⟩
            have hsame : index = other :=
              Option.some.inj (hword.symm.trans (word_index_eq_some.mpr hother))
            dsimp only
            rw [ih.mpr hrest, hsame]
            rfl

/-- The indices are determined by the words. -/
theorem Spells.indices_unique {first second : List Nat} {found : List (List Char)}
    (hfirst : Spells first found) (hsecond : Spells second found) : first = second := by
  have hfirst : wordIndices 0 found = .ok first := word_indices_eq_ok.mpr hfirst
  exact Except.ok.inj (hfirst.symm.trans (word_indices_eq_ok.mpr hsecond))

/-- Every index of eleven bits has a word. -/
theorem exists_spells {indices : List Nat} (h : ∀ index ∈ indices, index < 2 ^ 11) :
    ∃ found, Spells indices found := by
  induction indices with
  | nil => exact ⟨[], .nil⟩
  | cons index rest ih =>
      rw [List.forall_mem_cons] at h
      obtain ⟨found, hfound⟩ := ih h.2
      have hlt : index < words.length := by
        rw [length_words]
        exact h.1
      exact ⟨words[index] :: found, .cons (List.getElem?_eq_getElem hlt) hfound⟩

/-- Characters of words are not white space. -/
theorem not_white_space_of_mem {word : List Char} (h : word ∈ words) {c : Char} (hc : c ∈ word) :
    Host.Signature.isWhiteSpace c = false := by
  obtain ⟨hlow, hhigh⟩ := (letters_of_mem h).2 c hc
  simp only [Host.Signature.isWhiteSpace, List.contains_cons, List.contains_nil,
    Bool.or_eq_false_iff, Bool.and_eq_false_iff, decide_eq_false_iff_not, beq_eq_false_iff_ne,
    and_true]
  omega

/-- Words with spaces between them are split into these words. -/
theorem split_join_words {found : List (List Char)} (h : ∀ word ∈ found, word ∈ words) :
    splitWhitespace (joinWords found) = found := by
  unfold splitWhitespace joinWords
  induction found with
  | nil => rfl
  | cons word rest ih =>
      rw [List.forall_mem_cons] at h
      obtain ⟨hword, hrest⟩ := h
      have hplain : ∀ c ∈ word, Host.Signature.isWhiteSpace c = false :=
        fun c hc => not_white_space_of_mem hword hc
      have hne : decide (word ≠ []) = true := decide_eq_true (letters_of_mem hword).1
      cases rest with
      | nil =>
          rw [List.intercalate_singleton, List.splitOnP_eq_singleton hplain]
          exact List.filter_cons_of_pos hne
      | cons next others =>
          have hjoin : [' '].intercalate (word :: next :: others) =
              word ++ ' ' :: [' '].intercalate (next :: others) := by
            simp [List.intercalate]
          rw [hjoin, List.splitOnP_append_cons_of_forall_mem hplain ' ' (by decide),
            List.filter_cons, if_pos hne, ih hrest]

/-- The words of a phrase that `seed_to_mnemonic` or the standard makes of indices. -/
theorem Spells.split_join {indices : List Nat} {found : List (List Char)}
    (h : Spells indices found) : splitWhitespace (joinWords found) = found := by
  refine split_join_words fun word hword => ?_
  induction h with
  | nil => cases hword
  | cons hlisted _ ih =>
      rcases List.mem_cons.mp hword with rfl | hmem
      · exact List.mem_of_getElem? hlisted
      · exact ih hmem

/-! ## Bits -/

/-- Bytes are numbers of eight bits. -/
theorem numbers_lt (bytes : List UInt8) : ∀ value ∈ numbers bytes, value < 2 ^ 8 := by
  intro value hmem
  obtain ⟨byte, _, rfl⟩ := List.mem_map.mp hmem
  exact byte.toNat_lt

/-- Numbers of eight bits are the numbers of their bytes. -/
theorem numbers_map_of_nat {values : List Nat} (h : ∀ value ∈ values, value < 2 ^ 8) :
    numbers (values.map UInt8.ofNat) = values := by
  unfold numbers
  rw [List.map_map, List.map_congr_left, List.map_id]
  intro value hmem
  exact UInt8.toNat_ofNat_of_lt' (h value hmem)

/-- A seed has 256 bits. -/
theorem length_stream_seed (seed : Seed) : (stream 8 (numbers seed.toList)).length = 256 := by
  simp [numbers]

/-- A seed is determined by its bits. -/
theorem seed_ext {first second : Seed}
    (h : stream 8 (numbers first.toList) = stream 8 (numbers second.toList)) : first = second := by
  have hnumbers := stream_injective (by decide) (numbers_lt _) (numbers_lt _) h
  have hbytes : first.toList = second.toList :=
    List.map_injective_iff.mpr (fun _ _ h => UInt8.toNat_inj.mp h) hnumbers
  exact Vector.toList_inj.mp hbytes

/-- The bits of a seed and eight zeros are cut into 24 groups. -/
theorem bytes_to_11bit_stream (seed : Seed) :
    stream 11 (bytesTo11bit seed.toList) =
        stream 8 (numbers seed.toList) ++ List.replicate 8 false ∧
      (bytesTo11bit seed.toList).length = 24 ∧
      ∀ index ∈ bytesTo11bit seed.toList, index < 2 ^ 11 := by
  obtain ⟨padding, hpadding, hstream, hgroups⟩ :=
    regroup_padded_stream 32 8 11 (by decide) (by decide) (by decide) (numbers_lt seed.toList)
  have hlength := congrArg List.length hstream
  rw [List.length_append, length_stream, length_stream_seed, List.length_replicate] at hlength
  obtain rfl : padding = 8 := by omega
  exact ⟨hstream, by unfold bytesTo11bit; omega, hgroups⟩

/-- Of the bits of 24 indices the first 256 become the seed. -/
theorem bits_to_bytes_stream {indices : List Nat} (hlength : indices.length = 24)
    (hindices : ∀ index ∈ indices, index < 2 ^ 11) :
    ∃ seed, bitsToBytes indices = .ok seed ∧
      stream 8 (numbers seed.toList) = (stream 11 indices).take 256 := by
  have h := regroup_stream 32 11 8 (by decide) (by decide) hindices
  have hbits := congrArg List.length h.stream_eq
  rw [List.length_append, length_stream, length_bits, length_stream, hlength] at hbits
  have hrest := h.numBits_lt
  have hgroups : (regroup 32 11 8 indices).output.length = 33 := by omega
  have hempty : (regroup 32 11 8 indices).numBits = 0 := by omega
  unfold bitsToBytes
  dsimp only
  rw [dif_neg (by simp [hgroups])]
  refine ⟨_, rfl, ?_⟩
  have hstream := h.stream_eq
  rw [hempty, bits, List.append_nil] at hstream
  have hnumbers : numbers (((regroup 32 11 8 indices).output.map UInt8.ofNat).take 32) =
      (regroup 32 11 8 indices).output.take 32 := by
    rw [numbers, List.map_take]
    exact congrArg (List.take 32) (numbers_map_of_nat h.output_lt)
  show stream 8 (numbers (((regroup 32 11 8 indices).output.map UInt8.ofNat).take 32)) = _
  rw [hnumbers, stream_take, hstream]

/-- Decoding the indices of a seed gives back the seed. -/
theorem bits_to_bytes_of_seed (seed : Seed) :
    bitsToBytes (bytesTo11bit seed.toList) = .ok seed := by
  obtain ⟨hstream, hlength, hlt⟩ := bytes_to_11bit_stream seed
  obtain ⟨decoded, hdecoded, hbits⟩ := bits_to_bytes_stream hlength hlt
  rw [hstream, List.take_left' (length_stream_seed seed)] at hbits
  rw [hdecoded, seed_ext hbits]

/-- Encoding the seed of some indices gives back the indices if and only if the last eight bits
are zero. -/
theorem bytes_to_11bit_of_bits {indices : List Nat} {seed : Seed} (hlength : indices.length = 24)
    (hindices : ∀ index ∈ indices, index < 2 ^ 11) (hseed : bitsToBytes indices = .ok seed) :
    bytesTo11bit seed.toList = indices ↔
      (stream 11 indices).drop 256 = List.replicate 8 false := by
  obtain ⟨decoded, hdecoded, hbits⟩ := bits_to_bytes_stream hlength hindices
  obtain rfl : decoded = seed := Except.ok.inj (hdecoded.symm.trans hseed)
  obtain ⟨hstream, _, hlt⟩ := bytes_to_11bit_stream decoded
  rw [hbits] at hstream
  constructor
  · intro hsame
    rw [hsame] at hstream
    have hsplit := List.take_append_drop 256 (stream 11 indices)
    exact List.append_cancel_left (hsplit.trans hstream)
  · intro hzeros
    rw [← hzeros, List.take_append_drop] at hstream
    exact stream_injective (by decide) hlt hindices hstream

/-- The last eight bits of 24 indices are the lowest bits of the last index. -/
theorem stream_drop_eq_zeros_iff {indices : List Nat} {last : Nat} (hlength : indices.length = 24)
    (hlast : indices[23]? = some last) :
    (stream 11 indices).drop 256 = List.replicate 8 false ↔ last % 256 = 0 := by
  have hsplit : indices = indices.take 23 ++ [last] := by
    obtain ⟨hlt, rfl⟩ := List.getElem?_eq_some_iff.mp hlast
    rw [List.take_append_getElem, List.take_of_length_le (by omega)]
  have hlow : (stream 11 indices).drop 256 = bits 8 last := by
    rw [hsplit, stream_append, List.drop_append, length_stream, List.length_take, hlength]
    have hshort : (stream 11 (indices.take 23)).length ≤ 256 := by simp [hlength]
    have hbits : stream 11 [last] = bits 3 (last >>> 8) ++ bits 8 last := by
      rw [← bits_add]
      exact List.append_nil _
    rw [List.drop_eq_nil_of_le hshort, hbits]
    rfl
  have hzeros : List.replicate 8 false = bits 8 0 := by decide
  rw [hlow, hzeros, ← bits_mod (Nat.le_refl 8)]
  constructor
  · intro h
    exact bits_injective (Nat.mod_lt _ (by decide)) (by decide) h
  · intro h
    exact congrArg (bits 8) h

/-! ## Phrases -/

/-- The checksum has eleven bits. -/
theorem checksum_lt (hash : Vector UInt8 32) : checksum hash < 2 ^ 11 := by
  have hfirst := hash[0].toNat_lt
  have hsecond := hash[1].toNat_lt
  unfold checksum
  refine Nat.or_lt_two_pow ?_ ?_
  · rw [Nat.shiftLeft_eq]
    omega
  · rw [Nat.shiftRight_eq_div_pow]
    omega

/-- A seed becomes the words at its indices and its checksum. -/
theorem seed_to_mnemonic_eq_some {sha : Sha512_256} {seed : Seed} {phrase : List Char} :
    seedToMnemonic sha seed = some phrase ↔
      ∃ found, Spells (bytesTo11bit seed.toList ++ [checksum (sha.digest seed.toList)]) found ∧
        joinWords found = phrase := by
  unfold seedToMnemonic
  simp only [Option.map_eq_some_iff, words_at_eq_some]

/-- Every seed has a phrase. -/
theorem exists_mnemonic (sha : Sha512_256) (seed : Seed) :
    ∃ phrase, seedToMnemonic sha seed = some phrase := by
  obtain ⟨_, _, hlt⟩ := bytes_to_11bit_stream seed
  have hall : ∀ index ∈ bytesTo11bit seed.toList ++ [checksum (sha.digest seed.toList)],
      index < 2 ^ 11 := by
    intro index hmem
    rcases List.mem_append.mp hmem with hmem | hmem
    · exact hlt index hmem
    · rw [List.mem_singleton.mp hmem]
      exact checksum_lt _
  obtain ⟨found, hfound⟩ := exists_spells hall
  exact ⟨joinWords found, seed_to_mnemonic_eq_some.mpr ⟨found, hfound, rfl⟩⟩

/-- The indices of words have eleven bits. -/
theorem Spells.lt {indices : List Nat} {found : List (List Char)} (h : Spells indices found) :
    ∀ index ∈ indices, index < 2 ^ 11 := by
  induction h with
  | nil => simp
  | cons hlisted _ ih =>
      rw [List.forall_mem_cons]
      refine ⟨?_, ih⟩
      have hlt := (List.getElem?_eq_some_iff.mp hlisted).1
      rwa [length_words] at hlt

/-- A phrase is accepted if and only if its words are those of 24 indices, which become the seed,
and of the seed's checksum. -/
theorem mnemonic_to_seed_eq_ok {sha : Sha512_256} {phrase : List Char} {seed : Seed} :
    mnemonicToSeed sha phrase = .ok seed ↔
      ∃ indices, indices.length = 24 ∧ bitsToBytes indices = .ok seed ∧
        Spells (indices ++ [checksum (sha.digest seed.toList)]) (splitWhitespace phrase) := by
  unfold mnemonicToSeed
  dsimp only
  constructor
  · intro h
    split at h
    · cases h
    · rename_i hcount
      rw [not_not] at hcount
      cases hwords : wordIndices 0 (splitWhitespace phrase) with
      | error error =>
          rw [hwords] at h
          cases h
      | ok indices =>
          have hspells := word_indices_eq_ok.mp hwords
          have hlength : indices.length = 25 := hspells.length_eq.trans hcount
          cases hdecoded : bitsToBytes (indices.take 24) with
          | error error =>
              simp only [hwords, hdecoded, bind, Except.bind] at h
              cases h
          | ok decoded =>
              simp only [hwords, hdecoded, bind, Except.bind] at h
              split at h
              · cases h
              · rename_i hchecksum
                rw [not_not] at hchecksum
                cases h
                refine ⟨indices.take 24, by simp [hlength], hdecoded, ?_⟩
                obtain ⟨hlt, hlast⟩ := List.getElem?_eq_some_iff.mp hchecksum
                rw [← hlast, List.take_append_getElem, List.take_of_length_le (by omega)]
                exact hspells
  · rintro ⟨indices, hlength, hdecoded, hspells⟩
    have hcount := hspells.length_eq
    rw [List.length_append, hlength] at hcount
    rw [if_neg (by simp [← hcount]), word_indices_eq_ok.mpr hspells]
    have hseed : bitsToBytes ((indices ++ [checksum (sha.digest seed.toList)]).take 24) =
        .ok seed := by
      rw [List.take_left' hlength, hdecoded]
    have hlast : (indices ++ [checksum (sha.digest seed.toList)])[24]? =
        some (checksum (sha.digest seed.toList)) := by
      rw [List.getElem?_append_right (by omega), hlength]
      rfl
    simp only [bind, Except.bind, hseed, hlast, ne_eq, not_true, if_false]

/-! ## The codec -/

/-- The phrase of a seed is accepted and gives back the seed. -/
theorem mnemonic_round_trip (sha : Sha512_256) (seed : Seed) :
    ∃ phrase, seedToMnemonic sha seed = some phrase ∧ mnemonicToSeed sha phrase = .ok seed := by
  obtain ⟨phrase, hphrase⟩ := exists_mnemonic sha seed
  obtain ⟨found, hspells, rfl⟩ := seed_to_mnemonic_eq_some.mp hphrase
  obtain ⟨_, hlength, _⟩ := bytes_to_11bit_stream seed
  refine ⟨_, hphrase, mnemonic_to_seed_eq_ok.mpr ⟨_, hlength, bits_to_bytes_of_seed seed, ?_⟩⟩
  rw [hspells.split_join]
  exact hspells

/-- The index of a word of a phrase is the index that it was made of. -/
theorem Spells.index_at {indices : List Nat} {found : List (List Char)} (h : Spells indices found)
    (i : Nat) : found[i]?.bind wordIndex = indices[i]? := by
  induction h generalizing i with
  | nil => simp
  | cons hlisted _ ih =>
      cases i with
      | zero => exact word_index_eq_some.mpr hlisted
      | succ i => exact ih i

/-- Encoding the seed of an accepted phrase gives back its words if and only if the padding of
the 24th word is zero. -/
theorem mnemonic_words_iff {sha : Sha512_256} {phrase : List Char} {seed : Seed}
    (h : mnemonicToSeed sha phrase = .ok seed) :
    seedToMnemonic sha seed = some (joinWords (splitWhitespace phrase)) ↔ EndsOnByte phrase := by
  obtain ⟨indices, hlength, hdecoded, hspells⟩ := mnemonic_to_seed_eq_ok.mp h
  have hindices : ∀ index ∈ indices, index < 2 ^ 11 := fun index hmem =>
    hspells.lt index (List.mem_append_left _ hmem)
  have hlt : 23 < indices.length := by omega
  have hlast : indices[23]? = some indices[23] := List.getElem?_eq_getElem hlt
  have hpadding : EndsOnByte phrase ↔ indices[23] % 256 = 0 := by
    unfold EndsOnByte
    rw [hspells.index_at, List.getElem?_append_left hlt, hlast]
    simp
  have hsame : seedToMnemonic sha seed = some (joinWords (splitWhitespace phrase)) ↔
      bytesTo11bit seed.toList = indices := by
    rw [seed_to_mnemonic_eq_some]
    constructor
    · rintro ⟨found, hfound, hjoin⟩
      have hwords : found = splitWhitespace phrase := by
        rw [← hfound.split_join, hjoin, hspells.split_join]
      rw [hwords] at hfound
      exact List.append_cancel_right (hfound.indices_unique hspells)
    · rintro rfl
      exact ⟨_, hspells, rfl⟩
  rw [hsame, hpadding, bytes_to_11bit_of_bits hlength hindices hdecoded,
    stream_drop_eq_zeros_iff hlength hlast]

/-- The phrase of every seed gives back the seed, and the seed of an accepted phrase gives back
the words of the phrase if and only if the padding of its 24th word is zero. -/
theorem mnemonic_codec_iff (sha : Sha512_256) :
    (∀ seed, ∃ phrase, seedToMnemonic sha seed = some phrase ∧
        mnemonicToSeed sha phrase = .ok seed) ∧
      ∀ phrase seed, mnemonicToSeed sha phrase = .ok seed →
        (seedToMnemonic sha seed = some (joinWords (splitWhitespace phrase)) ↔
          EndsOnByte phrase) :=
  ⟨mnemonic_round_trip sha, fun _ _ h => mnemonic_words_iff h⟩

/-- The seed whose first byte is given and whose others are zero. -/
def seedOf (byte : UInt8) : Seed := ⟨(byte :: List.replicate 31 0).toArray, rfl⟩

/-- SHA-512/256 on the seeds that are used here. -/
def sampleSha : Sha512_256 where
  digest bytes :=
    if bytes = (seedOf 1).toList then
      #v[0x66, 0x0f, 0xb7, 0x7d, 0xcd, 0xb5, 0x34, 0x9e, 0xb7, 0x63, 0xf5, 0xf0,
        0x47, 0x2e, 0x8c, 0xd1, 0x22, 0x66, 0x67, 0x30, 0xa9, 0xdc, 0x58, 0xa2,
        0x92, 0x7b, 0x20, 0x88, 0xa2, 0x6d, 0xf1, 0x39]
    else
      #v[0xaf, 0x13, 0xc0, 0x48, 0x99, 0x12, 0x24, 0xa5, 0xe4, 0xc6, 0x64, 0x44,
        0x6b, 0x68, 0x8a, 0xaf, 0x48, 0xfb, 0x54, 0x56, 0xdb, 0x36, 0x29, 0x60,
        0x1b, 0x00, 0xec, 0x16, 0x0c, 0x74, 0xe5, 0x54]

/-- The phrase of 23 times `abandon` with two further words. -/
def abandonPhrase (last check : String) : List Char :=
  joinWords (List.replicate 23 "abandon".toList ++ [last.toList] ++ [check.toList])

/-- Such a phrase has the indices of its words. -/
theorem spells_abandon {last check : String} (lastIndex checkIndex : Nat)
    (hlast : words[lastIndex]? = some last.toList)
    (hcheck : words[checkIndex]? = some check.toList) :
    Spells (List.replicate 23 0 ++ [lastIndex] ++ [checkIndex])
      (splitWhitespace (abandonPhrase last check)) := by
  have hspells : Spells (List.replicate 23 0 ++ [lastIndex] ++ [checkIndex])
      (List.replicate 23 "abandon".toList ++ [last.toList] ++ [check.toList]) := by
    have hfirst : ∀ count, Spells (List.replicate count 0)
        (List.replicate count "abandon".toList) := by
      intro count
      induction count with
      | zero => exact .nil
      | succ count ih => exact .cons rfl ih
    exact List.rel_append (List.rel_append (hfirst 23) (.cons hlast .nil)) (.cons hcheck .nil)
  rw [abandonPhrase, hspells.split_join]
  exact hspells

/-- The phrases `abandon … abandon pyramid` and `abandon … ability pyramid` are both accepted for
the zero seed. -/
theorem abandon_phrases_accepted :
    mnemonicToSeed sampleSha (abandonPhrase "abandon" "pyramid") = .ok (seedOf 0) ∧
      mnemonicToSeed sampleSha (abandonPhrase "ability" "pyramid") = .ok (seedOf 0) := by
  have hcheck : words[checksum (sampleSha.digest (seedOf 0).toList)]? = some "pyramid".toList := by
    decide +kernel
  constructor
  · exact mnemonic_to_seed_eq_ok.mpr ⟨List.replicate 23 0 ++ [0], rfl, by decide +kernel,
      spells_abandon _ _ rfl hcheck⟩
  · exact mnemonic_to_seed_eq_ok.mpr ⟨List.replicate 23 0 ++ [1], rfl, by decide +kernel,
      spells_abandon _ _ rfl hcheck⟩

/-- The padding of the first phrase is zero, that of the second is one. -/
theorem abandon_phrases_end :
    EndsOnByte (abandonPhrase "abandon" "pyramid") ∧
      ¬ EndsOnByte (abandonPhrase "ability" "pyramid") := by
  have hcheck : words[1400]? = some "pyramid".toList := by decide +kernel
  have habandon : Spells _ (splitWhitespace (abandonPhrase "abandon" "pyramid")) :=
    spells_abandon 0 1400 rfl hcheck
  have hability : Spells _ (splitWhitespace (abandonPhrase "ability" "pyramid")) :=
    spells_abandon 1 1400 rfl hcheck
  unfold EndsOnByte
  rw [habandon.index_at, hability.index_at]
  exact ⟨rfl, by decide⟩

/-- `mnemonic_codec_iff` for the phrase of the zero seed. -/
theorem zero_seed_codec :
    seedToMnemonic sampleSha (seedOf 0) =
      some (joinWords (splitWhitespace (abandonPhrase "abandon" "pyramid"))) :=
  ((mnemonic_codec_iff sampleSha).2 _ _ abandon_phrases_accepted.1).mpr abandon_phrases_end.1

/-- The second phrase restores the wallet of the first. -/
theorem ability_phrase_not_restored :
    mnemonicToSeed sampleSha (abandonPhrase "ability" "pyramid") = .ok (seedOf 0) ∧
      seedToMnemonic sampleSha (seedOf 0) ≠
        some (joinWords (splitWhitespace (abandonPhrase "ability" "pyramid"))) := by
  refine ⟨abandon_phrases_accepted.2, fun hsame => ?_⟩
  exact abandon_phrases_end.2 ((mnemonic_words_iff abandon_phrases_accepted.2).mp hsame)

/-! ## The standard -/

/-- The indices that the Algorand standard gives to a seed: the digits of the seed as a
little-endian number to the base `2 ^ 11`, the least significant digit first. -/
def algorandIndices (seed : Seed) : List Nat :=
  (List.range 24).map fun k => LittleEndian.decode seed.toList / 2 ^ (11 * k) % 2 ^ 11

/-- The checksum of the standard: the first eleven bits of the digest as a little-endian
number. -/
def algorandChecksum (hash : Vector UInt8 32) : Nat :=
  LittleEndian.decode hash.toList % 2 ^ 11

/-- The phrase that the standard gives to a seed. -/
def algorandMnemonic (sha : Sha512_256) (seed : Seed) : Option (List Char) :=
  (wordsAt (algorandIndices seed ++ [algorandChecksum (sha.digest seed.toList)])).map joinWords

/-- The program gives a seed the phrase of the standard, and reads that phrase as the seed. -/
def Compatible (sha : Sha512_256) (seed : Seed) : Prop :=
  ∃ phrase, algorandMnemonic sha seed = some phrase ∧ seedToMnemonic sha seed = some phrase ∧
    mnemonicToSeed sha phrase = .ok seed

/-- Bit `i` of some bytes, the most significant bit of each byte first. -/
def bitMsb (bytes : List UInt8) (i : Nat) : Bool :=
  (bytes[i / 8]?).any fun byte => byte.toNat.testBit (7 - i % 8)

/-- Bit `i` of some bytes, the least significant bit of each byte first. -/
def bitLsb (bytes : List UInt8) (i : Nat) : Bool :=
  (bytes[i / 8]?).any fun byte => byte.toNat.testBit (i % 8)

/-- The first groups of eleven bits of some bytes have the same value whether bits and groups are
read from the most or from the least significant end. Bits past the end are zero. -/
def ReadsAlike (groups : Nat) (bytes : List UInt8) : Prop :=
  ∀ k < groups, ∀ j < 11, bitMsb bytes (k * 11 + (10 - j)) = bitLsb bytes (11 * k + j)

/-- A bit of the stream of some bytes and zeros. -/
theorem bit_of_stream {bytes : List UInt8} {zeros m : Nat} {bit : Bool}
    (h : (stream 8 (numbers bytes) ++ List.replicate zeros false)[m]? = some bit) :
    bit = bitMsb bytes m := by
  unfold bitMsb
  have hposition : m / 8 * 8 + m % 8 = m := Nat.div_add_mod' m 8
  have hbyte := getElem?_stream 8 (numbers bytes) (m / 8) (Nat.mod_lt m (by decide))
  rw [hposition, numbers, List.getElem?_map] at hbyte
  by_cases hinside : m < (stream 8 (numbers bytes)).length
  · rw [List.getElem?_append_left hinside, numbers, hbyte] at h
    cases hget : bytes[m / 8]? with
    | none =>
        rw [hget] at h
        cases h
    | some byte =>
        rw [hget] at h
        exact (Option.some.inj h).symm
  · rw [List.getElem?_append_right (Nat.le_of_not_lt hinside)] at h
    have hpast : bytes[m / 8]? = none := by
      rw [List.getElem?_eq_none_iff]
      rw [length_stream, numbers, List.length_map] at hinside
      omega
    rw [hpast]
    exact (List.eq_of_mem_replicate (List.mem_of_getElem? h))

/-- A bit of an index of the program. -/
theorem test_bit_index (seed : Seed) {k j : Nat} (hk : k < (bytesTo11bit seed.toList).length)
    (hj : j < 11) :
    (bytesTo11bit seed.toList)[k].testBit j = bitMsb seed.toList (k * 11 + (10 - j)) := by
  obtain ⟨hstream, _, _⟩ := bytes_to_11bit_stream seed
  have hlt : 10 - j < 11 := by omega
  have hindex := getElem?_stream 11 (bytesTo11bit seed.toList) k hlt
  have hbit : 11 - 1 - (10 - j) = j := by omega
  rw [hstream, List.getElem?_eq_getElem hk, Option.map_some, hbit] at hindex
  exact bit_of_stream hindex

/-- A bit of the checksum of the program. -/
theorem test_bit_checksum (hash : Vector UInt8 32) {j : Nat} (hj : j < 11) :
    (checksum hash).testBit j = bitMsb hash.toList (0 * 11 + (10 - j)) := by
  have hfirst : hash.toList[0]? = some hash[0] := by simp
  have hsecond : hash.toList[1]? = some hash[1] := by simp
  unfold checksum bitMsb
  rw [Nat.testBit_or, Nat.testBit_shiftLeft, Nat.testBit_shiftRight]
  by_cases hhigh : 3 ≤ j
  · have hzero : hash[1].toNat.testBit (5 + j) = false := by
      refine Nat.testBit_lt_two_pow (Nat.lt_of_lt_of_le hash[1].toNat_lt ?_)
      exact Nat.pow_le_pow_right (by decide) (by omega)
    have hbyte : (0 * 11 + (10 - j)) / 8 = 0 := by omega
    have hbit : 7 - (0 * 11 + (10 - j)) % 8 = j - 3 := by omega
    rw [hbyte, hbit, hfirst, hzero]
    simp [hhigh]
  · have hbyte : (0 * 11 + (10 - j)) / 8 = 1 := by omega
    have hbit : 7 - (0 * 11 + (10 - j)) % 8 = 5 + j := by omega
    rw [hbyte, hbit, hsecond]
    simp [hhigh]

/-- A bit of a digit of the standard. -/
theorem test_bit_digit (bytes : List UInt8) (k : Nat) {j : Nat} (hj : j < 11) :
    (LittleEndian.decode bytes / 2 ^ (11 * k) % 2 ^ 11).testBit j = bitLsb bytes (11 * k + j) := by
  rw [Nat.testBit_mod_two_pow, ← Nat.shiftRight_eq_div_pow, Nat.testBit_shiftRight,
    LittleEndian.test_bit_decode, decide_eq_true hj, Bool.true_and]
  rfl

/-- Numbers of eleven bits are equal if and only if their bits are. -/
theorem eq_iff_test_bit {first second : Nat} (hfirst : first < 2 ^ 11) (hsecond : second < 2 ^ 11) :
    first = second ↔ ∀ j < 11, first.testBit j = second.testBit j := by
  rw [← bits_eq_iff]
  exact ⟨fun h => congrArg (bits 11) h, bits_injective hfirst hsecond⟩

/-- The program and the standard give a seed the same indices if and only if the seed reads
alike. -/
theorem indices_eq_iff (seed : Seed) :
    bytesTo11bit seed.toList = algorandIndices seed ↔ ReadsAlike 24 seed.toList := by
  obtain ⟨_, hlength, hlt⟩ := bytes_to_11bit_stream seed
  have hstandard : (algorandIndices seed).length = 24 := by simp [algorandIndices]
  have hindex : ∀ k, ∀ hk : k < (bytesTo11bit seed.toList).length,
      ((bytesTo11bit seed.toList)[k] = LittleEndian.decode seed.toList / 2 ^ (11 * k) % 2 ^ 11 ↔
        ∀ j < 11, bitMsb seed.toList (k * 11 + (10 - j)) = bitLsb seed.toList (11 * k + j)) := by
    intro k hk
    rw [eq_iff_test_bit (hlt _ (List.getElem_mem hk)) (Nat.mod_lt _ (by decide))]
    refine forall₂_congr fun j hj => ?_
    rw [test_bit_index seed hk hj, test_bit_digit _ _ hj]
  constructor
  · intro hsame k hk
    have hbound : k < (bytesTo11bit seed.toList).length := by omega
    refine (hindex k hbound).mp ?_
    simp only [hsame, algorandIndices, List.getElem_map, List.getElem_range]
  · intro halike
    refine List.ext_getElem (hlength.trans hstandard.symm) fun k hk _ => ?_
    rw [(hindex k hk).mpr (halike k (by omega))]
    simp only [algorandIndices, List.getElem_map, List.getElem_range]

/-- The program and the standard give a digest the same checksum if and only if its first eleven
bits read alike. -/
theorem checksum_eq_iff (hash : Vector UInt8 32) :
    checksum hash = algorandChecksum hash ↔ ReadsAlike 1 hash.toList := by
  have hdigit : ∀ j < 11, (algorandChecksum hash).testBit j = bitLsb hash.toList (11 * 0 + j) := by
    intro j hj
    rw [← test_bit_digit hash.toList 0 hj, Nat.mul_zero, Nat.pow_zero, Nat.div_one]
    rfl
  have hlt : algorandChecksum hash < 2 ^ 11 := Nat.mod_lt _ (by decide)
  rw [eq_iff_test_bit (checksum_lt hash) hlt]
  constructor
  · intro hsame k hk j hj
    obtain rfl := Nat.lt_one_iff.mp hk
    rw [← test_bit_checksum hash hj, ← hdigit j hj, hsame j hj]
  · intro halike j hj
    rw [test_bit_checksum hash hj, hdigit j hj, halike 0 (by decide) j hj]

/-- If the program's phrase for a seed is that of the standard, then its indices are. -/
theorem Compatible.indices_eq {sha : Sha512_256} {seed : Seed} (h : Compatible sha seed) :
    bytesTo11bit seed.toList ++ [checksum (sha.digest seed.toList)] =
      algorandIndices seed ++ [algorandChecksum (sha.digest seed.toList)] := by
  obtain ⟨standard, hstandard, hsame, _⟩ := h
  obtain ⟨found, hfound, rfl⟩ := seed_to_mnemonic_eq_some.mp hsame
  obtain ⟨others, hothers, hjoin⟩ := Option.map_eq_some_iff.mp hstandard
  rw [words_at_eq_some] at hothers
  have hwords : others = found := by
    rw [← hothers.split_join, hjoin, hfound.split_join]
  rw [hwords] at hothers
  exact hfound.indices_unique hothers

/-- The program's phrase for a seed is that of the standard, and is read as the seed, if and only
if the seed and the first eleven bits of its digest read alike. -/
theorem compatible_iff (sha : Sha512_256) (seed : Seed) :
    Compatible sha seed ↔
      ReadsAlike 24 seed.toList ∧ ReadsAlike 1 (sha.digest seed.toList).toList := by
  rw [← indices_eq_iff, ← checksum_eq_iff]
  obtain ⟨phrase, hphrase, haccepted⟩ := mnemonic_round_trip sha seed
  constructor
  · intro hcompatible
    obtain ⟨_, hlength, _⟩ := bytes_to_11bit_stream seed
    obtain ⟨hseed, hchecksum⟩ := List.append_inj hcompatible.indices_eq
      (by simp [hlength, algorandIndices])
    exact ⟨hseed, List.singleton_inj.mp hchecksum⟩
  · rintro ⟨hindices, hchecksum⟩
    refine ⟨phrase, ?_, hphrase, haccepted⟩
    rw [← hphrase]
    unfold algorandMnemonic seedToMnemonic
    rw [hindices, hchecksum]

/-- The seed whose first byte is one and whose others are zero has the first word `absurd`, where
the standard has `ability`. -/
theorem seed_one_incompatible : ¬ Compatible sampleSha (seedOf 1) := by
  intro hcompatible
  exact absurd hcompatible.indices_eq (by decide +kernel)

end CorvidNano.Agent.Mnemonic
