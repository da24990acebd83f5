import CorvidNano.Host.Response
import CorvidNano.Host.Storage
import Mathlib.Algebra.Group.Int.Defs

/-!
# Key-value helpers of the bundled plugins

How the plugins under `plugins/` keep their state: the helper that stores a value through
`host_kv_set` and the one that gets it back through `host_kv_get`. `kv_round_trip_iff` says when
a plugin gets back what it stored last. The helpers of `personality` decode the response itself.
Those of the other plugins expect an envelope around it that the host does not write.
-/

namespace CorvidNano.Plugins.KeyValue

open Host Host.LinearMemory Host.Response Host.Storage Host.WasmMem

/-- The serializer of JSON texts. -/
structure SerdeJson where
  toVec : Json → List UInt8
  fromSlice : List UInt8 → Option Json

/-- The serializers that the helpers use: MessagePack to JSON values, MessagePack for the types
of `personality`, and JSON texts. -/
structure Codecs (State : Type) where
  msgpack : Msgpack
  stateToVec : State → Option (List UInt8)
  stateFromSlice : List UInt8 → Option State
  json : SerdeJson

/-- What the formats promise: a value of `personality` is decoded from its encoding, a JSON text
starts with an ASCII character, a MessagePack value that starts with a byte below 128 is the
number of that byte, and an array of MessagePack takes more bytes than it has elements. -/
structure Codecs.Lawful {State : Type} (codecs : Codecs State) : Prop where
  state_from_slice : ∀ {state bytes}, codecs.stateToVec state = some bytes →
    codecs.stateFromSlice bytes = some state
  json_head : ∀ value, ∃ byte rest, codecs.json.toVec value = byte :: rest ∧ byte.toNat < 128
  fixint : ∀ {byte : UInt8} (rest : List UInt8), byte.toNat < 128 →
    codecs.msgpack.fromSlice (byte :: rest) = some (.number byte.toNat 0)
  length_lt : ∀ {bytes value elements}, codecs.msgpack.fromSlice bytes = some value →
    value.get? "value" = some (.array elements) → elements.length < bytes.length

/-- `Value::as_u64`. A number with an exponent is a float. -/
def asU64 : Json → Option Nat
  | .number mantissa 0 =>
      if 0 ≤ mantissa ∧ mantissa < 2 ^ 64 then some mantissa.toNat else none
  | _ => none

/-- The bytes in the envelope that `kv_get_json`, `kv_get_bytes` and `kv_get_str` expect. -/
def envelope (msgpack : Msgpack) (bytes : List UInt8) : Option (List UInt8) :=
  match msgpack.fromSlice bytes with
  | none => none
  | some outer =>
      match outer.get? "value" with
      | some (.array elements) => some ((elements.filterMap asU64).map UInt8.ofNat)
      | _ => none

/-! ## The helpers -/

/-- A plugin's helpers: what the one that stores makes of a value, and what the one that gets
makes of the data of a response. -/
structure Helpers (Value : Type) where
  encode : Value → Option (List UInt8)
  decode : List UInt8 → Option Value

section Plugins

variable {State : Type} (codecs : Codecs State)

/-- `save_config`, `save_persona`, `save_emotion`, `save_history` of `personality`, and what its
loaders make of the data before they fall back to a default. -/
def personality : Helpers State where
  encode := codecs.stateToVec
  decode := codecs.stateFromSlice

/-- `kv_set_json` and `kv_get_json` of `llm-personality`. -/
def llmPersonality : Helpers Json where
  encode value := some (codecs.json.toVec value)
  decode bytes := (envelope codecs.msgpack bytes).bind codecs.json.fromSlice

/-- `kv_set_json` and `kv_get_json` of `coding-companion`. -/
def codingCompanion : Helpers Json where
  encode value := some (codecs.json.toVec value)
  decode bytes := (envelope codecs.msgpack bytes).bind codecs.json.fromSlice

/-- `kv_set_str` and `kv_get_str` of `tts-voice`. -/
def ttsVoice : Helpers String where
  encode value := some (Utf8.bytes value)
  decode bytes :=
    (envelope codecs.msgpack bytes).bind fun raw => String.fromUTF8? ⟨raw.toArray⟩

end Plugins

/-! ## A running plugin -/

/-- The memory of a running plugin, at most 2 GiB of it (the largest tier has 128 MiB), and
its allocator, which finds a block in the memory for a size or returns null. -/
structure Guest where
  memory : List UInt8
  addressable : memory.length ≤ 2 ^ 31
  alloc : Nat → Option (Nat × List UInt8)
  block : ∀ {size ptr after}, alloc size = some (ptr, after) →
    0 < ptr ∧ ptr + size ≤ after.length ∧ after.length ≤ 2 ^ 31

/-- What the host sees of the plugin. -/
def Guest.caller (guest : Guest) : Caller where
  memory := some guest.memory
  alloc := some fun size =>
    (guest.alloc size.toNat).map fun (ptr, after) => (BitVec.ofNat 32 ptr, some after)

/-- A call of the helper that stores. The plugin passes where the key and the encoded value are in
its memory. -/
structure SetCall {Value : Type} (helpers : Helpers Value) where
  guest : Guest
  key : String
  value : Value
  keyPtr : BitVec 32
  keyLen : BitVec 32
  valPtr : BitVec 32
  valLen : BitVec 32
  holdsKey : readStr guest.caller keyPtr keyLen = some key
  holdsValue : ∀ {bytes}, helpers.encode value = some bytes →
    readBytes guest.caller valPtr valLen = some bytes

/-- A call of the helper that gets. -/
structure GetCall where
  guest : Guest
  key : String
  keyPtr : BitVec 32
  keyLen : BitVec 32
  holdsKey : readStr guest.caller keyPtr keyLen = some key

section Calls

variable {Value : Type} (helpers : Helpers Value) (id : String)

/-- The helper that stores: whether it stored the value, and the storage after it. -/
def kvSet (storage : Option StorageBackend) (call : SetCall helpers) :
    Bool × Option StorageBackend :=
  match helpers.encode call.value with
  | none => (false, storage)
  | some _ =>
      let (status, after) := hostKvSet storage id call.guest.caller call.keyPtr call.keyLen
        call.valPtr call.valLen
      (status == 0, after)

/-- The data of a length-prefixed buffer in the plugin's own memory. -/
def readLengthPrefixed (memory : List UInt8) (ptr : BitVec 32) : Option (List UInt8) :=
  if ptr = 0 then none
  else
    let len := LittleEndian.decode ((memory.drop ptr.toNat).take 4)
    some ((memory.drop (ptr.toNat + 4)).take len)

/-- The helper that gets. -/
def kvGet (storage : Option StorageBackend) (call : GetCall) : Option Value :=
  match hostKvGet storage id call.guest.caller call.keyPtr call.keyLen with
  | .null => none
  | .written ptr memory => (readLengthPrefixed memory ptr).bind helpers.decode
  -- The invocation ends here. `respond` excludes it.
  | .panicked => none

/-- The storage after calls of the helper that stores. -/
def storageAfter (sets : List (SetCall helpers)) : Option StorageBackend :=
  sets.foldl (fun storage call => (kvSet helpers id storage call).2) (some .new)

/-- The value that was stored last under the key. A value that cannot be encoded is not. -/
def lastStored (sets : List (SetCall helpers)) (key : String) : Option Value :=
  sets.foldl (fun last call =>
    if call.key = key ∧ (helpers.encode call.value).isSome then some call.value else last) none

/-- The helper gets the value that was stored last, and none if there is none. -/
def RoundTrips (sets : List (SetCall helpers)) (get : GetCall) : Prop :=
  kvGet helpers id (storageAfter helpers id sets) get = lastStored helpers sets get.key

/-- The allocator finds room for the response with the value that was stored last. -/
def Allocates (sets : List (SetCall helpers)) (get : GetCall) : Prop :=
  ∀ value bytes, lastStored helpers sets get.key = some value →
    helpers.encode value = some bytes → (get.guest.alloc (4 + bytes.length)).isSome

end Calls

/-! ## What is stored -/

section Stored

variable {Value : Type} {helpers : Helpers Value} {id : String}

/-- A value that can be encoded is stored under its key. -/
theorem kv_set_eq (storage : StorageBackend) (call : SetCall helpers) :
    (kvSet helpers id (some storage) call).2 =
      some (match helpers.encode call.value with
        | none => storage
        | some bytes => storage.set id call.key bytes) := by
  unfold kvSet
  cases hencode : helpers.encode call.value with
  | none => rfl
  | some bytes =>
      unfold hostKvSet
      rw [call.holdsKey, call.holdsValue hencode]

/-- The storage holds for each key the encoding of the value that was stored last. -/
theorem storage_after (sets : List (SetCall helpers)) :
    ∃ storage, storageAfter helpers id sets = some storage ∧
      ∀ key, storage.get id key = (lastStored helpers sets key).bind helpers.encode := by
  induction sets using List.reverseRecOn with
  | nil => exact ⟨.new, rfl, fun _ => rfl⟩
  | append_singleton sets call ih =>
      obtain ⟨before, hbefore, hget⟩ := ih
      unfold storageAfter at hbefore ⊢
      refine ⟨_, by rw [List.foldl_concat, hbefore, kv_set_eq], fun key => ?_⟩
      unfold lastStored at hget ⊢
      rw [List.foldl_concat]
      cases hencode : helpers.encode call.value with
      | none => simpa using hget key
      | some bytes =>
          simp only [StorageBackend.get_set_same_namespace, hget, Option.isSome_some, and_true]
          by_cases hkey : call.key = key
          · simp [hkey, hencode]
          · simp [hkey]

end Stored

/-! ## What comes back -/

/-- The host puts a response into the block that the plugin allocates, and the plugin finds it
there. -/
theorem respond {guest : Guest} {data : List UInt8} (hdata : data.length ≤ 2 ^ 31) :
    (writeResponse guest.caller data = .null ∧ guest.alloc (4 + data.length) = none) ∨
    ∃ ptr memory, writeResponse guest.caller data = .written ptr memory ∧
      readLengthPrefixed memory ptr = some data ∧
      (guest.alloc (4 + data.length)).isSome := by
  have hsize : (BitVec.ofNat 32 (4 + data.length)).toNat = 4 + data.length := by
    rw [BitVec.toNat_ofNat]
    exact Nat.mod_eq_of_lt (by omega)
  cases halloc : guest.alloc (4 + data.length) with
  | none =>
      left
      simp [writeResponse, Guest.caller, hsize, halloc]
  | some found =>
      right
      obtain ⟨ptr, after⟩ := found
      obtain ⟨hpos, hfits, hafter⟩ := guest.block halloc
      have hptr : (BitVec.ofNat 32 ptr).toNat = ptr := by
        rw [BitVec.toNat_ofNat]
        exact Nat.mod_eq_of_lt (by omega)
      have hne : BitVec.ofNat 32 ptr ≠ 0 := by
        intro hzero
        rw [hzero] at hptr
        simp at hptr
        omega
      have hstart := usize_of_i32_of_nat (show ptr < 2 ^ 31 by omega)
      have hlength : (after.take ptr).length = ptr := by
        rw [List.length_take]
        omega
      refine ⟨BitVec.ofNat 32 ptr, after.take ptr ++ prefixed data ++
        after.drop (ptr + (4 + data.length)), ?_, ?_, by simp⟩
      · have hstop : (ptr + (4 + data.length)) % 2 ^ 64 = ptr + (4 + data.length) :=
          Nat.mod_eq_of_lt (by omega)
        unfold writeResponse Guest.caller
        simp only [hsize, halloc, Option.map_some, if_neg hne, hstart, hstop]
        rw [if_neg (by omega), if_neg (by omega)]
      · have hread := decode_length_prefixed (show data.length < 256 ^ 4 by omega) (after.take ptr)
          (after.drop (ptr + (4 + data.length)))
        have htake := take_data_prefixed (after.take ptr) data
          (after.drop (ptr + (4 + data.length)))
        rw [hlength] at hread htake
        unfold readLengthPrefixed
        simp only [if_neg hne, hptr, hread, htake]

/-- A value that is stored has come from a memory of at most 2 GiB. -/
theorem length_le_of_last_stored {Value : Type} {helpers : Helpers Value}
    {sets : List (SetCall helpers)} {key : String} {value : Value} {bytes : List UInt8}
    (h : lastStored helpers sets key = some value) (hencode : helpers.encode value = some bytes) :
    bytes.length ≤ 2 ^ 31 := by
  induction sets using List.reverseRecOn with
  | nil => cases h
  | append_singleton sets call ih =>
      unfold lastStored at h ih
      rw [List.foldl_concat] at h
      split at h
      · obtain rfl := Option.some.inj h
        exact (length_le_of_read_bytes rfl (call.holdsValue hencode)).trans call.guest.addressable
      · exact ih h

/-- What the helper that gets returns. -/
theorem kv_get_eq {Value : Type} {helpers : Helpers Value} {id : String}
    (sets : List (SetCall helpers)) (get : GetCall) :
    kvGet helpers id (storageAfter helpers id sets) get =
      ((lastStored helpers sets get.key).bind helpers.encode).bind fun bytes =>
        if (get.guest.alloc (4 + bytes.length)).isSome then helpers.decode bytes else none := by
  obtain ⟨storage, hstorage, hget⟩ := @storage_after _ _ id sets
  unfold kvGet hostKvGet
  rw [hstorage, get.holdsKey]
  dsimp only
  rw [hget]
  cases hlast : lastStored helpers sets get.key with
  | none => rfl
  | some value =>
      cases hencode : helpers.encode value with
      | none => simp [hencode]
      | some bytes =>
          have hlength := length_le_of_last_stored hlast hencode
          simp only [Option.bind_some, hencode]
          rcases respond hlength with ⟨hnull, halloc⟩ | ⟨ptr, memory, hwritten, hread, halloc⟩
          · rw [hnull, halloc]
            rfl
          · rw [hwritten, if_pos halloc]
            dsimp only
            rw [hread, Option.bind_some]

/-- A value that is stored was encoded. -/
theorem encode_of_last_stored {Value : Type} {helpers : Helpers Value}
    {sets : List (SetCall helpers)} {key : String} {value : Value}
    (h : lastStored helpers sets key = some value) : ∃ bytes, helpers.encode value = some bytes := by
  induction sets using List.reverseRecOn with
  | nil => cases h
  | append_singleton sets call ih =>
      unfold lastStored at h ih
      rw [List.foldl_concat] at h
      split at h
      · rename_i hstored
        obtain rfl := Option.some.inj h
        exact Option.isSome_iff_exists.mp hstored.2
      · exact ih h

section RoundTrips

variable {Value State : Type} {helpers : Helpers Value} {codecs : Codecs State} {id : String}

/-- Helpers that decode what they encode get back the last value if there is room for it. -/
theorem round_trips_iff_allocates
    (hdecode : ∀ {value bytes}, helpers.encode value = some bytes →
      helpers.decode bytes = some value) (sets : List (SetCall helpers)) (get : GetCall) :
    RoundTrips helpers id sets get ↔ Allocates helpers sets get := by
  unfold RoundTrips Allocates
  rw [kv_get_eq]
  cases hlast : lastStored helpers sets get.key with
  | none => simp
  | some value =>
      obtain ⟨bytes, hbytes⟩ := encode_of_last_stored hlast
      simp only [Option.bind_some, hbytes, hdecode hbytes]
      constructor
      · intro hget other encoded hother hencoded
        obtain rfl := Option.some.inj hother
        obtain rfl := Option.some.inj (hbytes.symm.trans hencoded)
        by_contra hfull
        rw [if_neg hfull] at hget
        cases hget
      · intro halloc
        rw [if_pos (halloc value bytes rfl hbytes)]

/-- Helpers that never decode what they encode get back a value only if there is none. -/
theorem round_trips_iff_none
    (hdecode : ∀ {value bytes}, helpers.encode value = some bytes →
      helpers.decode bytes ≠ some value) (sets : List (SetCall helpers)) (get : GetCall) :
    RoundTrips helpers id sets get ↔ lastStored helpers sets get.key = none := by
  unfold RoundTrips
  rw [kv_get_eq]
  cases hlast : lastStored helpers sets get.key with
  | none => simp
  | some value =>
      obtain ⟨bytes, hbytes⟩ := encode_of_last_stored hlast
      have hne := hdecode hbytes
      simp only [Option.bind_some, hbytes, reduceCtorEq, iff_false]
      split
      · exact hne
      · simp

/-- The text of a JSON value has no envelope. -/
theorem envelope_to_vec (hlawful : codecs.Lawful) (value : Json) :
    envelope codecs.msgpack (codecs.json.toVec value) = none := by
  obtain ⟨byte, rest, htext, hascii⟩ := hlawful.json_head value
  unfold envelope
  rw [htext, hlawful.fixint rest hascii]
  rfl

/-- The helpers for JSON values never get back what they stored. -/
theorem decode_to_vec_ne (hlawful : codecs.Lawful) {value : Json} {bytes : List UInt8}
    (h : some (codecs.json.toVec value) = some bytes) :
    (envelope codecs.msgpack bytes).bind codecs.json.fromSlice ≠ some value := by
  obtain rfl := Option.some.inj h
  rw [envelope_to_vec hlawful]
  exact fun hnone => nomatch hnone

/-- What is in an envelope is shorter than the envelope. -/
theorem length_lt_of_envelope (hlawful : codecs.Lawful) {bytes raw : List UInt8}
    (h : envelope codecs.msgpack bytes = some raw) : raw.length < bytes.length := by
  unfold envelope at h
  split at h
  · cases h
  · rename_i outer houter
    split at h
    · rename_i elements hvalue
      obtain rfl := Option.some.inj h
      rw [List.length_map]
      exact (List.length_filterMap_le _ _).trans_lt (hlawful.length_lt houter hvalue)
    · cases h

/-- A plugin gets back the value that it stored last if and only if it is `personality` and its
allocator finds room for the response, or there is no such value. -/
theorem kv_round_trip_iff (hlawful : codecs.Lawful) :
    (∀ id sets get, RoundTrips (personality codecs) id sets get ↔
      Allocates (personality codecs) sets get) ∧
    (∀ id sets get, RoundTrips (llmPersonality codecs) id sets get ↔
      lastStored (llmPersonality codecs) sets get.key = none) ∧
    (∀ id sets get, RoundTrips (codingCompanion codecs) id sets get ↔
      lastStored (codingCompanion codecs) sets get.key = none) ∧
    ∀ id sets get, RoundTrips (ttsVoice codecs) id sets get ↔
      lastStored (ttsVoice codecs) sets get.key = none := by
  refine ⟨fun _ => round_trips_iff_allocates hlawful.state_from_slice,
    fun _ => round_trips_iff_none (decode_to_vec_ne hlawful),
    fun _ => round_trips_iff_none (decode_to_vec_ne hlawful),
    fun _ => round_trips_iff_none ?_⟩
  intro value bytes hbytes hdecode
  obtain rfl := Option.some.inj hbytes
  obtain ⟨raw, hraw, htext⟩ := Option.bind_eq_some_iff.mp hdecode
  have hshorter := length_lt_of_envelope hlawful hraw
  rw [Utf8.bytes_of_from_utf8 htext] at hshorter
  exact Nat.lt_irrefl _ hshorter

end RoundTrips

/-! ## An emotion -/

/-- `EmotionState`. -/
structure EmotionState where
  current : String
  intensity : UInt8
  deriving DecidableEq

/-- The default emotion. -/
def neutral : EmotionState := ⟨"neutral", 50⟩

/-- The array of the default emotion in MessagePack. -/
def neutralBytes : List UInt8 := 0x92 :: 0xa7 :: Utf8.bytes "neutral" ++ [50]

/-- The serializers at the default emotion, at JSON strings and at numbers. -/
def sampleCodecs : Codecs EmotionState where
  msgpack :=
    { toVec := fun _ => []
      fromSlice := fun
        | [] => none
        | byte :: _ => if byte.toNat < 128 then some (.number byte.toNat 0) else none }
  stateToVec state := if state = neutral then some neutralBytes else none
  stateFromSlice bytes := if bytes = neutralBytes then some neutral else none
  json :=
    { toVec := fun
        | .string text => 0x22 :: Utf8.bytes text ++ [0x22]
        | _ => Utf8.bytes "null"
      fromSlice := fun _ => none }

/-- The samples are lawful. -/
theorem sample_codecs_lawful : sampleCodecs.Lawful where
  state_from_slice := by
    intro state bytes h
    have hneutral : (if state = neutral then some neutralBytes else none) = some bytes := h
    split at hneutral
    · rename_i hstate
      obtain rfl := Option.some.inj hneutral
      rw [hstate]
      simp [sampleCodecs]
    · cases hneutral
  json_head value := by
    cases value with
    | string text => exact ⟨0x22, Utf8.bytes text ++ [0x22], rfl, by decide⟩
    | _ => exact ⟨110, [117, 108, 108], rfl, by decide⟩
  fixint rest h := if_pos h
  length_lt := by
    intro bytes value elements hvalue helements
    cases bytes with
    | nil => cases hvalue
    | cons byte rest =>
        have hnumber : (if byte.toNat < 128 then some (Json.number byte.toNat 0) else none) =
          some value := hvalue
        split at hnumber
        · obtain rfl := Option.some.inj hnumber
          cases helements
        · cases hnumber

/-- A plugin with the key `emotion`, a value, and a block of 32 bytes in its memory. -/
def sampleGuest (value : List UInt8) (hvalue : value.length ≤ 32) : Guest where
  memory := 0 :: Utf8.bytes "emotion" ++ value ++ List.replicate 32 0
  addressable := by
    have hkey : (Utf8.bytes "emotion").length = 7 := by decide
    simp [hkey]
    omega
  alloc size :=
    if size ≤ 32 then
      some (8 + value.length, 0 :: Utf8.bytes "emotion" ++ value ++ List.replicate 32 0)
    else none
  block := by
    intro size ptr after h
    have hkey : (Utf8.bytes "emotion").length = 7 := by decide
    split at h
    · obtain ⟨rfl, rfl⟩ := Prod.mk.inj (Option.some.inj h)
      simp [hkey]
      omega
    · cases h

/-- The key is where the sample calls say. -/
theorem read_sample_key (value : List UInt8) (hvalue : value.length ≤ 32) :
    readStr (sampleGuest value hvalue).caller 1 7 = some "emotion" := by
  have hbytes : readBytes (sampleGuest value hvalue).caller 1 7 = some (Utf8.bytes "emotion") := by
    have hkey : (Utf8.bytes "emotion").length = 7 := by decide
    have hone : usizeOfI32 1#32 = 1 := by decide
    have hseven : usizeOfI32 7#32 = 7 := by decide
    have htake : ∀ rest, (Utf8.bytes "emotion" ++ rest).take 7 = Utf8.bytes "emotion" :=
      fun _ => List.take_left' hkey
    simp [readBytes, sampleGuest, Guest.caller, hone, hseven, hkey, htake]
  rw [readStr, hbytes]
  exact Utf8.from_utf8_bytes "emotion"

/-- The default emotion is stored by `personality`. -/
def setNeutral : SetCall (personality sampleCodecs) where
  guest := sampleGuest neutralBytes (by decide)
  key := "emotion"
  value := neutral
  keyPtr := 1
  keyLen := 7
  valPtr := 8
  valLen := 10
  holdsKey := read_sample_key _ _
  holdsValue h := by
    obtain rfl := Option.some.inj (h : some neutralBytes = _)
    decide

/-- The emotion `happy` is stored by `llm-personality`. -/
def setHappy : SetCall (llmPersonality sampleCodecs) where
  guest := sampleGuest (sampleCodecs.json.toVec (.string "happy")) (by decide)
  key := "emotion"
  value := .string "happy"
  keyPtr := 1
  keyLen := 7
  valPtr := 8
  valLen := 7
  holdsKey := read_sample_key _ _
  holdsValue h := by
    obtain rfl := Option.some.inj h
    decide

/-- The emotion is got. -/
def getEmotion : GetCall where
  guest := sampleGuest [] (by decide)
  key := "emotion"
  keyPtr := 1
  keyLen := 7
  holdsKey := read_sample_key _ _

/-- `kv_round_trip_iff` for the sample calls. -/
theorem emotion_round_trips :
    RoundTrips (personality sampleCodecs) "personality" [setNeutral] getEmotion ∧
      ¬ RoundTrips (llmPersonality sampleCodecs) "llm-personality" [setHappy] getEmotion := by
  have hiff := kv_round_trip_iff sample_codecs_lawful
  constructor
  · refine (hiff.1 _ _ _).mpr fun value bytes hvalue hbytes => ?_
    obtain rfl := Option.some.inj (hvalue.symm : some value = some neutral)
    obtain rfl := Option.some.inj (hbytes : some neutralBytes = _)
    decide
  · exact fun h => nomatch (hiff.2.1 _ _ _).mp h

/-- The emotion that `llm-personality` has stored is not got back. -/
theorem happy_not_restored :
    ¬ RoundTrips (llmPersonality sampleCodecs) "llm-personality" [setHappy] getEmotion := by
  intro h
  have hnone := (round_trips_iff_none (decode_to_vec_ne sample_codecs_lawful) _ _).mp h
  cases hnone

end CorvidNano.Plugins.KeyValue
