import CorvidNano.Agent.KeystoreFile

/-!
# The parameters of a keystore file

`load_keystore` with files that something else may have written. The costs that a file records
for Argon2id are not read: the key is derived with the costs of `derive_key`. The length of the
nonce is not checked before `Nonce::from_slice` asserts it. `opens_as_recorded_iff` says for which
files neither matters, whatever key Argon2id derives and whatever the cipher decrypts.
-/

namespace CorvidNano.Agent.KeystoreParameters

open KeystoreFile
open Fallible (bind_eq_error bind_eq_ok map_error_eq_error map_error_eq_ok)
open Mnemonic (Seed)

/-- The costs of Argon2id: memory, iterations and parallelism. -/
structure Costs where
  mCost : UInt32
  tCost : UInt32
  pCost : UInt32
  deriving DecidableEq

/-- The costs that a keystore records. -/
def costsOf (keystore : Keystore) : Costs where
  mCost := keystore.kdfParams.mCost
  tCost := keystore.kdfParams.tCost
  pCost := keystore.kdfParams.pCost

/-- The arguments of `argon2::Params::new` in `derive_key`. -/
def deriveCosts : Costs := ⟨65536, 3, 1⟩

variable {Key : Type}

/-- Argon2id, which derives a key from a password and a salt. -/
abbrev Argon2 (Key : Type) := Costs → List UInt8 → List UInt8 → Except String Key

variable (libs : Libraries Key) (argon2 : Argon2 Key)

/-- The crates with these costs in `derive_key`. -/
def withCosts (costs : Costs) : Libraries Key := { libs with hashPassword := argon2 costs }

/-- `load_keystore` after the file was read. -/
def openFile (json password : String) : Except Failure (Seed × String) :=
  openKeystore (withCosts libs argon2 deriveCosts) json password

/-- The same with the costs that the file records. -/
def openRecorded (json password : String) : Except Failure (Seed × String) := do
  let keystore ← (libs.fromStr json).mapError .err
  openKeystore (withCosts libs argon2 (costsOf keystore)) json password

/-- A text is opened without a panic, and as the costs that it records say. -/
structure OpensAsRecorded (json password : String) : Prop where
  returns : openFile libs argon2 json password ≠ .error .panicked
  recorded : ∀ opened, openFile libs argon2 json password = .ok opened ↔
    openRecorded libs argon2 json password = .ok opened

/-- The bytes in a keystore file. -/
structure Fields where
  salt : List UInt8
  nonce : List UInt8
  ciphertext : List UInt8
  deriving DecidableEq

/-- The bytes of a keystore, if its version is supported and its texts are in base64. -/
def readFields (keystore : Keystore) : Except Failure Fields := do
  checkVersion keystore.version
  let salt ← decodeBase64 libs "salt" keystore.kdfParams.salt
  let nonce ← decodeBase64 libs "nonce" keystore.nonce
  let ciphertext ← decodeBase64 libs "ciphertext" keystore.ciphertext
  .ok { salt, nonce, ciphertext }

/-- The seed that a password unlocks with some costs. -/
def unlock (costs : Costs) (fields : Fields) (password : String) : Option Seed := do
  let key ← (argon2 costs (Utf8.bytes password) fields.salt).toOption
  let nonce ← toArray? 12 fields.nonce
  let plaintext ← libs.decrypt key nonce fields.ciphertext
  toArray? 32 plaintext

/-- The lengths of a password and a salt that Argon2id takes. -/
def Accepted (password salt : List UInt8) : Prop :=
  password.length ≤ 0xffffffff ∧ 8 ≤ salt.length ∧ salt.length ≤ 0xffffffff

/-- Argon2id derives no key from a password and a salt of other lengths. -/
def RefusesLengths : Prop :=
  ∀ costs password salt key, argon2 costs password salt = .ok key → Accepted password salt

/-- The nonce has twelve bytes, and the recorded costs are those of `derive_key`. -/
structure Usable (keystore : Keystore) (fields : Fields) : Prop where
  nonce : fields.nonce.length = 12
  costs : costsOf keystore = deriveCosts

/-- Other costs give another key, and a ciphertext is decrypted under one key at most. -/
structure Separates : Prop where
  costs_of_key : ∀ {costs other password salt key}, argon2 costs password salt = .ok key →
    argon2 other password salt = .ok key → costs = other
  key_of_ciphertext : ∀ {key other nonce ciphertext plaintext another},
    libs.decrypt key nonce ciphertext = some plaintext →
      libs.decrypt other nonce ciphertext = some another → key = other

variable {libs argon2}

/-- A keystore is parsed, its fields are read, a key is derived and the seed is decrypted. -/
theorem open_keystore_eq (costs : Costs) (json password : String) :
    openKeystore (withCosts libs argon2 costs) json password = (do
      let keystore ← (libs.fromStr json).mapError .err
      let fields ← readFields libs keystore
      let key ← deriveKey (withCosts libs argon2 costs) password fields.salt
      let seed ← decryptSeed libs key fields.nonce fields.ciphertext
      .ok (seed, keystore.address)) := by
  simp only [readFields, bind_assoc]
  rfl

/-- No field makes the reader panic. -/
theorem read_fields_returns (keystore : Keystore) :
    readFields libs keystore ≠ .error .panicked := by
  have hversion : checkVersion keystore.version ≠ .error .panicked := by
    unfold checkVersion
    split
    · exact fun h => nomatch h
    · exact fun h => nomatch h
  have hdecode : ∀ field text : String, decodeBase64 libs field text ≠ .error .panicked := by
    intro field text
    unfold decodeBase64
    split
    · exact fun h => nomatch h
    · exact fun h => nomatch h
  intro h
  simp only [readFields, bind_eq_error, hversion, hdecode, false_or] at h
  obtain ⟨_, _, _, _, _, _, _, _, h⟩ := h
  cases h

/-- Deriving a key does not panic. -/
theorem derive_key_returns (password : String) (salt : List UInt8) :
    deriveKey libs password salt ≠ .error .panicked := by
  intro h
  obtain ⟨cause, -, hcause⟩ := map_error_eq_error.mp h
  cases hcause

/-- Decrypting panics exactly if the nonce does not have twelve bytes. -/
theorem decrypt_seed_panics_iff {key : Key} {nonce ciphertext : List UInt8} :
    decryptSeed libs key nonce ciphertext = .error .panicked ↔ nonce.length ≠ 12 := by
  unfold decryptSeed toArray?
  by_cases hlength : nonce.length = 12
  · rw [dif_pos hlength]
    refine iff_of_false (fun h => ?_) (not_not_intro hlength)
    dsimp only at h
    split at h
    · cases h
    · split at h
      · cases h
      · cases h
  · rw [dif_neg hlength]
    exact iff_of_true rfl hlength

/-- A seed that is decrypted. -/
theorem decrypt_seed_eq_ok {key : Key} {nonce ciphertext : List UInt8} {seed : Seed} :
    decryptSeed libs key nonce ciphertext = .ok seed ↔
      ((toArray? 12 nonce).bind fun nonce =>
        (libs.decrypt key nonce ciphertext).bind (toArray? 32)) = some seed := by
  unfold decryptSeed
  cases toArray? 12 nonce with
  | none => simp
  | some nonce =>
      cases hplaintext : libs.decrypt key nonce ciphertext with
      | none => simp [hplaintext]
      | some plaintext =>
          cases hseed : toArray? 32 plaintext with
          | none => simp [hplaintext, hseed]
          | some found => simp [hplaintext, hseed]

/-- A password unlocks the seed that its key decrypts. -/
theorem unlock_eq_some_iff {costs : Costs} {fields : Fields} {password : String} {seed : Seed} :
    unlock libs argon2 costs fields password = some seed ↔
      ∃ key, argon2 costs (Utf8.bytes password) fields.salt = .ok key ∧
        decryptSeed libs key fields.nonce fields.ciphertext = .ok seed := by
  unfold unlock
  cases argon2 costs (Utf8.bytes password) fields.salt with
  | error error => simp [Except.toOption]
  | ok key => simp [Except.toOption, decrypt_seed_eq_ok, Option.bind_eq_bind]

/-- A text panics exactly if its fields are read, a key is derived, and the nonce does not have
twelve bytes. -/
theorem open_panics_iff (costs : Costs) (json password : String) :
    openKeystore (withCosts libs argon2 costs) json password = .error .panicked ↔
      ∃ keystore fields, libs.fromStr json = .ok keystore ∧
        readFields libs keystore = .ok fields ∧
        (∃ key, argon2 costs (Utf8.bytes password) fields.salt = .ok key) ∧
        fields.nonce.length ≠ 12 := by
  have hparse : (libs.fromStr json).mapError Failure.err ≠ .error .panicked := by
    intro h
    obtain ⟨cause, -, hcause⟩ := map_error_eq_error.mp h
    cases hcause
  have hkey : ∀ {salt key}, deriveKey (withCosts libs argon2 costs) password salt = .ok key ↔
      argon2 costs (Utf8.bytes password) salt = .ok key := map_error_eq_ok
  simp only [open_keystore_eq, bind_eq_error, hparse, read_fields_returns, derive_key_returns,
    decrypt_seed_panics_iff, map_error_eq_ok, hkey, false_or]
  constructor
  · rintro ⟨keystore, hjson, fields, hfields, key, hderive, hnonce | ⟨_, _, h⟩⟩
    · exact ⟨keystore, fields, hjson, hfields, ⟨key, hderive⟩, hnonce⟩
    · cases h
  · rintro ⟨keystore, fields, hjson, hfields, ⟨key, hderive⟩, hnonce⟩
    exact ⟨keystore, hjson, fields, hfields, key, hderive, .inl hnonce⟩

/-- A text is opened to the seed that the password unlocks. -/
theorem open_eq_ok_iff (costs : Costs) (json password : String) {opened : Seed × String} :
    openKeystore (withCosts libs argon2 costs) json password = .ok opened ↔
      ∃ keystore fields, libs.fromStr json = .ok keystore ∧
        readFields libs keystore = .ok fields ∧
        unlock libs argon2 costs fields password = some opened.1 ∧
        keystore.address = opened.2 := by
  have hkey : ∀ {salt key}, deriveKey (withCosts libs argon2 costs) password salt = .ok key ↔
      argon2 costs (Utf8.bytes password) salt = .ok key := map_error_eq_ok
  simp only [open_keystore_eq, bind_eq_ok, map_error_eq_ok, hkey, unlock_eq_some_iff,
    Except.ok.injEq]
  constructor
  · rintro ⟨keystore, hjson, fields, hfields, key, hderive, seed, hseed, rfl⟩
    exact ⟨keystore, fields, hjson, hfields, ⟨key, hderive, hseed⟩, rfl⟩
  · rintro ⟨keystore, fields, hjson, hfields, ⟨key, hderive, hseed⟩, haddress⟩
    exact ⟨keystore, hjson, fields, hfields, key, hderive, _, hseed, Prod.ext rfl haddress⟩

/-- The same with the costs that the text records. -/
theorem open_recorded_eq_ok_iff (json password : String) {opened : Seed × String} :
    openRecorded libs argon2 json password = .ok opened ↔
      ∃ keystore fields, libs.fromStr json = .ok keystore ∧
        readFields libs keystore = .ok fields ∧
        unlock libs argon2 (costsOf keystore) fields password = some opened.1 ∧
        keystore.address = opened.2 := by
  simp only [openRecorded, bind_eq_ok, map_error_eq_ok, open_eq_ok_iff]
  constructor
  · rintro ⟨keystore, hjson, other, fields, hother, hrest⟩
    cases hjson.symm.trans hother
    exact ⟨keystore, fields, hjson, hrest⟩
  · rintro ⟨keystore, fields, hjson, hrest⟩
    exact ⟨keystore, hjson, keystore, fields, hjson, hrest⟩

/-- A text has one keystore with one set of fields. -/
theorem exists_fields_iff {json : String} {keystore : Keystore} {fields : Fields}
    (hjson : libs.fromStr json = .ok keystore) (hfields : readFields libs keystore = .ok fields)
    {P : Keystore → Fields → Prop} :
    (∃ keystore fields, libs.fromStr json = .ok keystore ∧ readFields libs keystore = .ok fields ∧
      P keystore fields) ↔ P keystore fields := by
  constructor
  · rintro ⟨_, _, hother, hread, h⟩
    cases hjson.symm.trans hother
    cases hfields.symm.trans hread
    exact h
  · exact fun h => ⟨keystore, fields, hjson, hfields, h⟩

/-- A keystore whose fields are read is opened as recorded exactly if its password unlocks the same
with both costs. -/
theorem recorded_iff {json : String} {keystore : Keystore} {fields : Fields}
    (hjson : libs.fromStr json = .ok keystore) (hfields : readFields libs keystore = .ok fields)
    (password : String) :
    (∀ opened, openFile libs argon2 json password = .ok opened ↔
      openRecorded libs argon2 json password = .ok opened) ↔
      unlock libs argon2 deriveCosts fields password =
        unlock libs argon2 (costsOf keystore) fields password := by
  have hfile : ∀ opened, openFile libs argon2 json password = .ok opened ↔
      unlock libs argon2 deriveCosts fields password = some opened.1 ∧
        keystore.address = opened.2 := fun opened =>
    (open_eq_ok_iff deriveCosts json password).trans (exists_fields_iff hjson hfields)
  have hrecorded : ∀ opened, openRecorded libs argon2 json password = .ok opened ↔
      unlock libs argon2 (costsOf keystore) fields password = some opened.1 ∧
        keystore.address = opened.2 := fun opened =>
    (open_recorded_eq_ok_iff json password).trans (exists_fields_iff hjson hfields)
  simp only [hfile, hrecorded]
  constructor
  · intro h
    refine Option.ext fun seed => ?_
    have hseed := h (seed, keystore.address)
    simpa using hseed
  · intro h opened
    rw [h]

/-- A password unlocks nothing if no key is derived from it. -/
theorem unlock_of_not_accepted (hrefuses : RefusesLengths argon2) {fields : Fields}
    {password : String} (h : ¬ Accepted (Utf8.bytes password) fields.salt) (costs : Costs) :
    unlock libs argon2 costs fields password = none := by
  refine Option.eq_none_iff_forall_ne_some.mpr fun seed hseed => ?_
  obtain ⟨key, hkey, -⟩ := unlock_eq_some_iff.mp hseed
  exact h (hrefuses costs _ _ key hkey)

/-- A ciphertext is unlocked with one choice of the costs at most. -/
theorem costs_of_unlock (hseparates : Separates libs argon2) {costs other : Costs}
    {fields : Fields} {password : String} {seed found : Seed}
    (hseed : unlock libs argon2 costs fields password = some seed)
    (hfound : unlock libs argon2 other fields password = some found) : costs = other := by
  simp only [unlock, Option.bind_eq_bind, Option.bind_eq_some_iff] at hseed hfound
  obtain ⟨key, hkey, nonce, hnonce, plaintext, hplaintext, -⟩ := hseed
  obtain ⟨second, hsecond, same, hsame, another, hanother, -⟩ := hfound
  cases hnonce.symm.trans hsame
  obtain rfl := hseparates.key_of_ciphertext hplaintext hanother
  cases hderived : argon2 costs (Utf8.bytes password) fields.salt with
  | error error => simp [hderived, Except.toOption] at hkey
  | ok derived =>
      cases hother : argon2 other (Utf8.bytes password) fields.salt with
      | error error => simp [hother, Except.toOption] at hsecond
      | ok same =>
          simp only [hderived, hother, Except.toOption, Option.some.injEq] at hkey hsecond
          subst hkey hsecond
          exact hseparates.costs_of_key hderived hother

/-- A file that is usable, or from which no key is derived, is opened as it records. -/
theorem opens_as_recorded_of_usable (hrefuses : RefusesLengths argon2) {json password : String}
    (h : ∀ keystore fields, libs.fromStr json = .ok keystore →
      readFields libs keystore = .ok fields → Accepted (Utf8.bytes password) fields.salt →
        Usable keystore fields) : OpensAsRecorded libs argon2 json password := by
  constructor
  case returns =>
    intro hpanic
    obtain ⟨keystore, fields, hjson, hfields, ⟨key, hkey⟩, hnonce⟩ :=
      (open_panics_iff deriveCosts json password).mp hpanic
    exact hnonce (h keystore fields hjson hfields (hrefuses _ _ _ key hkey)).nonce
  case recorded =>
    intro opened
    -- A text whose fields are not read is opened with neither costs.
    by_cases hread : ∃ keystore fields, libs.fromStr json = .ok keystore ∧
        readFields libs keystore = .ok fields
    · obtain ⟨keystore, fields, hjson, hfields⟩ := hread
      refine (recorded_iff hjson hfields password).mpr ?_ opened
      by_cases haccepted : Accepted (Utf8.bytes password) fields.salt
      · rw [(h keystore fields hjson hfields haccepted).costs]
      · rw [unlock_of_not_accepted hrefuses haccepted,
          unlock_of_not_accepted hrefuses haccepted]
    · rw [openFile, open_eq_ok_iff, open_recorded_eq_ok_iff]
      constructor
      · rintro ⟨keystore, fields, hjson, hfields, -⟩
        exact absurd ⟨keystore, fields, hjson, hfields⟩ hread
      · rintro ⟨keystore, fields, hjson, hfields, -⟩
        exact absurd ⟨keystore, fields, hjson, hfields⟩ hread

section Oracle

open scoped Classical in
/-- An Argon2id that tells the costs of a file from all others. -/
noncomputable def markedCosts (marked : Costs) (key other : Key) : Argon2 Key :=
  fun costs password salt =>
    if Accepted password salt then .ok (if costs = marked then key else other)
    else .error "salt is too short"

open scoped Classical in
/-- A cipher that decrypts everything under one key, and nothing under the others. -/
noncomputable def opensUnder (key : Key) : Key → KeystoreFile.Nonce → List UInt8 →
    Option (List UInt8) :=
  fun other _ _ => if other = key then some (List.replicate 32 0) else none

theorem refuses_marked_costs (marked : Costs) (key other : Key) :
    RefusesLengths (markedCosts marked key other) := by
  intro costs password salt found hfound
  unfold markedCosts at hfound
  split at hfound
  · assumption
  · cases hfound

end Oracle

/-- With every Argon2id and every cipher, a file is opened without a panic and as the costs that it
records say, if and only if its nonce has twelve bytes and these are the costs of `derive_key`,
unless it is rejected before a key is derived. A file that was sealed for its password under the
costs that it records is opened if and only if these are the costs of `derive_key`. -/
theorem opens_as_recorded_iff [Nontrivial Key] (libs : Libraries Key) (json password : String) :
    ((∀ argon2 decrypt, RefusesLengths argon2 →
        OpensAsRecorded { libs with decrypt } argon2 json password) ↔
      ∀ keystore fields, libs.fromStr json = .ok keystore →
        readFields libs keystore = .ok fields → Accepted (Utf8.bytes password) fields.salt →
          Usable keystore fields) ∧
    ∀ argon2, Separates libs argon2 → ∀ keystore fields seed,
      libs.fromStr json = .ok keystore → readFields libs keystore = .ok fields →
        unlock libs argon2 (costsOf keystore) fields password = some seed →
          (openFile libs argon2 json password = .ok (seed, keystore.address) ↔
            costsOf keystore = deriveCosts) := by
  refine ⟨⟨fun h keystore fields hjson hfields haccepted => ?_, fun h argon2 decrypt hrefuses => ?_⟩,
    fun argon2 hseparates keystore fields seed hjson hfields hseed => ?_⟩
  · obtain ⟨key, other, hne⟩ := exists_pair_ne Key
    have hopens := h (markedCosts (costsOf keystore) key other) (opensUnder key)
      (refuses_marked_costs _ _ _)
    have hderived : ∀ costs, ∃ found, markedCosts (costsOf keystore) key other costs
        (Utf8.bytes password) fields.salt = .ok found :=
      fun costs => ⟨_, if_pos haccepted⟩
    have hnonce : fields.nonce.length = 12 := by
      by_contra hlength
      exact hopens.returns ((open_panics_iff deriveCosts json password).mpr
        ⟨keystore, fields, hjson, hfields, hderived deriveCosts, hlength⟩)
    refine ⟨hnonce, ?_⟩
    -- Under the recorded costs the file is opened, and under all others it is not.
    by_contra hcosts
    have hsame := (recorded_iff (by exact hjson) (by exact hfields) password).mp hopens.recorded
    have hrecorded : unlock { libs with decrypt := opensUnder key }
        (markedCosts (costsOf keystore) key other) (costsOf keystore) fields password =
          some (Vector.replicate 32 0) := by
      simp [unlock, markedCosts, haccepted, opensUnder, toArray?, hnonce, Except.toOption]
      rfl
    have hderive : unlock { libs with decrypt := opensUnder key }
        (markedCosts (costsOf keystore) key other) deriveCosts fields password = none := by
      simp [unlock, markedCosts, haccepted, opensUnder, toArray?, hnonce, Except.toOption,
        Ne.symm hcosts, hne.symm]
    rw [hrecorded, hderive] at hsame
    cases hsame
  · exact opens_as_recorded_of_usable hrefuses h
  · rw [openFile, open_eq_ok_iff]
    constructor
    · rintro ⟨found, others, hfound, hothers, hopened, -⟩
      cases hjson.symm.trans hfound
      cases hfields.symm.trans hothers
      exact (costs_of_unlock hseparates hopened hseed).symm
    · intro hcosts
      rw [hcosts] at hseed
      exact ⟨keystore, fields, hjson, hfields, hseed, rfl⟩

/-- A file whose nonce has three bytes. -/
def shortNonce : Keystore :=
  { sampleKeystore "AAAA" with nonce := "AAAA" }

/-- A file that records twice the memory. -/
def moreMemory : Keystore :=
  { sampleKeystore "AAAA" with
    kdfParams := { (sampleKeystore "AAAA").kdfParams with mCost := 131072 } }

/-- The text of such a file. -/
def fileText (mCost nonce : String) : String :=
  "\x7b\"version\":1,\"kdf\":\"argon2id\",\"kdf_params\":\x7b\"m_cost\":" ++ mCost ++
    ",\"t_cost\":3,\"p_cost\":1,\"salt\":\"AAAAAAAAAAAAAAAAAAAAAA==\"\x7d," ++
    "\"cipher\":\"chacha20-poly1305\",\"ciphertext\":\"AAAA\",\"nonce\":\"" ++ nonce ++
    "\",\"address\":\"ADDR\"\x7d"

/-- Argon2id with keys that name their costs and their password. -/
def namedKeys : Argon2 (Costs × List UInt8) := fun costs password _ => .ok (costs, password)

instance : Nontrivial (Costs × List UInt8) :=
  ⟨(deriveCosts, []), (deriveCosts, [0]), by simp⟩

/-- The crates at these two files and at one that `create_keystore` writes. The ciphertext is one of
the key with twice the memory. -/
def fileLibraries : Libraries (Costs × List UInt8) where
  hashPassword := namedKeys deriveCosts
  encrypt _ _ _ := .ok [0, 0, 0]
  decrypt key _ _ :=
    if key = (⟨131072, 3, 1⟩, Utf8.bytes "password") then some (List.replicate 32 1) else none
  toStringPretty _ := .error "unsupported"
  fromStr json :=
    if json = fileText "65536" "AAAA" then .ok shortNonce
    else if json = fileText "131072" "AAAAAAAAAAAAAAAA" then .ok moreMemory
    else if json = fileText "65536" "AAAAAAAAAAAAAAAA" then .ok (sampleKeystore "AAAA")
    else .error "expected value at line 1 column 1"
  decodeError _ := "Invalid padding"

theorem file_libraries_separate : Separates fileLibraries namedKeys where
  costs_of_key hfirst hsecond := by
    cases hfirst
    cases hsecond
    rfl
  key_of_ciphertext hfirst hsecond := by
    unfold fileLibraries at hfirst hsecond
    dsimp only at hfirst hsecond
    split at hfirst
    · rename_i hkey
      split at hsecond
      · rename_i hother
        exact hkey.trans hother.symm
      · cases hsecond
    · cases hfirst

/-- A file with the costs of `derive_key` is opened as it records. The second file does not open
with the password for which it was sealed. -/
theorem more_memory_refused :
    (∀ argon2 decrypt, RefusesLengths argon2 → OpensAsRecorded { fileLibraries with decrypt }
        argon2 (fileText "65536" "AAAAAAAAAAAAAAAA") "password") ∧
      openFile fileLibraries namedKeys (fileText "131072" "AAAAAAAAAAAAAAAA") "password" ≠
        .ok (Vector.replicate 32 1, "ADDR") := by
  constructor
  · refine (opens_as_recorded_iff fileLibraries _ "password").1.mpr
      fun keystore fields hjson hfields _ => ?_
    have hsample : fileLibraries.fromStr (fileText "65536" "AAAAAAAAAAAAAAAA") =
        .ok (sampleKeystore "AAAA") := by decide +kernel
    cases hsample.symm.trans hjson
    have hread : readFields fileLibraries (sampleKeystore "AAAA") =
        .ok ⟨List.replicate 16 0, List.replicate 12 0, [0, 0, 0]⟩ := by decide +kernel
    cases hread.symm.trans hfields
    exact ⟨rfl, rfl⟩
  · intro hopened
    have hcosts := ((opens_as_recorded_iff fileLibraries _ "password").2 namedKeys
      file_libraries_separate moreMemory ⟨List.replicate 16 0, List.replicate 12 0, [0, 0, 0]⟩
      (Vector.replicate 32 1) (by decide +kernel) (by decide +kernel) (by decide +kernel)).mp hopened
    cases hcosts

/-- The first file panics. The second one does not open with its password. -/
theorem short_nonce_panics :
    ¬ OpensAsRecorded fileLibraries namedKeys (fileText "65536" "AAAA") "password" ∧
      ¬ OpensAsRecorded fileLibraries namedKeys (fileText "131072" "AAAAAAAAAAAAAAAA")
        "password" := by
  constructor
  · exact fun h => h.returns (by decide +kernel)
  · intro h
    have hopen : openRecorded fileLibraries namedKeys (fileText "131072" "AAAAAAAAAAAAAAAA")
        "password" = .ok (Vector.replicate 32 1, "ADDR") := by decide +kernel
    exact absurd ((h.recorded _).mpr hopen) (by decide +kernel)

end CorvidNano.Agent.KeystoreParameters
