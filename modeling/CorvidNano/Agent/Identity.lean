import CorvidNano.Agent.KeystoreFile
import CorvidNano.Agent.Transaction
import CorvidNano.Library.Digits

/-!
# The identity of the agent

`load_identity` of `main.rs`, which takes the seed and the address from the flags or from the
keystore. Nothing compares the two. `loaded_address` says where the address comes from, and
`stored_address` that the keystores that the commands write have the address of their seed.
-/

namespace CorvidNano.Agent.Identity

open Address KeystoreFile
open Fallible (bind_eq_ok map_error_eq_ok)
open Mnemonic (Seed)

/-- The crates of `wallet.rs`, and the errors of `hex`. -/
structure Keys where
  verifyingKey : Seed → PublicKey
  sha : Sha512_256
  base32 : Base32NoPad
  hexError : String → String

/-- `address_from_seed`. -/
def addressFromSeed (keys : Keys) (seed : Seed) : String :=
  encodeAddress keys.sha keys.base32 (keys.verifyingKey seed)

/-- The flags of a command that needs the identity. -/
structure Flags where
  seedHex : Option String
  address : Option String
  password : Option String

variable {Key : Type} (libs : Libraries Key) (keys : Keys)

/-- `load_identity`. -/
def loadIdentity (readError : Option String) (files : Files) (flags : Flags)
    (typed : List (Except String String)) (dataDir : String) : Except Failure (Seed × String) :=
  match flags.seedHex with
  | some seedStr =>
      match Digits.hexDecode seedStr.toList with
      | none => .error (.err ("Invalid seed hex: " ++ keys.hexError seedStr))
      | some seedBytes =>
          match toArray? 32 seedBytes with
          | none =>
              .error (.err ("Seed must be 32 bytes (64 hex chars), got " ++
                toString seedBytes.length))
          | some seed =>
              match flags.address with
              -- The address of the flag is not compared with the seed.
              | some address => .ok (seed, address)
              | none => .ok (seed, addressFromSeed keys seed)
  | none =>
      let path := keystorePath dataDir
      if files path = none then
        .error (.err
          "No wallet found. Run `can init` to create one, or provide --seed/--address.")
      else
        match enterPassword flags.password typed with
        | .error failure => .error failure
        | .ok (password, _) => loadKeystore libs readError files path password

/-- A command that writes the keystore: one that creates a wallet from a seed, or the one that
changes the password. -/
inductive Command where
  | create (seed : Seed) (password : String)
  | changePassword (readError oldPassword newPassword : Option String)
      (typed : List (Except String String))

/-- The files after a command. -/
def Command.run (dataDir : String) (files : Files) (command : Command × Random × FileSystem) :
    Files :=
  match command with
  | (.create seed password, random, fs) =>
      let path := keystorePath dataDir
      -- The commands refuse to create a wallet where there is one.
      if files path ≠ none then files
      else
        (createKeystore libs random fs files
          { password, seed, address := addressFromSeed keys seed } path).2
  | (.changePassword readError oldPassword newPassword typed, random, fs) =>
      (cmdChangePassword libs random readError fs files oldPassword newPassword typed dataDir).2

/-- Every password that opens the keystore gives the address of the seed. -/
def Consistent (files : Files) (path : Path) : Prop :=
  ∀ wallet, Opens libs files path wallet → wallet.address = addressFromSeed keys wallet.seed

variable {libs keys}

/-- The address that is loaded from a keystore is the one that the file has in plain text. -/
theorem address_of_open_keystore {json password : String} {seed : Seed} {address : String}
    (h : openKeystore libs json password = .ok (seed, address)) :
    ∃ keystore, libs.fromStr json = .ok keystore ∧ address = keystore.address := by
  simp only [openKeystore, bind_eq_ok, map_error_eq_ok] at h
  obtain ⟨keystore, hread, _, _, _, _, _, _, _, _, _, _, _, _, h⟩ := h
  cases h
  exact ⟨keystore, hread, rfl⟩

/-- The address that is loaded from a file is the one in its text. -/
theorem address_of_load_keystore {readError : Option String} {files : Files} {path : Path}
    {password : String} {seed : Seed} {address : String}
    (h : loadKeystore libs readError files path password = .ok (seed, address)) :
    ∃ json keystore, readToString readError (files path) = .ok json ∧
      libs.fromStr json = .ok keystore ∧ address = keystore.address := by
  unfold loadKeystore at h
  cases hjson : readToString readError (files path) with
  | error failure =>
      rw [hjson] at h
      cases h
  | ok json =>
      rw [hjson] at h
      obtain ⟨keystore, hread, haddress⟩ := address_of_open_keystore h
      exact ⟨json, keystore, rfl, hread, haddress⟩

/-- A load that succeeds succeeds without the faults of the file system. -/
theorem opens_of_load_keystore {readError : Option String} {files : Files} {path : Path}
    {password : String} {seed : Seed} {address : String}
    (h : loadKeystore libs readError files path password = .ok (seed, address)) :
    Opens libs files path { password, seed, address } := by
  cases readError with
  | none => exact h
  | some error => cases h

/-- A seed of the flags is used as it is, with the address of the flags or with its own. -/
theorem load_identity_seed_flag {readError : Option String} {files : Files} {flags : Flags}
    {typed : List (Except String String)} {dataDir seedStr address : String} {seed : Seed}
    (hflag : flags.seedHex = some seedStr)
    (h : loadIdentity libs keys readError files flags typed dataDir = .ok (seed, address)) :
    Digits.hexDecode seedStr.toList = some seed.toList ∧
      address = flags.address.getD (addressFromSeed keys seed) := by
  unfold loadIdentity at h
  rw [hflag] at h
  dsimp only at h
  cases hbytes : Digits.hexDecode seedStr.toList with
  | none =>
      rw [hbytes] at h
      cases h
  | some seedBytes =>
      rw [hbytes] at h
      dsimp only at h
      cases harray : toArray? 32 seedBytes with
      | none =>
          rw [harray] at h
          cases h
      | some flagSeed =>
          rw [harray] at h
          have hlist := to_list_of_to_array harray
          cases haddress : flags.address with
          | none =>
              rw [haddress] at h
              cases h
              exact ⟨by rw [hlist], rfl⟩
          | some given =>
              rw [haddress] at h
              cases h
              exact ⟨by rw [hlist], rfl⟩

/-- Without a seed in the flags the identity comes from the keystore. -/
theorem load_identity_keystore {readError : Option String} {files : Files} {flags : Flags}
    {typed : List (Except String String)} {dataDir address : String} {seed : Seed}
    (hflag : flags.seedHex = none)
    (h : loadIdentity libs keys readError files flags typed dataDir = .ok (seed, address)) :
    ∃ password, loadKeystore libs readError files (keystorePath dataDir) password =
      .ok (seed, address) := by
  unfold loadIdentity at h
  rw [hflag] at h
  dsimp only at h
  split at h
  · cases h
  · cases hpassword : enterPassword flags.password typed with
    | error failure =>
        rw [hpassword] at h
        cases h
    | ok entered =>
        rw [hpassword] at h
        exact ⟨entered.1, h⟩

/-- A keystore that opens gives its identity. -/
theorem load_identity_of_opens {files : Files} {flags : Flags}
    {typed rest : List (Except String String)} {dataDir : String} {wallet : Wallet}
    (hflag : flags.seedHex = none)
    (hentered : enterPassword flags.password typed = .ok (wallet.password, rest))
    (hwallet : Opens libs files (keystorePath dataDir) wallet) :
    loadIdentity libs keys none files flags typed dataDir = .ok (wallet.seed, wallet.address) := by
  have hexists := hwallet.file_ne_none
  unfold loadIdentity
  rw [hflag]
  dsimp only
  rw [if_neg hexists, hentered]
  exact hwallet

/-! ## The keystores of the commands -/

/-- A keystore with the address of its seed is consistent. -/
theorem consistent_create (hideal : libs.Ideal) (random : Random) (fs : FileSystem) {files : Files}
    {wallet : Wallet} {dataDir : String}
    (hfiles : Consistent libs keys files (keystorePath dataDir))
    (hwallet : wallet.address = addressFromSeed keys wallet.seed) :
    Consistent libs keys (createKeystore libs random fs files wallet (keystorePath dataDir)).2
      (keystorePath dataDir) := by
  intro other hother
  obtain ⟨_, _, hkept⟩ | ⟨_, hopen, hothers, _⟩ :=
    create_keystore_cases hideal random fs files wallet (with_extension_ne dataDir)
  · exact hfiles other ((load_keystore_congr hkept other.password).symm.trans hother)
  · by_cases hpassword : other.password = wallet.password
    · rw [hother.eq_of_password hopen hpassword]
      exact hwallet
    · obtain ⟨text, hclosed⟩ := hothers other.password hpassword
      have herror := hclosed.symm.trans hother
      cases herror

/-- Every command keeps the keystore consistent. -/
theorem consistent_run (hideal : libs.Ideal) {dataDir : String} {files : Files}
    (hfiles : Consistent libs keys files (keystorePath dataDir))
    (command : Command × Random × FileSystem) :
    Consistent libs keys (Command.run libs keys dataDir files command) (keystorePath dataDir) := by
  obtain ⟨command, random, fs⟩ := command
  cases command with
  | create seed password =>
      unfold Command.run
      dsimp only
      split
      · exact hfiles
      · exact consistent_create hideal random fs hfiles rfl
  | changePassword readError oldPassword newPassword typed =>
      show Consistent libs keys (cmdChangePassword libs random readError fs files oldPassword
        newPassword typed dataDir).2 (keystorePath dataDir)
      by_cases hopens : ∃ old rest, enterPassword oldPassword typed = .ok (old.password, rest) ∧
          Opens libs files (keystorePath dataDir) old
      · obtain ⟨old, rest, hentered, hold⟩ := hopens
        cases readError with
        | some error =>
            obtain ⟨failure, hfailure⟩ : ∃ failure, cmdChangePassword libs random (some error) fs
                files oldPassword newPassword typed dataDir = (.error failure, files) :=
              change_password_read_error ..
            rw [hfailure]
            exact hfiles
        | none =>
            rw [change_password_eq random fs hentered hold]
            cases enterNewPassword newPassword rest with
            | error failure => exact hfiles
            | ok password => exact consistent_create hideal random fs hfiles (hfiles old hold)
      · obtain ⟨failure, hfailure⟩ : ∃ failure, cmdChangePassword libs random readError fs
            files oldPassword newPassword typed dataDir = (.error failure, files) :=
          change_password_of_not_opens _ _ _ _ _ _ _ _
            fun old rest hentered hold => hopens ⟨old, rest, hentered, hold⟩
        rw [hfailure]
        exact hfiles

/-- After any commands, from a state without a wallet, the keystore is consistent. -/
theorem consistent_runs (hideal : libs.Ideal) {dataDir : String} {files : Files}
    (hfiles : Consistent libs keys files (keystorePath dataDir))
    (commands : List (Command × Random × FileSystem)) :
    Consistent libs keys (commands.foldl (Command.run libs keys dataDir) files)
      (keystorePath dataDir) := by
  induction commands generalizing files with
  | nil => exact hfiles
  | cons command rest ih => exact ih (consistent_run hideal hfiles command)

/-- Where there is no file, nothing opens. -/
theorem consistent_of_none {files : Files} {path : Path} (h : files path = none) :
    Consistent libs keys files path := by
  intro wallet hwallet
  exact absurd h hwallet.file_ne_none

/-- The address that the agent runs with is the one of the flags if there is one beside a seed,
and the one of the seed if the flags have a seed only. Otherwise it is the address that the
keystore has in plain text, and this is the one of the seed if the commands of the agent wrote the
keystore. -/
theorem loaded_address (libs : Libraries Key) (keys : Keys) (hideal : libs.Ideal)
    (readError : Option String) (flags : Flags) (typed : List (Except String String))
    (dataDir : String) (seed : Seed) (address : String) :
    (∀ files : Files, loadIdentity libs keys readError files flags typed dataDir = .ok (seed, address) →
      match flags.seedHex with
      | some seedStr =>
          Digits.hexDecode seedStr.toList = some seed.toList ∧
            address = flags.address.getD (addressFromSeed keys seed)
      | none =>
          ∃ json keystore, readToString readError (files (keystorePath dataDir)) = .ok json ∧
            libs.fromStr json = .ok keystore ∧ address = keystore.address) ∧
    ∀ (files : Files) (commands : List (Command × Random × FileSystem)),
      files (keystorePath dataDir) = none → flags.seedHex = none →
        loadIdentity libs keys readError (commands.foldl (Command.run libs keys dataDir) files)
            flags typed dataDir = .ok (seed, address) →
          address = addressFromSeed keys seed := by
  constructor
  · intro files h
    cases hflag : flags.seedHex with
    | some seedStr => exact load_identity_seed_flag hflag h
    | none =>
        obtain ⟨password, hload⟩ := load_identity_keystore hflag h
        exact address_of_load_keystore hload
  · intro files commands hnone hflag h
    obtain ⟨password, hload⟩ := load_identity_keystore hflag h
    exact consistent_runs hideal (consistent_of_none hnone) commands _ (opens_of_load_keystore hload)

/-! ## A sample -/

/-- The key and the address of the seed of 32 ones. -/
def sampleKeys : Keys where
  verifyingKey _ := Transaction.sampleKey
  sha := Transaction.sampleSha
  base32 := Transaction.sampleBase32
  hexError _ := "Odd number of digits"

/-- The seed of 32 ones. -/
def sampleSeed : Seed := Vector.replicate 32 1

/-- The seed of 32 ones in hexadecimal digits. -/
def sampleSeedHex : String :=
  "0101010101010101010101010101010101010101010101010101010101010101"

/-- The seed of the flags without an address. -/
def seedFlags : Flags where
  seedHex := some sampleSeedHex
  address := none
  password := none

theorem hex_decode_sample : Digits.hexDecode sampleSeedHex.toList = some sampleSeed.toList := by
  decide

/-- The flags of the seed of the sample give that seed. -/
theorem load_identity_sample (files : Files) (address : Option String) :
    loadIdentity KeystoreFile.sampleLibraries sampleKeys none files { seedFlags with address } []
        "data" =
      .ok (sampleSeed, address.getD Transaction.sampleAddress) := by
  unfold loadIdentity
  dsimp only [seedFlags]
  rw [hex_decode_sample]
  dsimp only
  rw [to_array_to_list]
  cases address with
  | none => rfl
  | some address => rfl

/-- The text behind the ciphertext in a keystore with the address of the sample key. -/
def addressedTrailer : String :=
  "\",\n  \"nonce\": \"AAAAAAAAAAAAAAAA\",\n  \"address\": \"" ++
    Transaction.sampleAddress ++ "\"\n\x7d"

/-- The keystores with that address. -/
def addressedKeystore (ciphertext : String) : Keystore :=
  { sampleKeystore ciphertext with address := Transaction.sampleAddress }

/-- The libraries of `KeystoreFile.sampleLibraries`, for that address. -/
def addressedLibraries : Libraries (List UInt8) :=
  { sampleLibraries with
    toStringPretty := fun keystore =>
      if keystore = addressedKeystore keystore.ciphertext then
        .ok (sampleHeader ++ keystore.ciphertext ++ addressedTrailer)
      else .error "unsupported"
    fromStr := fun json => .ok (addressedKeystore (between sampleHeader addressedTrailer json)) }

theorem addressed_ideal : addressedLibraries.Ideal where
  hash_inj := @Libraries.Ideal.hash_inj _ sampleLibraries sample_ideal
  decrypt_encrypt := @Libraries.Ideal.decrypt_encrypt _ sampleLibraries sample_ideal
  decrypt_other := @Libraries.Ideal.decrypt_other _ sampleLibraries sample_ideal
  from_to_string {keystore json} h := by
    unfold addressedLibraries at h ⊢
    dsimp only at h ⊢
    split at h
    next hkeystore =>
      obtain rfl := Except.ok.inj h
      rw [between_append, ← hkeystore]
    next => cases h

/-- A password of eight bytes creates a keystore with that address. -/
theorem addressed_created {password : String} (hpassword : (Utf8.bytes password).length = 8)
    (seed : Seed) (files : Files) (dataDir : String) :
    let wallet : Wallet := ⟨password, seed, Transaction.sampleAddress⟩
    let outcome := createKeystore addressedLibraries sampleRandom (sampleFileSystem none) files
      wallet (keystorePath dataDir)
    outcome.1 = .ok () ∧ Opens addressedLibraries outcome.2 (keystorePath dataDir) wallet := by
  intro wallet outcome
  have hcheck : checkPassword password = .ok () := by
    rw [checkPassword, if_neg (by omega)]
  have hjson : keystoreJson addressedLibraries sampleRandom wallet =
      .ok (sampleHeader ++ encodeBase64 (Utf8.bytes password ++ seed.toList) ++
        addressedTrailer) := by
    simp only [keystoreJson, bind_eq_ok, map_error_eq_ok]
    exact ⟨(), hcheck, Utf8.bytes password, rfl, _, if_pos hpassword, if_pos rfl⟩
  obtain ⟨hfails, -⟩ | ⟨-, hopens, -, hresult⟩ :=
    create_keystore_cases addressed_ideal sampleRandom (sampleFileSystem none) files wallet
      (with_extension_ne dataDir)
  · exact absurd ⟨⟨_, hjson⟩, rfl, rfl⟩ hfails
  · exact ⟨hresult, hopens⟩

/-- The wallet of the seed is created. -/
def createSample : Command × Random × FileSystem :=
  (.create sampleSeed "password", sampleRandom, sampleFileSystem none)

/-- No flags but the password. -/
def passwordFlags : Flags where
  seedHex := none
  address := none
  password := some "password"

theorem load_created_sample :
    loadIdentity addressedLibraries sampleKeys none
        ([createSample].foldl (Command.run addressedLibraries sampleKeys "data") fun _ => none)
        passwordFlags [] "data" = .ok (sampleSeed, Transaction.sampleAddress) := by
  have haddress : addressFromSeed sampleKeys sampleSeed = Transaction.sampleAddress := by decide
  have hopens :=
    (addressed_created KeystoreFile.length_old_password sampleSeed (fun _ => none) "data").2
  have hfiles : Command.run addressedLibraries sampleKeys "data" (fun _ => none) createSample =
      (createKeystore addressedLibraries sampleRandom (sampleFileSystem none) (fun _ => none)
        ⟨"password", sampleSeed, Transaction.sampleAddress⟩ (keystorePath "data")).2 := by
    rw [← haddress]
    rfl
  rw [List.foldl_cons, List.foldl_nil, hfiles]
  exact load_identity_of_opens rfl rfl hopens

/-- The address of the seed of 32 ones, from the flags and from a keystore. -/
theorem loaded_address_sample :
    (Digits.hexDecode sampleSeedHex.toList = some sampleSeed.toList ∧
      Transaction.sampleAddress = (none : Option String).getD
        (addressFromSeed sampleKeys sampleSeed)) ∧
    Transaction.sampleAddress = addressFromSeed sampleKeys sampleSeed :=
  ⟨(loaded_address KeystoreFile.sampleLibraries sampleKeys KeystoreFile.sample_ideal none seedFlags
      [] "data" sampleSeed Transaction.sampleAddress).1 (fun _ => none)
        (load_identity_sample (fun _ => none) none),
    (loaded_address addressedLibraries sampleKeys addressed_ideal none passwordFlags []
      "data" sampleSeed Transaction.sampleAddress).2 (fun _ => none) [createSample] rfl rfl
        load_created_sample⟩

/-- An address of the flags, and the address of a keystore file that was written with another one,
are taken as they are. -/
theorem address_not_compared :
    loadIdentity KeystoreFile.sampleLibraries sampleKeys none (fun _ => none)
        { seedFlags with address := some "ADDR" } [] "data" = .ok (sampleSeed, "ADDR") ∧
      loadIdentity KeystoreFile.sampleLibraries sampleKeys none KeystoreFile.sampleFiles
        { seedHex := none, address := none, password := some "password" } [] "data" =
          .ok (sampleSeed, "ADDR") ∧
      addressFromSeed sampleKeys sampleSeed ≠ "ADDR" := by
  refine ⟨load_identity_sample _ _, ?_, by decide⟩
  have hopens : Opens KeystoreFile.sampleLibraries KeystoreFile.sampleFiles (keystorePath "data")
      (KeystoreFile.sampleWallet "password") :=
    (KeystoreFile.sample_created KeystoreFile.length_old_password none fun _ => none).1
  exact load_identity_of_opens rfl rfl hopens

end CorvidNano.Agent.Identity
