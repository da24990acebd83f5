import CorvidNano.Agent.Mnemonic
import CorvidNano.Library.Base64
import CorvidNano.Library.Fallible
import CorvidNano.Library.Utf8
import Mathlib.Logic.Function.Basic

/-!
# The keystore

`keystore.rs`, and the command of `main.rs` that changes its password. The seed is encrypted
under a key that is derived from the password, and the file is replaced by a rename. The
permissions are set only after that. `replacement_safe_iff` says when an error leaves the file as
it was.
-/

namespace CorvidNano.Agent.KeystoreFile

open Fallible (bind_eq_ok map_error_eq_ok)
open Mnemonic (Seed)

/-- `KdfParams`. -/
structure KdfParams where
  mCost : UInt32
  tCost : UInt32
  pCost : UInt32
  salt : String
  deriving DecidableEq

/-- `Keystore`. -/
structure Keystore where
  version : UInt32
  kdf : String
  kdfParams : KdfParams
  cipher : String
  ciphertext : String
  nonce : String
  address : String
  deriving DecidableEq

/-- The 12 bytes of a nonce. -/
abbrev Nonce := Vector UInt8 12

/-- The crates: Argon2id with the parameters of `derive_key`, ChaCha20-Poly1305, `serde_json` and
the errors of base64. An error is the text that is shown. -/
structure Libraries (Key : Type) where
  hashPassword : List UInt8 → List UInt8 → Except String Key
  encrypt : Key → Nonce → List UInt8 → Except String (List UInt8)
  decrypt : Key → Nonce → List UInt8 → Option (List UInt8)
  toStringPretty : Keystore → Except String String
  fromStr : String → Except String Keystore
  decodeError : String → String

variable {Key : Type}

/-- Two passwords have no key in common, a ciphertext is decrypted under its own key and under no
other one, and a text is read back to what was written. -/
structure Libraries.Ideal (libs : Libraries Key) : Prop where
  hash_inj : ∀ {password other salt key}, libs.hashPassword password salt = .ok key →
    libs.hashPassword other salt = .ok key → password = other
  decrypt_encrypt : ∀ {key nonce plaintext ciphertext},
    libs.encrypt key nonce plaintext = .ok ciphertext →
      libs.decrypt key nonce ciphertext = some plaintext
  decrypt_other : ∀ {key other nonce plaintext ciphertext},
    libs.encrypt key nonce plaintext = .ok ciphertext → other ≠ key →
      libs.decrypt other nonce ciphertext = none
  from_to_string : ∀ {keystore json}, libs.toStringPretty keystore = .ok json →
    libs.fromStr json = .ok keystore

/-- How a function does not return a value. -/
inductive Failure where
  | err (text : String)
  | panicked
  deriving DecidableEq

/-- A file's name, with the extension apart. -/
structure Path where
  parent : String
  stem : String
  extension : Option String
  deriving DecidableEq

/-- `Path::with_extension`. -/
def Path.withExtension (path : Path) (extension : String) : Path :=
  { path with extension := some extension }

/-- `keystore_path`. -/
def keystorePath (dataDir : String) : Path where
  parent := dataDir
  stem := "keystore"
  extension := some "enc"

/-- A file. -/
structure File where
  bytes : List UInt8
  mode : Nat
  deriving DecidableEq

/-- The files by their paths. -/
abbrev Files := Path → Option File

/-- What the file system does in one call: the errors of the operations, what a failed write
leaves behind, and the mode of a file that is created. -/
structure FileSystem where
  writeError : Option (String × Option File)
  createMode : Nat
  renameError : Option String
  permissionsError : Option String

/-- What the random number generator gives to one call. -/
structure Random where
  salt : Vector UInt8 16
  nonce : Nonce

/-- A password, and what the keystore file holds for it. -/
structure Wallet where
  password : String
  seed : Seed
  address : String
  deriving DecidableEq

/-- The text of some bytes in base64. -/
def encodeBase64 (bytes : List UInt8) : String := String.ofList (Base64.encode bytes)

variable (libs : Libraries Key)

/-- The bytes that a field spells. -/
def decodeBase64 (field text : String) : Except Failure (List UInt8) :=
  match Base64.decode text.toList with
  | some bytes => .ok bytes
  | none => .error (.err ("Invalid " ++ field ++ ": " ++ libs.decodeError text))

/-- `derive_key`. -/
def deriveKey (password : String) (salt : List UInt8) : Except Failure Key :=
  (libs.hashPassword (Utf8.bytes password) salt).mapError fun error =>
    .err ("Key derivation failed: " ++ error)

/-- A password has at least eight bytes. -/
def checkPassword (password : String) : Except Failure Unit :=
  if (Utf8.bytes password).length < 8 then
    .error (.err "Password must be at least 8 characters")
  else .ok ()

/-- The first part of `create_keystore`, up to the text of the file. -/
def keystoreJson (random : Random) (wallet : Wallet) : Except Failure String := do
  checkPassword wallet.password
  let derivedKey ← deriveKey libs wallet.password random.salt.toList
  let ciphertext ← (libs.encrypt derivedKey random.nonce wallet.seed.toList).mapError fun error =>
    .err ("Encryption failed: " ++ error)
  (libs.toStringPretty {
    version := 1
    kdf := "argon2id"
    kdfParams := {
      mCost := 65536
      tCost := 3
      pCost := 1
      salt := encodeBase64 random.salt.toList }
    cipher := "chacha20-poly1305"
    ciphertext := encodeBase64 ciphertext
    nonce := encodeBase64 random.nonce.toList
    address := wallet.address }).mapError .err

/-- The second part of `create_keystore`: a temporary file, the rename and the permissions. -/
def replaceFile (fs : FileSystem) (files : Files) (path : Path) (json : String) :
    Except Failure Unit × Files :=
  let tmpPath := path.withExtension "tmp"
  match fs.writeError with
  | some (error, left) => (.error (.err error), Function.update files tmpPath left)
  | none =>
      let file : File :=
        { bytes := Utf8.bytes json
          mode := ((files tmpPath).map File.mode).getD fs.createMode }
      match fs.renameError with
      | some error => (.error (.err error), Function.update files tmpPath (some file))
      | none =>
          let renamed := Function.update (Function.update files tmpPath none) path (some file)
          match fs.permissionsError with
          -- The new file stays in its place.
          | some error => (.error (.err error), renamed)
          | none => (.ok (), Function.update renamed path (some { file with mode := 0o600 }))

/-- `create_keystore`. -/
def createKeystore (random : Random) (fs : FileSystem) (files : Files) (wallet : Wallet)
    (path : Path) : Except Failure Unit × Files :=
  match keystoreJson libs random wallet with
  | .error failure => (.error failure, files)
  | .ok json => replaceFile fs files path json

/-- `std::fs::read_to_string`. -/
def readToString (readError : Option String) (file : Option File) : Except Failure String :=
  match readError with
  | some error => .error (.err error)
  | none =>
      match file with
      | none => .error (.err "No such file or directory (os error 2)")
      | some file =>
          match String.fromUTF8? ⟨file.bytes.toArray⟩ with
          | none => .error (.err "stream did not contain valid UTF-8")
          | some text => .ok text

/-- An array of a fixed length, if there are as many bytes. -/
def toArray? (n : Nat) (bytes : List UInt8) : Option (Vector UInt8 n) :=
  if h : bytes.length = n then some ⟨bytes.toArray, by simpa using h⟩ else none

/-- The decryption in `load_keystore`. -/
def decryptSeed (key : Key) (nonceBytes ciphertext : List UInt8) : Except Failure Seed :=
  match toArray? 12 nonceBytes with
  -- `Nonce::from_slice` asserts the length.
  | none => .error .panicked
  | some nonce =>
      match libs.decrypt key nonce ciphertext with
      | none => .error (.err "Decryption failed — wrong password?")
      | some plaintext =>
          match toArray? 32 plaintext with
          | none =>
              .error (.err ("Decrypted seed has wrong length: " ++ toString plaintext.length))
          | some seed => .ok seed

/-- Only the first version is supported. -/
def checkVersion (version : UInt32) : Except Failure Unit :=
  if version ≠ 1 then .error (.err ("Unsupported keystore version: " ++ toString version))
  else .ok ()

/-- The second part of `load_keystore`, with the text of the file. -/
def openKeystore (json password : String) : Except Failure (Seed × String) := do
  let keystore ← (libs.fromStr json).mapError .err
  checkVersion keystore.version
  let salt ← decodeBase64 libs "salt" keystore.kdfParams.salt
  let nonceBytes ← decodeBase64 libs "nonce" keystore.nonce
  let ciphertext ← decodeBase64 libs "ciphertext" keystore.ciphertext
  let derivedKey ← deriveKey libs password salt
  let seed ← decryptSeed libs derivedKey nonceBytes ciphertext
  .ok (seed, keystore.address)

/-- `load_keystore`. -/
def loadKeystore (readError : Option String) (files : Files) (path : Path) (password : String) :
    Except Failure (Seed × String) :=
  match readToString readError (files path) with
  | .error failure => .error failure
  | .ok json => openKeystore libs json password

/-! ## Changing the password -/

/-- The error of a prompt. -/
def promptFailure (error : String) : Failure := .err ("Password prompt failed: " ++ error)

/-- The error of a prompt when the terminal has nothing more. -/
def promptEnded : Failure := promptFailure "unexpected end of file"

/-- `prompt_password`: what is typed, and what is typed after it. -/
def promptPassword : List (Except String String) →
    Except Failure (String × List (Except String String))
  | [] => .error promptEnded
  | .error error :: _ => .error (promptFailure error)
  | .ok password :: typed => .ok (password, typed)

/-- `prompt_new_password`. -/
def promptNewPassword : List (Except String String) → Except Failure String
  | [] => .error promptEnded
  | .error error :: _ => .error (promptFailure error)
  | .ok first :: typed =>
      if (Utf8.bytes first).length < 8 then promptNewPassword typed
      else
        match typed with
        | [] => .error promptEnded
        | .error error :: _ => .error (promptFailure error)
        | .ok second :: typed =>
            if first ≠ second then promptNewPassword typed else .ok first

/-- The password of a flag, or the one that is typed. -/
def enterPassword (flag : Option String) (typed : List (Except String String)) :
    Except Failure (String × List (Except String String)) :=
  match flag with
  | some password => .ok (password, typed)
  | none => promptPassword typed

/-- The new password of a flag, or the one that is typed. -/
def enterNewPassword (flag : Option String) (typed : List (Except String String)) :
    Except Failure String :=
  match flag with
  | some password => (checkPassword password).map fun _ => password
  | none => promptNewPassword typed

/-- `cmd_change_password`. -/
def cmdChangePassword (random : Random) (readError : Option String) (fs : FileSystem)
    (files : Files) (oldPassword newPassword : Option String)
    (typed : List (Except String String)) (dataDir : String) : Except Failure Unit × Files :=
  let path := keystorePath dataDir
  if files path = none then (.error (.err "No wallet found. Run `can init` first."), files)
  else
    match enterPassword oldPassword typed with
    | .error failure => (.error failure, files)
    | .ok (oldPw, typed) =>
        match loadKeystore libs readError files path oldPw with
        | .error failure => (.error failure, files)
        | .ok (seed, address) =>
            match enterNewPassword newPassword typed with
            | .error failure => (.error failure, files)
            | .ok newPw =>
                createKeystore libs random fs files { password := newPw, seed, address } path

/-- The file opens with the password to the seed and the address. -/
def Opens (files : Files) (path : Path) (wallet : Wallet) : Prop :=
  loadKeystore libs none files path wallet.password = .ok (wallet.seed, wallet.address)

/-- `create_keystore` gets as far as the permissions. -/
def Replaces (random : Random) (fs : FileSystem) (wallet : Wallet) : Prop :=
  (∃ json, keystoreJson libs random wallet = .ok json) ∧
    fs.writeError = none ∧ fs.renameError = none

/-- `create_keystore` fails after the rename. -/
def FailsLate (random : Random) (fs : FileSystem) (wallet : Wallet) : Prop :=
  Replaces libs random fs wallet ∧ fs.permissionsError ≠ none

/-- What a change of the wallet should leave: the old one behind an error, and the new one
otherwise. -/
def KeptOrReplaced (outcome : Except Failure Unit × Files) (path : Path) (old new : Wallet) :
    Prop :=
  match outcome.1 with
  | .ok () => Opens libs outcome.2 path new
  | .error _ => Opens libs outcome.2 path old

/-- What a change of the password should leave, if `entered` is what the new one is read from. -/
def KeptOrChanged (outcome : Except Failure Unit × Files) (path : Path) (old : Wallet)
    (entered : Except Failure String) : Prop :=
  match outcome.1 with
  | .ok () => ∃ password, entered = .ok password ∧ Opens libs outcome.2 path { old with password }
  | .error _ => Opens libs outcome.2 path old

/-! ## Opening what was written -/

variable {libs}

/-- A field is read back to the bytes that it was written from. -/
theorem decode_encode_base64 (field : String) (bytes : List UInt8) :
    decodeBase64 libs field (encodeBase64 bytes) = .ok bytes := by
  simp [decodeBase64, encodeBase64, Base64.decode_encode]

/-- A key derivation that fails returns an error. -/
theorem derive_key_error {password : String} {salt : List UInt8} {failure : Failure}
    (h : deriveKey libs password salt = .error failure) : ∃ text, failure = .err text := by
  unfold deriveKey at h
  cases hhash : libs.hashPassword (Utf8.bytes password) salt with
  | error error =>
      rw [hhash] at h
      cases h
      exact ⟨_, rfl⟩
  | ok key =>
      rw [hhash] at h
      cases h

@[simp] theorem to_array_to_list {n : Nat} (array : Vector UInt8 n) :
    toArray? n array.toList = some array := by
  unfold toArray?
  rw [dif_pos array.length_toList]
  rfl

/-- An array has the bytes that it was made of. -/
theorem to_list_of_to_array {n : Nat} {bytes : List UInt8} {array : Vector UInt8 n}
    (h : toArray? n bytes = some array) : array.toList = bytes := by
  unfold toArray? at h
  split at h
  · cases h
    rfl
  · cases h

/-- What is read back from the text of a wallet. -/
theorem open_keystore_json (hideal : libs.Ideal) {random : Random} {wallet : Wallet}
    {json : String} (h : keystoreJson libs random wallet = .ok json) :
    openKeystore libs json wallet.password = .ok (wallet.seed, wallet.address) ∧
      ∀ other, other ≠ wallet.password → ∃ text, openKeystore libs json other = .error (.err text) := by
  simp only [keystoreJson, bind_eq_ok, map_error_eq_ok] at h
  obtain ⟨_, _, key, hkey, ciphertext, hciphertext, hjson⟩ := h
  have hopen : ∀ password, openKeystore libs json password =
      (deriveKey libs password random.salt.toList).bind fun derivedKey =>
        (decryptSeed libs derivedKey random.nonce.toList ciphertext).bind fun seed =>
          .ok (seed, wallet.address) := by
    intro password
    simp [openKeystore, checkVersion, hideal.from_to_string hjson, decode_encode_base64,
      Except.mapError, bind, Except.bind]
  constructor
  · rw [hopen, hkey]
    simp [decryptSeed, hideal.decrypt_encrypt hciphertext, Except.bind]
  · intro other hother
    rw [hopen]
    cases hderive : deriveKey libs other random.salt.toList with
    | error failure =>
        obtain ⟨text, rfl⟩ := derive_key_error hderive
        exact ⟨text, rfl⟩
    | ok otherKey =>
        have hne : otherKey ≠ key := by
          rintro rfl
          have hbytes := hideal.hash_inj (map_error_eq_ok.mp hderive) (map_error_eq_ok.mp hkey)
          exact hother (Utf8.bytes_inj hbytes)
        refine ⟨"Decryption failed — wrong password?", ?_⟩
        simp [decryptSeed, hideal.decrypt_other hciphertext hne, Except.bind]

/-! ## Replacing the file -/

/-- A file is loaded from its bytes. -/
theorem load_keystore_of_bytes {files : Files} {path : Path} {file : File} {json : String}
    (hfile : files path = some file) (hbytes : file.bytes = Utf8.bytes json) (password : String) :
    loadKeystore libs none files path password = openKeystore libs json password := by
  simp [loadKeystore, readToString, hfile, hbytes, Utf8.from_utf8_bytes]

/-- A file that did not change is loaded as before. -/
theorem load_keystore_congr {files others : Files} {path : Path} (h : others path = files path)
    (password : String) :
    loadKeystore libs none others path password = loadKeystore libs none files path password := by
  rw [loadKeystore, h]
  rfl

/-- What opens is there. -/
theorem Opens.file_ne_none {files : Files} {path : Path} {wallet : Wallet}
    (hwallet : Opens libs files path wallet) : files path ≠ none := by
  intro hnone
  simp [Opens, loadKeystore, readToString, hnone] at hwallet

/-- The temporary file of the keystore is another file. -/
theorem with_extension_ne (dataDir : String) :
    (keystorePath dataDir).withExtension "tmp" ≠ keystorePath dataDir := by
  intro h
  exact absurd (congrArg Path.extension h) (by simp [keystorePath, Path.withExtension])

/-- The second part of `create_keystore` leaves the file as it was, or replaces it and then sets
its permissions. -/
theorem replace_file_cases (fs : FileSystem) (files : Files) {path : Path} (json : String)
    (htmp : path.withExtension "tmp" ≠ path) :
    (¬ (fs.writeError = none ∧ fs.renameError = none) ∧
        (∃ failure, (replaceFile fs files path json).1 = .error failure) ∧
        (replaceFile fs files path json).2 path = files path) ∨
      (fs.writeError = none ∧ fs.renameError = none ∧
        (∃ file, (replaceFile fs files path json).2 path = some file ∧
          file.bytes = Utf8.bytes json) ∧
        (replaceFile fs files path json).1 =
          match fs.permissionsError with
          | some error => .error (.err error)
          | none => .ok ()) := by
  unfold replaceFile
  dsimp only
  cases fs.writeError with
  | some failed =>
      refine .inl ⟨fun h => (by cases h.1), ⟨_, rfl⟩, ?_⟩
      exact Function.update_of_ne htmp.symm _ _
  | none =>
      cases fs.renameError with
      | some error =>
          refine .inl ⟨fun h => (by cases h.2), ⟨_, rfl⟩, ?_⟩
          exact Function.update_of_ne htmp.symm _ _
      | none =>
          refine .inr ⟨rfl, rfl, ?_⟩
          cases fs.permissionsError with
          | some error => exact ⟨⟨_, Function.update_self .., rfl⟩, rfl⟩
          | none => exact ⟨⟨_, Function.update_self .., rfl⟩, rfl⟩

/-- `create_keystore` leaves the file as it was, or the file opens with the new password and no
other one. -/
theorem create_keystore_cases (hideal : libs.Ideal) (random : Random) (fs : FileSystem)
    (files : Files) (wallet : Wallet) {path : Path} (htmp : path.withExtension "tmp" ≠ path) :
    (¬ Replaces libs random fs wallet ∧
        (∃ failure, (createKeystore libs random fs files wallet path).1 = .error failure) ∧
        (createKeystore libs random fs files wallet path).2 path = files path) ∨
      (Replaces libs random fs wallet ∧
        Opens libs (createKeystore libs random fs files wallet path).2 path wallet ∧
        (∀ other, other ≠ wallet.password → ∃ text,
          loadKeystore libs none (createKeystore libs random fs files wallet path).2 path other =
            .error (.err text)) ∧
        (createKeystore libs random fs files wallet path).1 =
          match fs.permissionsError with
          | some error => .error (.err error)
          | none => .ok ()) := by
  cases hjson : keystoreJson libs random wallet with
  | error failure =>
      refine .inl ⟨fun h => ?_, ⟨failure, by simp [createKeystore, hjson]⟩, ?_⟩
      · obtain ⟨⟨_, hok⟩, _⟩ := h
        rw [hjson] at hok
        cases hok
      · simp [createKeystore, hjson]
  | ok json =>
      have hcreate : createKeystore libs random fs files wallet path =
          replaceFile fs files path json := by
        simp [createKeystore, hjson]
      rw [hcreate]
      obtain ⟨hfails, herror, hkept⟩ | ⟨hwrite, hrename, ⟨file, hfile, hbytes⟩, hresult⟩ :=
        replace_file_cases fs files json htmp
      · exact .inl ⟨fun h => hfails h.2, herror, hkept⟩
      · have hload : ∀ password, loadKeystore libs none (replaceFile fs files path json).2 path
              password = openKeystore libs json password :=
          load_keystore_of_bytes hfile hbytes
        obtain ⟨hopen, hothers⟩ := open_keystore_json hideal hjson
        refine .inr ⟨⟨⟨json, hjson⟩, hwrite, hrename⟩, ?_, fun other hother => ?_, hresult⟩
        · exact (hload wallet.password).trans hopen
        · rw [hload]
          exact hothers other hother

/-- A file opens with a password to one seed and address. -/
theorem Opens.eq_of_password {files : Files} {path : Path} {wallet other : Wallet}
    (hwallet : Opens libs files path wallet) (hother : Opens libs files path other)
    (hpassword : wallet.password = other.password) : wallet = other := by
  unfold Opens at hwallet hother
  rw [hpassword, hother] at hwallet
  cases wallet
  cases other
  cases hpassword
  cases hwallet
  rfl

/-- `create_keystore` is safe unless the permissions cannot be set. -/
theorem create_safe_iff (hideal : libs.Ideal) (random : Random) (fs : FileSystem) {files : Files}
    {path : Path} {old : Wallet} (new : Wallet) (htmp : path.withExtension "tmp" ≠ path)
    (hold : Opens libs files path old) :
    KeptOrReplaced libs (createKeystore libs random fs files new path) path old new ↔
      ¬ (FailsLate libs random fs new ∧ new ≠ old) := by
  unfold KeptOrReplaced
  obtain ⟨hfails, ⟨failure, herror⟩, hkept⟩ | ⟨hreplaces, hopen, hothers, hresult⟩ :=
    create_keystore_cases hideal random fs files new htmp
  · rw [herror]
    refine ⟨fun _ h => hfails h.1.1, fun _ => ?_⟩
    exact (load_keystore_congr hkept old.password).trans hold
  · rw [hresult]
    cases hpermissions : fs.permissionsError with
    | none => exact ⟨fun _ h => h.1.2 hpermissions, fun _ => hopen⟩
    | some error =>
        dsimp only
        constructor
        · intro hstill ⟨_, hne⟩
          refine hne (hopen.eq_of_password hstill ?_)
          by_contra hpassword
          obtain ⟨text, hclosed⟩ := hothers old.password (Ne.symm hpassword)
          rw [Opens, hclosed] at hstill
          cases hstill
        · intro h
          have heq : new = old := by
            by_contra hne
            exact h ⟨⟨hreplaces, by simp [hpermissions]⟩, hne⟩
          rw [← heq]
          exact hopen

/-- A change that reads the wallet creates the keystore again with the password that is
entered. -/
theorem change_password_eq (random : Random) (fs : FileSystem) {files : Files}
    {oldPassword newPassword : Option String} {typed rest : List (Except String String)}
    {dataDir : String} {old : Wallet}
    (hentered : enterPassword oldPassword typed = .ok (old.password, rest))
    (hold : Opens libs files (keystorePath dataDir) old) :
    cmdChangePassword libs random none fs files oldPassword newPassword typed dataDir =
      match enterNewPassword newPassword rest with
      | .error failure => (.error failure, files)
      | .ok password =>
          createKeystore libs random fs files { old with password } (keystorePath dataDir) := by
  have hexists := hold.file_ne_none
  unfold cmdChangePassword
  dsimp only
  rw [if_neg hexists, hentered]
  dsimp only
  rw [hold]

/-- A change that cannot read the wallet leaves it as it was. -/
theorem change_password_read_error (random : Random) (error : String) (fs : FileSystem)
    (files : Files) (oldPassword newPassword : Option String)
    (typed : List (Except String String)) (dataDir : String) :
    ∃ failure,
      cmdChangePassword libs random (some error) fs files oldPassword newPassword typed dataDir =
        (.error failure, files) := by
  unfold cmdChangePassword
  dsimp only
  split
  · exact ⟨_, rfl⟩
  · cases enterPassword oldPassword typed with
    | error failure => exact ⟨failure, rfl⟩
    | ok entered => exact ⟨.err error, rfl⟩

/-- A change with a password that does not open the wallet leaves it as it was. -/
theorem change_password_of_not_opens (random : Random) (readError : Option String)
    (fs : FileSystem) (files : Files) (oldPassword newPassword : Option String)
    (typed : List (Except String String)) (dataDir : String)
    (h : ∀ old rest, enterPassword oldPassword typed = .ok (old.password, rest) →
      ¬ Opens libs files (keystorePath dataDir) old) :
    ∃ failure,
      cmdChangePassword libs random readError fs files oldPassword newPassword typed dataDir =
        (.error failure, files) := by
  cases readError with
  | some error => exact change_password_read_error ..
  | none =>
      unfold cmdChangePassword
      dsimp only
      split
      · exact ⟨_, rfl⟩
      · cases hentered : enterPassword oldPassword typed with
        | error failure => exact ⟨failure, rfl⟩
        | ok entered =>
            obtain ⟨password, rest⟩ := entered
            dsimp only
            cases hload : loadKeystore libs none files (keystorePath dataDir) password with
            | error failure => exact ⟨failure, rfl⟩
            | ok identity => exact absurd hload (h ⟨password, identity.1, identity.2⟩ rest hentered)

/-- A change of the password is safe unless the permissions cannot be set. -/
theorem change_safe_iff (hideal : libs.Ideal) (random : Random) (readError : Option String)
    (fs : FileSystem) {files : Files} {oldPassword newPassword : Option String}
    {typed rest : List (Except String String)} {dataDir : String} {old : Wallet}
    (hentered : enterPassword oldPassword typed = .ok (old.password, rest))
    (hold : Opens libs files (keystorePath dataDir) old) :
    KeptOrChanged libs
        (cmdChangePassword libs random readError fs files oldPassword newPassword typed dataDir)
        (keystorePath dataDir) old (enterNewPassword newPassword rest) ↔
      ¬ (readError = none ∧ ∃ password, enterNewPassword newPassword rest = .ok password ∧
        FailsLate libs random fs { old with password } ∧ password ≠ old.password) := by
  cases readError with
  | some error =>
      obtain ⟨failure, hfailure⟩ : ∃ failure, cmdChangePassword libs random (some error) fs files
          oldPassword newPassword typed dataDir = (.error failure, files) :=
        change_password_read_error ..
      rw [hfailure]
      exact ⟨fun _ h => (by cases h.1), fun _ => hold⟩
  | none =>
      rw [change_password_eq random fs hentered hold]
      cases hnew : enterNewPassword newPassword rest with
      | error failure =>
          refine ⟨fun _ h => ?_, fun _ => hold⟩
          obtain ⟨_, _, h, _⟩ := h
          cases h
      | ok password =>
          have hsafe := create_safe_iff hideal random fs { old with password }
            (with_extension_ne dataDir) hold
          have hne : ({ old with password } : Wallet) ≠ old ↔ password ≠ old.password := by
            constructor
            · rintro h rfl
              exact h rfl
            · intro h heq
              exact h (congrArg Wallet.password heq)
          have hchanged : ∀ outcome, KeptOrChanged libs outcome (keystorePath dataDir) old
                (.ok password) ↔
              KeptOrReplaced libs outcome (keystorePath dataDir) old { old with password } := by
            intro outcome
            unfold KeptOrChanged KeptOrReplaced
            cases outcome.1 with
            | error failure => exact Iff.rfl
            | ok _ => simp
          rw [hchanged, hsafe, hne]
          simp

/-- A keystore that was created opens with its password to its seed and address, and with no other
password. When the keystore is replaced, an error leaves a file that opens as before, and a
success one that opens with the new password, unless the permissions of the new file cannot be
set: then the error comes after the rename. -/
theorem replacement_safe_iff (libs : Libraries Key) (hideal : libs.Ideal) (random : Random)
    (fs : FileSystem) (files : Files) (dataDir : String) :
    (∀ wallet,
      (createKeystore libs random fs files wallet (keystorePath dataDir)).1 = .ok () →
        Opens libs (createKeystore libs random fs files wallet (keystorePath dataDir)).2
            (keystorePath dataDir) wallet ∧
          ∀ other, other ≠ wallet.password → ∃ text,
            loadKeystore libs none
                (createKeystore libs random fs files wallet (keystorePath dataDir)).2
                (keystorePath dataDir) other =
              .error (.err text)) ∧
    (∀ old new, Opens libs files (keystorePath dataDir) old →
      (KeptOrReplaced libs (createKeystore libs random fs files new (keystorePath dataDir))
          (keystorePath dataDir) old new ↔
        ¬ (FailsLate libs random fs new ∧ new ≠ old))) ∧
    ∀ readError oldPassword newPassword typed,
      (∀ old rest, enterPassword oldPassword typed = .ok (old.password, rest) →
        Opens libs files (keystorePath dataDir) old →
          (KeptOrChanged libs
              (cmdChangePassword libs random readError fs files oldPassword newPassword typed
                dataDir)
              (keystorePath dataDir) old (enterNewPassword newPassword rest) ↔
            ¬ (readError = none ∧ ∃ password, enterNewPassword newPassword rest = .ok password ∧
              FailsLate libs random fs { old with password } ∧ password ≠ old.password))) ∧
      ((∀ old rest, enterPassword oldPassword typed = .ok (old.password, rest) →
        ¬ Opens libs files (keystorePath dataDir) old) →
          ∃ failure,
            cmdChangePassword libs random readError fs files oldPassword newPassword typed
                dataDir =
              (.error failure, files)) := by
  refine ⟨fun wallet hok => ?_, fun old new hold => ?_, fun readError oldPassword newPassword typed =>
    ⟨fun old rest hentered hold => ?_, fun h => ?_⟩⟩
  · obtain ⟨_, ⟨failure, herror⟩, _⟩ | ⟨_, hopen, hothers, _⟩ :=
      create_keystore_cases hideal random fs files wallet (with_extension_ne dataDir)
    · rw [hok] at herror
      cases herror
    · exact ⟨hopen, hothers⟩
  · exact create_safe_iff hideal random fs new (with_extension_ne dataDir) hold
  · exact change_safe_iff hideal random readError fs hentered hold
  · exact change_password_of_not_opens random readError fs files oldPassword newPassword typed
      dataDir h

/-! ## A sample -/

/-- The text between two others. -/
def between (header trailer text : String) : String :=
  String.ofList ((text.toList.drop header.toList.length).take
    (text.toList.length - header.toList.length - trailer.toList.length))

theorem between_append (header trailer text : String) :
    between header trailer (header ++ text ++ trailer) = text := by
  have hlength : header.toList.length + (text.toList.length + trailer.toList.length) -
      header.toList.length - trailer.toList.length = text.toList.length := by omega
  simp only [between, String.toList_append, List.append_assoc, List.length_append, hlength,
    List.drop_left, List.take_left, String.ofList_toList]

/-- A salt and a nonce. -/
def sampleRandom : Random where
  salt := Vector.replicate 16 0
  nonce := Vector.replicate 12 0

/-- The keystores that the sample writes. -/
def sampleKeystore (ciphertext : String) : Keystore where
  version := 1
  kdf := "argon2id"
  kdfParams := {
    mCost := 65536
    tCost := 3
    pCost := 1
    salt := encodeBase64 sampleRandom.salt.toList }
  cipher := "chacha20-poly1305"
  ciphertext := ciphertext
  nonce := encodeBase64 sampleRandom.nonce.toList
  address := "ADDR"

/-- The text before the ciphertext. -/
def sampleHeader : String :=
  "\x7b\n  \"version\": 1,\n  \"kdf\": \"argon2id\",\n  \"kdf_params\": \x7b\n" ++
  "    \"m_cost\": 65536,\n    \"t_cost\": 3,\n    \"p_cost\": 1,\n" ++
  "    \"salt\": \"AAAAAAAAAAAAAAAAAAAAAA==\"\n  \x7d,\n" ++
  "  \"cipher\": \"chacha20-poly1305\",\n  \"ciphertext\": \""

/-- The text behind the ciphertext. -/
def sampleTrailer : String :=
  "\",\n  \"nonce\": \"AAAAAAAAAAAAAAAA\",\n  \"address\": \"ADDR\"\n\x7d"

/-- Libraries whose keys are the passwords of eight bytes, with the key as the tag of a
ciphertext. -/
def sampleLibraries : Libraries (List UInt8) where
  hashPassword password _ := .ok password
  encrypt key _ plaintext :=
    if key.length = 8 then .ok (key ++ plaintext) else .error "aead::Error"
  decrypt key _ ciphertext :=
    if key.length = 8 ∧ ciphertext.take 8 = key then some (ciphertext.drop 8) else none
  toStringPretty keystore :=
    if keystore = sampleKeystore keystore.ciphertext then
      .ok (sampleHeader ++ keystore.ciphertext ++ sampleTrailer)
    else .error "unsupported"
  fromStr json := .ok (sampleKeystore (between sampleHeader sampleTrailer json))
  decodeError _ := "Invalid padding"

theorem sample_ideal : sampleLibraries.Ideal where
  hash_inj h hother := (Except.ok.inj h).trans (Except.ok.inj hother).symm
  decrypt_encrypt {key nonce plaintext ciphertext} h := by
    simp only [sampleLibraries] at h ⊢
    split at h
    · rename_i hlength
      cases h
      simp [hlength, List.take_left' hlength, List.drop_left' hlength]
    · cases h
  decrypt_other {key other nonce plaintext ciphertext} h hother := by
    simp only [sampleLibraries] at h ⊢
    split at h
    · rename_i hlength
      cases h
      rw [List.take_left' hlength, if_neg fun h => hother h.2.symm]
    · cases h
  from_to_string {keystore json} h := by
    simp only [sampleLibraries] at h ⊢
    split at h
    · rename_i hkeystore
      cases h
      rw [between_append, ← hkeystore]
    · cases h

/-- A password of eight bytes encrypts a wallet. -/
theorem sample_json {wallet : Wallet} (hpassword : (Utf8.bytes wallet.password).length = 8)
    (haddress : wallet.address = "ADDR") :
    ∃ json, keystoreJson sampleLibraries sampleRandom wallet = .ok json := by
  have hcheck : checkPassword wallet.password = .ok () := by
    rw [checkPassword, if_neg (by omega)]
  refine ⟨sampleHeader ++ encodeBase64 (Utf8.bytes wallet.password ++ wallet.seed.toList) ++
    sampleTrailer, ?_⟩
  simp only [keystoreJson, bind_eq_ok, map_error_eq_ok]
  refine ⟨(), hcheck, Utf8.bytes wallet.password, rfl, _, if_pos hpassword, ?_⟩
  rw [haddress]
  exact if_pos rfl

/-- A file system on which everything works, but for the permissions if there is an error. -/
def sampleFileSystem (permissionsError : Option String) : FileSystem where
  writeError := none
  createMode := 0o644
  renameError := none
  permissionsError := permissionsError

/-- A wallet with the address of the sample. -/
def sampleWallet (password : String) : Wallet where
  password := password
  seed := Vector.replicate 32 1
  address := "ADDR"

/-- The files after the wallet was created. -/
def sampleFiles : Files :=
  (createKeystore sampleLibraries sampleRandom (sampleFileSystem none) (fun _ => none)
    (sampleWallet "password") (keystorePath "data")).2

/-- A wallet of the sample gets as far as the permissions. -/
theorem sample_replaces {password : String} (h : (Utf8.bytes password).length = 8)
    (permissionsError : Option String) :
    Replaces sampleLibraries sampleRandom (sampleFileSystem permissionsError)
      (sampleWallet password) :=
  ⟨sample_json h rfl, rfl, rfl⟩

/-- What `create_keystore` does with the wallet of the sample. -/
theorem sample_created {password : String} (h : (Utf8.bytes password).length = 8)
    (permissionsError : Option String) (files : Files) :
    let outcome := createKeystore sampleLibraries sampleRandom (sampleFileSystem permissionsError)
      files (sampleWallet password) (keystorePath "data")
    Opens sampleLibraries outcome.2 (keystorePath "data") (sampleWallet password) ∧
      (∀ other, other ≠ password →
        ¬ Opens sampleLibraries outcome.2 (keystorePath "data") (sampleWallet other)) ∧
      outcome.1 = match permissionsError with
        | some error => .error (.err error)
        | none => .ok () := by
  obtain ⟨hfails, _⟩ | ⟨_, hopen, hothers, hresult⟩ := create_keystore_cases sample_ideal sampleRandom
    (sampleFileSystem permissionsError) files (sampleWallet password) (with_extension_ne "data")
  · exact absurd (sample_replaces h permissionsError) hfails
  · refine ⟨hopen, fun other hother hstill => ?_, hresult⟩
    obtain ⟨text, hclosed⟩ := hothers other hother
    have herror := hclosed.symm.trans hstill
    cases herror

/-- A flag with a password of eight bytes is taken as it is. -/
theorem enter_new_password_flag {password : String} (h : (Utf8.bytes password).length = 8)
    (typed : List (Except String String)) :
    enterNewPassword (some password) typed = .ok password := by
  simp [enterNewPassword, checkPassword, h, Except.map]

theorem length_old_password : (Utf8.bytes "password").length = 8 := by decide

theorem length_new_password : (Utf8.bytes "passw0rd").length = 8 := by decide

/-- A wallet that is created, and whose password is then changed. -/
theorem sample_changed :
    Opens sampleLibraries sampleFiles (keystorePath "data") (sampleWallet "password") ∧
      KeptOrChanged sampleLibraries
        (cmdChangePassword sampleLibraries sampleRandom none (sampleFileSystem none) sampleFiles
          (some "password") (some "passw0rd") [] "data")
        (keystorePath "data") (sampleWallet "password")
        (enterNewPassword (some "passw0rd") []) := by
  have hcreated := (sample_created length_old_password none fun _ => none).2.2
  have hopens := ((replacement_safe_iff sampleLibraries sample_ideal sampleRandom
    (sampleFileSystem none) (fun _ => none) "data").1 (sampleWallet "password") hcreated).1
  refine ⟨hopens, ?_⟩
  have hsafe := ((replacement_safe_iff sampleLibraries sample_ideal sampleRandom
    (sampleFileSystem none) sampleFiles "data").2.2 none (some "password") (some "passw0rd") []).1
      (sampleWallet "password") [] rfl hopens
  rw [hsafe]
  intro h
  obtain ⟨_, _, _, hlate, _⟩ := h
  exact hlate.2 rfl

/-- A change of the password that fails because the permissions cannot be set leaves a file that
opens with the new password and not with the old one. -/
theorem permissions_error_locks_out :
    let outcome := cmdChangePassword sampleLibraries sampleRandom none
      (sampleFileSystem (some "Operation not permitted (os error 1)")) sampleFiles
      (some "password") (some "passw0rd") [] "data"
    Opens sampleLibraries sampleFiles (keystorePath "data") (sampleWallet "password") ∧
      outcome.1 = .error (.err "Operation not permitted (os error 1)") ∧
      ¬ Opens sampleLibraries outcome.2 (keystorePath "data") (sampleWallet "password") ∧
      Opens sampleLibraries outcome.2 (keystorePath "data") (sampleWallet "passw0rd") := by
  have hold : Opens sampleLibraries sampleFiles (keystorePath "data") (sampleWallet "password") :=
    (sample_created length_old_password none fun _ => none).1
  obtain ⟨hnew, hothers, herror⟩ := sample_created length_new_password
    (some "Operation not permitted (os error 1)") sampleFiles
  have hentered : enterPassword (some "password") [] = .ok ((sampleWallet "password").password, []) :=
    rfl
  have hchange : cmdChangePassword sampleLibraries sampleRandom none
      (sampleFileSystem (some "Operation not permitted (os error 1)")) sampleFiles
      (some "password") (some "passw0rd") [] "data" =
        createKeystore sampleLibraries sampleRandom
          (sampleFileSystem (some "Operation not permitted (os error 1)")) sampleFiles
          (sampleWallet "passw0rd") (keystorePath "data") := by
    rw [change_password_eq _ _ hentered hold, enter_new_password_flag length_new_password]
    rfl
  rw [hchange]
  exact ⟨hold, herror, hothers "password" (by decide), hnew⟩

end CorvidNano.Agent.KeystoreFile
