import CorvidNano.Agent.ConfigFile
import CorvidNano.Agent.Identity

/-!
# The commands of the wallet

`can setup` with its wizard in `wizard.rs`, and `can import` and `can change-password` in `main.rs`.
What is entered at a prompt, and which operation of the file system fails, is given with each
command.

For its user the keystore is one wallet, or none: `wallet_of_run` says that the files have what the
commands make of it. `wallet_survives` is the first main result: no command loses a wallet.
`phrase_restores` is the second: the phrase that the wizard shows gives the wallet back on another
machine.
-/

namespace CorvidNano.Agent.WalletCommands

open ConfigFile Agent.Configuration Identity KeystoreFile
open Fallible (bind_eq_ok map_error_eq_ok)
open Mnemonic (Seed mnemonicToSeed seedToMnemonic)

/-! ## The wizard -/

/-- `WizardConfig`. -/
structure WizardConfig where
  network : Option Network
  generate : Bool
  importMnemonic : Option String
  importSeed : Option String
  password : Option String
  dataDir : String

/-- `WizardResult`. -/
structure WizardResult where
  network : Network
  address : String
  keystorePath : String

/-- The ways to a wallet that the wizard offers. -/
inductive WalletChoice where
  | generate
  | importMnemonic
  | importSeed

/-- What is entered at the prompts of the wizard, or the error of a prompt. After the passwords the
prompt fails with the last error. -/
structure Answers where
  network : Except String Network
  choice : Except String WalletChoice
  mnemonic : Except String String
  seedHex : Except String String
  passwords : List String
  ended : String

/-- What a command meets: whether the data directory can be created, the seed and the bytes that
are drawn, and what the file system does with the keystore and with `nano.toml`. -/
structure Circumstances where
  createDirError : Option String
  generated : Seed
  random : Random
  fs : FileSystem
  configFs : FileSystem

/-- `Path::display`. -/
def display (path : Path) : String :=
  let name := path.stem ++ (path.extension.map fun extension => "." ++ extension).getD ""
  if path.parent = "" ∨ path.parent.toList.getLast? = some '/' then path.parent ++ name
  else path.parent ++ "/" ++ name

/-- `std::fs::create_dir_all`. -/
def createDirAll (circumstances : Circumstances) : Except Failure Unit :=
  match circumstances.createDirError with
  | some error => .error (.err error)
  | none => .ok ()

variable (keys : Keys)

/-- `select_network`. -/
def selectNetwork (preset : Option Network) (answers : Answers) : Except Failure Network :=
  match preset with
  | some network => .ok network
  | none => answers.network.mapError .err

/-- The seed that some hexadecimal digits spell. -/
def seedOfHex (text : String) : Except Failure Seed :=
  match Digits.hexDecode text.toList with
  | none => .error (.err ("Invalid hex: " ++ keys.hexError text))
  | some bytes =>
      match toArray? 32 bytes with
      | none =>
          .error (.err ("Seed must be 32 bytes (64 hex chars), got " ++ toString bytes.length))
      | some seed => .ok seed

/-- `mnemonic_to_seed`, with its errors as those of a command. -/
def seedOfMnemonic (mnemonic : String) : Except Failure Seed :=
  (mnemonicToSeed keys.sha mnemonic.toList).mapError .err

/-- A wallet with a new seed and its phrase. -/
def generateWallet (generated : Seed) : Except Failure (Seed × String × Option String) :=
  match seedToMnemonic keys.sha generated with
  | none => .error .panicked
  | some phrase =>
      .ok (generated, addressFromSeed keys generated, some (String.ofList phrase))

/-- A wallet with a seed that there is already. -/
def importWallet (seed : Except Failure Seed) : Except Failure (Seed × String × Option String) :=
  seed.map fun seed => (seed, addressFromSeed keys seed, none)

/-- The part of `create_or_import_wallet` that asks the user. -/
def chooseWallet (answers : Answers) (generated : Seed) :
    Except Failure (Seed × String × Option String) :=
  match answers.choice with
  | .error error => .error (.err error)
  | .ok .generate => generateWallet keys generated
  | .ok .importMnemonic =>
      importWallet keys ((answers.mnemonic.mapError .err).bind (seedOfMnemonic keys))
  | .ok .importSeed =>
      importWallet keys ((answers.seedHex.mapError .err).bind (seedOfHex keys))

/-- `create_or_import_wallet`. -/
def createOrImportWallet (config : WizardConfig) (answers : Answers) (generated : Seed) :
    Except Failure (Seed × String × Option String) :=
  if config.generate then generateWallet keys generated
  else
    match config.importMnemonic with
    | some mnemonic => importWallet keys (seedOfMnemonic keys mnemonic)
    | none =>
        match config.importSeed with
        | some text => importWallet keys (seedOfHex keys text)
        | none => chooseWallet keys answers generated

/-- The loop of `get_password`. -/
def interactPassword (ended : String) : List String → Except Failure String
  | [] => .error (.err ended)
  | first :: typed =>
      if (Utf8.bytes first).length < 8 then interactPassword ended typed
      else
        match typed with
        | [] => .error (.err ended)
        | second :: typed => if first ≠ second then interactPassword ended typed else .ok first

/-- `get_password`. -/
def getPassword (password : Option String) (answers : Answers) : Except Failure String :=
  match password with
  | some password => (checkPassword password).map fun _ => password
  | none => interactPassword answers.ended answers.passwords

/-- How the wizard ends, the files after it, and the recovery phrase if it has shown one. -/
structure Outcome where
  result : Except Failure WizardResult
  files : Files
  shown : Option String

variable {Key Plugins : Type} (libs : Libraries Key) (toml : Toml Plugins)

/-- The step of the wizard that writes `nano.toml`. -/
def writeConfig (fs : FileSystem) (files : Files) (dataDir : String) (network : Network) :
    Except Failure Unit × Files :=
  if files (configPath dataDir) ≠ none then (.ok (), files)
  else save toml fs files dataDir (forNewAgent "can" network.display, toml.noPlugins)

/-- `run_wizard`. -/
def runWizard (config : WizardConfig) (answers : Answers) (circumstances : Circumstances)
    (files : Files) : Outcome :=
  match createDirAll circumstances with
  | .error failure => ⟨.error failure, files, none⟩
  | .ok () =>
      let path := keystorePath config.dataDir
      if files path ≠ none then
        ⟨.error (.err ("Wallet already exists at " ++ display path ++
          ". Delete it first or use `can import`.")), files, none⟩
      else
        match selectNetwork config.network answers with
        | .error failure => ⟨.error failure, files, none⟩
        | .ok network =>
            match createOrImportWallet keys config answers circumstances.generated with
            | .error failure => ⟨.error failure, files, none⟩
            | .ok (seed, address, mnemonic) =>
                -- The phrase is shown before there is a password.
                match getPassword config.password answers with
                | .error failure => ⟨.error failure, files, mnemonic⟩
                | .ok password =>
                    match createKeystore libs circumstances.random circumstances.fs files
                        { password, seed, address } path with
                    | (.error failure, files) => ⟨.error failure, files, mnemonic⟩
                    | (.ok (), files) =>
                        match writeConfig toml circumstances.configFs files config.dataDir
                            network with
                        | (.error failure, files) => ⟨.error failure, files, mnemonic⟩
                        | (.ok (), files) =>
                            ⟨.ok ⟨network, address, display path⟩, files, mnemonic⟩

/-! ## `can import` -/

/-- The arguments of `can import`, and what is typed at its prompts. -/
structure ImportArgs where
  mnemonic : Option String
  seedHex : Option String
  password : Option String
  typed : List (Except String String)

/-- The seed that is imported. -/
def importedSeed (args : ImportArgs) : Except Failure Seed :=
  match args.mnemonic with
  | some mnemonic => seedOfMnemonic keys mnemonic
  | none =>
      match args.seedHex with
      | some text => seedOfHex keys text
      | none => .error (.err "Provide either --mnemonic or --seed")

/-- `cmd_import`. -/
def cmdImport (args : ImportArgs) (circumstances : Circumstances) (dataDir : String)
    (files : Files) : Except Failure Unit × Files :=
  match createDirAll circumstances with
  | .error failure => (.error failure, files)
  | .ok () =>
      let path := keystorePath dataDir
      if files path ≠ none then
        (.error (.err ("Wallet already exists at " ++ display path ++
          ". Delete it first to reimport.")), files)
      else
        match importedSeed keys args with
        | .error failure => (.error failure, files)
        | .ok seed =>
            match enterNewPassword args.password args.typed with
            | .error failure => (.error failure, files)
            | .ok password =>
                createKeystore libs circumstances.random circumstances.fs files
                  { password, seed, address := addressFromSeed keys seed } path

/-! ## One wallet or none -/

/-- A command that writes the keystore. -/
inductive Command where
  | setup (config : WizardConfig) (answers : Answers)
  | importWallet (args : ImportArgs)
  | changePassword (readError oldPassword newPassword : Option String)
      (typed : List (Except String String))

/-- The files after a command. -/
def step (dataDir : String) (files : Files) (entry : Command × Circumstances) : Files :=
  match entry with
  | (.setup config answers, circumstances) =>
      (runWizard keys libs toml { config with dataDir } answers circumstances files).files
  | (.importWallet args, circumstances) => (cmdImport keys libs args circumstances dataDir files).2
  | (.changePassword readError oldPassword newPassword typed, circumstances) =>
      (cmdChangePassword libs circumstances.random readError circumstances.fs files oldPassword
        newPassword typed dataDir).2

/-- The wallet that the wizard is to create. -/
def wizardWallet (config : WizardConfig) (answers : Answers) (circumstances : Circumstances) :
    Except Failure Wallet := do
  createDirAll circumstances
  let _ ← selectNetwork config.network answers
  let (seed, address, _) ← createOrImportWallet keys config answers circumstances.generated
  let password ← getPassword config.password answers
  .ok { password, seed, address }

/-- The wallet that `can import` is to create. -/
def importedWallet (args : ImportArgs) (circumstances : Circumstances) :
    Except Failure Wallet := do
  createDirAll circumstances
  let seed ← importedSeed keys args
  let password ← enterNewPassword args.password args.typed
  .ok { password, seed, address := addressFromSeed keys seed }

/-- The password that a change is to set, if it is made with the password of the wallet. -/
def changedPassword (readError oldPassword newPassword : Option String)
    (typed : List (Except String String)) (wallet : Wallet) : Option String :=
  match readError, enterPassword oldPassword typed with
  | none, .ok (password, typed) =>
      if password = wallet.password then (enterNewPassword newPassword typed).toOption else none
  | _, _ => none

/-- The wallet that a command is to write a keystore for, where there is another one or none. -/
def Command.wanted (command : Command) (circumstances : Circumstances) :
    Option Wallet → Option Wallet
  | none =>
      match command with
      | .setup config answers => (wizardWallet keys config answers circumstances).toOption
      | .importWallet args => (importedWallet keys args circumstances).toOption
      | .changePassword .. => none
  | some wallet =>
      match command with
      | .changePassword readError oldPassword newPassword typed =>
          (changedPassword readError oldPassword newPassword typed wallet).map fun password =>
            { wallet with password }
      | _ => none

/-- The wallet that there is when a keystore was to be written for another one. -/
def replaced (circumstances : Circumstances) (current : Option Wallet) (wallet : Wallet) :
    Option Wallet :=
  match keystoreJson libs circumstances.random wallet, circumstances.fs.writeError,
      circumstances.fs.renameError with
  | .ok _, none, none => some wallet
  | _, _, _ => current

/-- The wallet that there is after a command. -/
def walletStep (current : Option Wallet) (entry : Command × Circumstances) : Option Wallet :=
  match entry.1.wanted keys entry.2 current with
  | none => current
  | some wallet => replaced libs entry.2 current wallet

/-- The keystore opens to this wallet and to no other, or there is none. -/
def Holds (files : Files) (path : Path) : Option Wallet → Prop
  | none => files path = none
  | some wallet =>
      Opens libs files path wallet ∧ ∀ other, Opens libs files path other → other = wallet

variable {keys libs toml}

/-! ## What a command does to the keystore -/

/-- Other files do not matter. -/
theorem Holds.congr {files others : Files} {path : Path} {current : Option Wallet}
    (h : Holds libs files path current) (hsame : others path = files path) :
    Holds libs others path current := by
  cases current with
  | none => exact hsame.trans h
  | some wallet =>
      obtain ⟨hopens, honly⟩ := h
      refine ⟨(load_keystore_congr hsame wallet.password).trans hopens, fun other hother => ?_⟩
      exact honly other ((load_keystore_congr hsame other.password).symm.trans hother)

theorem replaced_of_replaces {circumstances : Circumstances} {wallet : Wallet}
    (h : Replaces libs circumstances.random circumstances.fs wallet) (current : Option Wallet) :
    replaced libs circumstances current wallet = some wallet := by
  obtain ⟨⟨json, hjson⟩, hwrite, hrename⟩ := h
  rw [replaced, hjson, hwrite, hrename]

theorem replaced_of_not_replaces {circumstances : Circumstances} {wallet : Wallet}
    (h : ¬ Replaces libs circumstances.random circumstances.fs wallet) (current : Option Wallet) :
    replaced libs circumstances current wallet = current := by
  unfold replaced
  split
  next json hjson hwrite hrename => exact absurd ⟨⟨json, hjson⟩, hwrite, hrename⟩ h
  next => rfl

/-- A keystore that is created opens to its wallet only. Otherwise the old one is still there. -/
theorem create_cases (hideal : libs.Ideal) (circumstances : Circumstances) (files : Files)
    (dataDir : String) (wallet : Wallet) :
    (¬ Replaces libs circumstances.random circumstances.fs wallet ∧
      (∃ failure, (createKeystore libs circumstances.random circumstances.fs files wallet
        (keystorePath dataDir)).1 = .error failure) ∧
      (createKeystore libs circumstances.random circumstances.fs files wallet
        (keystorePath dataDir)).2 (keystorePath dataDir) = files (keystorePath dataDir)) ∨
    (Replaces libs circumstances.random circumstances.fs wallet ∧
      Holds libs (createKeystore libs circumstances.random circumstances.fs files wallet
        (keystorePath dataDir)).2 (keystorePath dataDir) (some wallet)) := by
  obtain ⟨hfails, herror, hkept⟩ | ⟨hreplaces, hopens, hothers, -⟩ :=
    create_keystore_cases hideal circumstances.random circumstances.fs files wallet
      (with_extension_ne dataDir)
  · exact .inl ⟨hfails, herror, hkept⟩
  · refine .inr ⟨hreplaces, hopens, fun other hother => ?_⟩
    by_cases hpassword : other.password = wallet.password
    · exact hother.eq_of_password hopens hpassword
    · obtain ⟨text, hclosed⟩ := hothers other.password hpassword
      have herror := hclosed.symm.trans hother
      cases herror

theorem holds_of_created (hideal : libs.Ideal) (circumstances : Circumstances) (files : Files)
    (dataDir : String) (wallet : Wallet)
    (h : (createKeystore libs circumstances.random circumstances.fs files wallet
      (keystorePath dataDir)).1 = .ok ()) :
    Holds libs (createKeystore libs circumstances.random circumstances.fs files wallet
      (keystorePath dataDir)).2 (keystorePath dataDir) (some wallet) := by
  obtain ⟨-, ⟨failure, herror⟩, -⟩ | ⟨-, hholds⟩ :=
    create_cases hideal circumstances files dataDir wallet
  · rw [h] at herror
    cases herror
  · exact hholds

theorem Holds.create (hideal : libs.Ideal) {circumstances : Circumstances} {files : Files}
    {dataDir : String} {current : Option Wallet}
    (h : Holds libs files (keystorePath dataDir) current) (wallet : Wallet) :
    Holds libs (createKeystore libs circumstances.random circumstances.fs files wallet
        (keystorePath dataDir)).2 (keystorePath dataDir)
      (replaced libs circumstances current wallet) := by
  obtain ⟨hfails, -, hkept⟩ | ⟨hreplaces, hholds⟩ :=
    create_cases hideal circumstances files dataDir wallet
  · rw [replaced_of_not_replaces hfails]
    exact h.congr hkept
  · rw [replaced_of_replaces hreplaces]
    exact hholds

/-- The file of the configuration is not the keystore. -/
theorem keystore_path_ne (dataDir : String) : keystorePath dataDir ≠ configPath dataDir := by
  intro h
  exact absurd (congrArg Path.stem h) (by simp [keystorePath, configPath])

theorem write_config_keystore (toml : Toml Plugins) (fs : FileSystem) (files : Files)
    (dataDir : String) (network : Network) :
    (writeConfig toml fs files dataDir network).2 (keystorePath dataDir) =
      files (keystorePath dataDir) := by
  unfold writeConfig
  split
  · rfl
  · unfold save
    cases toml.toStringPretty (forNewAgent "can" network.display, toml.noPlugins) with
    | error text => rfl
    | ok content =>
        dsimp only
        unfold write
        cases fs.writeError with
        | some failed => exact Function.update_of_ne (keystore_path_ne dataDir) _ _
        | none => exact Function.update_of_ne (keystore_path_ne dataDir) _ _

/-- The wizard and the import do nothing where there is a keystore. -/
theorem run_wizard_of_exists {config : WizardConfig} {files : Files}
    (h : files (keystorePath config.dataDir) ≠ none) (answers : Answers)
    (circumstances : Circumstances) :
    (runWizard keys libs toml config answers circumstances files).files = files := by
  unfold runWizard
  cases createDirAll circumstances with
  | error failure => rfl
  | ok done =>
      dsimp only
      rw [if_pos h]

theorem import_of_exists {dataDir : String} {files : Files}
    (h : files (keystorePath dataDir) ≠ none) (args : ImportArgs)
    (circumstances : Circumstances) :
    (cmdImport keys libs args circumstances dataDir files).2 = files := by
  unfold cmdImport
  cases createDirAll circumstances with
  | error failure => rfl
  | ok done =>
      dsimp only
      rw [if_pos h]

/-- Where there is none, the wizard creates one or leaves the keystore as it is. -/
theorem run_wizard_of_none {config : WizardConfig} {files : Files}
    (h : files (keystorePath config.dataDir) = none) (answers : Answers)
    (circumstances : Circumstances) :
    (runWizard keys libs toml config answers circumstances files).files
        (keystorePath config.dataDir) =
      match wizardWallet keys config answers circumstances with
      | .error _ => none
      | .ok wallet =>
          (createKeystore libs circumstances.random circumstances.fs files wallet
            (keystorePath config.dataDir)).2 (keystorePath config.dataDir) := by
  unfold runWizard wizardWallet
  cases createDirAll circumstances with
  | error failure => exact h
  | ok done =>
      dsimp only [bind, Except.bind]
      rw [if_neg (not_not.mpr h)]
      cases selectNetwork config.network answers with
      | error failure => exact h
      | ok network =>
          dsimp only
          cases createOrImportWallet keys config answers circumstances.generated with
          | error failure => exact h
          | ok created =>
              obtain ⟨seed, address, mnemonic⟩ := created
              dsimp only
              cases getPassword config.password answers with
              | error failure => exact h
              | ok password =>
                  dsimp only
                  cases hcreate : createKeystore libs circumstances.random circumstances.fs files
                      { password, seed, address } (keystorePath config.dataDir) with
                  | mk result after =>
                      cases result with
                      | error failure => rfl
                      | ok done =>
                          dsimp only
                          have hsame : (writeConfig toml circumstances.configFs after
                              config.dataDir network).2 (keystorePath config.dataDir) =
                                after (keystorePath config.dataDir) :=
                            write_config_keystore ..
                          cases hwrite : writeConfig toml circumstances.configFs after
                              config.dataDir network with
                          | mk result last =>
                              rw [hwrite] at hsame
                              cases result <;> exact hsame

theorem import_of_none {dataDir : String} {files : Files}
    (h : files (keystorePath dataDir) = none) (args : ImportArgs)
    (circumstances : Circumstances) :
    cmdImport keys libs args circumstances dataDir files =
      match importedWallet keys args circumstances with
      | .error failure => (.error failure, files)
      | .ok wallet =>
          createKeystore libs circumstances.random circumstances.fs files wallet
            (keystorePath dataDir) := by
  unfold cmdImport importedWallet
  cases createDirAll circumstances with
  | error failure => rfl
  | ok done =>
      dsimp only [bind, Except.bind]
      rw [if_neg (not_not.mpr h)]
      cases importedSeed keys args with
      | error failure => rfl
      | ok seed =>
          dsimp only
          cases enterNewPassword args.password args.typed with
          | error failure => rfl
          | ok password => rfl

/-- A change of the password is made with the password of the wallet, or it leaves the files as
they were. -/
theorem Holds.change_password (hideal : libs.Ideal) {files : Files} {dataDir : String}
    {wallet : Wallet} (h : Holds libs files (keystorePath dataDir) (some wallet))
    (readError oldPassword newPassword : Option String) (typed : List (Except String String))
    (circumstances : Circumstances) :
    Holds libs (cmdChangePassword libs circumstances.random readError circumstances.fs files
        oldPassword newPassword typed dataDir).2 (keystorePath dataDir)
      (match changedPassword readError oldPassword newPassword typed wallet with
        | none => some wallet
        | some password => replaced libs circumstances (some wallet) { wallet with password }) := by
  obtain ⟨hopens, honly⟩ := id h
  unfold changedPassword
  cases readError with
  | some error =>
      obtain ⟨failure, hfailure⟩ := change_password_read_error circumstances.random error
        circumstances.fs files oldPassword newPassword typed dataDir
      rw [hfailure]
      exact h
  | none =>
      have hunopened (hnone : ∀ old rest,
          enterPassword oldPassword typed = .ok (old.password, rest) →
            ¬ Opens libs files (keystorePath dataDir) old) :
          (cmdChangePassword libs circumstances.random none circumstances.fs files oldPassword
            newPassword typed dataDir).2 = files := by
        obtain ⟨failure, hfailure⟩ := change_password_of_not_opens circumstances.random none
          circumstances.fs files oldPassword newPassword typed dataDir hnone
        rw [hfailure]
      cases hentered : enterPassword oldPassword typed with
      | error failure =>
          dsimp only
          rw [hunopened fun old rest heq => by rw [hentered] at heq; cases heq]
          exact h
      | ok entered =>
          obtain ⟨password, rest⟩ := entered
          dsimp only
          by_cases hpassword : password = wallet.password
          · rw [if_pos hpassword]
            rw [hpassword] at hentered
            rw [change_password_eq circumstances.random circumstances.fs hentered hopens]
            cases enterNewPassword newPassword rest with
            | error failure => exact h
            | ok new => exact h.create hideal _
          · rw [if_neg hpassword]
            rw [hunopened fun old others heq hold => by
              rw [hentered] at heq
              obtain ⟨rfl, rfl⟩ := Prod.mk.inj (Except.ok.inj heq)
              exact hpassword (congrArg Wallet.password (honly old hold))]
            exact h

/-- Where there is no keystore, one is created or not. -/
theorem Holds.created (hideal : libs.Ideal) {circumstances : Circumstances} {files others : Files}
    {dataDir : String} (h : Holds libs files (keystorePath dataDir) none)
    {wanted : Except Failure Wallet}
    (hothers : others (keystorePath dataDir) =
      match wanted with
      | .error _ => none
      | .ok wallet =>
          (createKeystore libs circumstances.random circumstances.fs files wallet
            (keystorePath dataDir)).2 (keystorePath dataDir)) :
    Holds libs others (keystorePath dataDir)
      (match wanted.toOption with
        | none => none
        | some wallet => replaced libs circumstances none wallet) := by
  cases wanted with
  | error failure => exact hothers
  | ok wallet => exact (h.create hideal wallet).congr hothers

/-- A command does to the keystore what it does to the wallet. -/
theorem Holds.step (hideal : libs.Ideal) {dataDir : String} {files : Files}
    {current : Option Wallet} (h : Holds libs files (keystorePath dataDir) current)
    (entry : Command × Circumstances) :
    Holds libs (step keys libs toml dataDir files entry) (keystorePath dataDir)
      (walletStep keys libs current entry) := by
  obtain ⟨command, circumstances⟩ := entry
  cases current with
  | none =>
      have hnone : files (keystorePath dataDir) = none := h
      cases command with
      | setup config answers =>
          have hfile : (runWizard keys libs toml { config with dataDir } answers circumstances
              files).files (keystorePath dataDir) = _ := run_wizard_of_none hnone ..
          exact h.created hideal hfile
      | importWallet args =>
          have himport : cmdImport keys libs args circumstances dataDir files = _ :=
            import_of_none hnone ..
          have hfile := congrFun (congrArg Prod.snd himport) (keystorePath dataDir)
          refine h.created hideal (hfile.trans ?_)
          cases importedWallet keys args circumstances with
          | error failure => exact hnone
          | ok wallet => rfl
      | changePassword readError oldPassword newPassword typed =>
          obtain ⟨failure, hfailure⟩ := change_password_of_not_opens circumstances.random
            readError circumstances.fs files oldPassword newPassword typed dataDir
            fun old rest hentered hold => hold.file_ne_none hnone
          exact h.congr (by rw [WalletCommands.step, hfailure])
  | some wallet =>
      have hexists : files (keystorePath dataDir) ≠ none := h.1.file_ne_none
      cases command with
      | setup config answers =>
          have hsame : (runWizard keys libs toml { config with dataDir } answers circumstances
              files).files = files := run_wizard_of_exists hexists ..
          exact h.congr (congrFun hsame _)
      | importWallet args => exact h.congr (congrFun (import_of_exists hexists ..) _)
      | changePassword readError oldPassword newPassword typed =>
          have hchanged := h.change_password hideal readError oldPassword newPassword typed
            circumstances
          unfold walletStep Command.wanted
          dsimp only
          cases hpassword : changedPassword readError oldPassword newPassword typed wallet with
          | none =>
              rw [hpassword] at hchanged
              exact hchanged
          | some password =>
              rw [hpassword] at hchanged
              exact hchanged

/-! ## Runs -/

variable (keys libs toml)

/-- After any commands the keystore opens to the wallet that they have made, and to no other. -/
theorem wallet_of_run (hideal : libs.Ideal) {dataDir : String} {files : Files}
    {current : Option Wallet} (h : Holds libs files (keystorePath dataDir) current)
    (entries : List (Command × Circumstances)) :
    Holds libs (entries.foldl (step keys libs toml dataDir) files) (keystorePath dataDir)
      (entries.foldl (walletStep keys libs) current) := by
  induction entries generalizing files current with
  | nil => exact h
  | cons entry rest ih => exact ih (h.step hideal entry)

/-- A command changes at most the password of a wallet. -/
theorem wallet_step_some (wallet : Wallet) (entry : Command × Circumstances) :
    ∃ password, walletStep keys libs (some wallet) entry = some { wallet with password } := by
  have hreplaced (password : String) : ∃ last, replaced libs entry.2 (some wallet)
      { wallet with password } = some { wallet with password := last } := by
    unfold replaced
    split
    · exact ⟨password, rfl⟩
    · exact ⟨wallet.password, rfl⟩
  obtain ⟨command, circumstances⟩ := entry
  unfold walletStep Command.wanted
  cases command with
  | setup config answers => exact ⟨wallet.password, rfl⟩
  | importWallet args => exact ⟨wallet.password, rfl⟩
  | changePassword readError oldPassword newPassword typed =>
      dsimp only
      cases changedPassword readError oldPassword newPassword typed wallet with
      | none => exact ⟨wallet.password, rfl⟩
      | some password => exact hreplaced password

theorem wallet_run_some (wallet : Wallet) (entries : List (Command × Circumstances)) :
    ∃ password, entries.foldl (walletStep keys libs) (some wallet) =
      some { wallet with password } := by
  induction entries generalizing wallet with
  | nil => exact ⟨wallet.password, rfl⟩
  | cons entry rest ih =>
      obtain ⟨password, hstep⟩ := wallet_step_some keys libs wallet entry
      rw [List.foldl_cons, hstep]
      exact ih { wallet with password }

theorem holds_run (hideal : libs.Ideal) {dataDir : String} {files : Files} {wallet : Wallet}
    (h : Holds libs files (keystorePath dataDir) (some wallet))
    (entries : List (Command × Circumstances)) :
    ∃ password, Holds libs (entries.foldl (step keys libs toml dataDir) files)
      (keystorePath dataDir) (some { wallet with password }) := by
  obtain ⟨password, hwallet⟩ := wallet_run_some keys libs wallet entries
  have hrun := wallet_of_run keys libs toml hideal h entries
  rw [hwallet] at hrun
  exact ⟨password, hrun⟩

variable {keys libs toml}

/-- A wallet that comes with a phrase is new, and the phrase is that of its seed. -/
theorem phrase_of_created {config : WizardConfig} {answers : Answers} {generated seed : Seed}
    {address phrase : String}
    (h : createOrImportWallet keys config answers generated = .ok (seed, address, some phrase)) :
    seedToMnemonic keys.sha seed = some phrase.toList ∧ address = addressFromSeed keys seed := by
  have hgenerated (hgenerate : generateWallet keys generated = .ok (seed, address, some phrase)) :
      seedToMnemonic keys.sha seed = some phrase.toList ∧
        address = addressFromSeed keys seed := by
    unfold generateWallet at hgenerate
    cases hphrase : seedToMnemonic keys.sha generated with
    | none =>
        rw [hphrase] at hgenerate
        cases hgenerate
    | some found =>
        rw [hphrase] at hgenerate
        cases hgenerate
        rw [hphrase, String.toList_ofList]
        exact ⟨rfl, rfl⟩
  have himported (imported : Except Failure Seed)
      (himport : importWallet keys imported = .ok (seed, address, some phrase)) :
      seedToMnemonic keys.sha seed = some phrase.toList ∧
        address = addressFromSeed keys seed := by
    cases imported <;> cases himport
  unfold createOrImportWallet at h
  split at h
  · exact hgenerated h
  · split at h
    · exact himported _ h
    · split at h
      · exact himported _ h
      · unfold chooseWallet at h
        split at h
        · cases h
        · exact hgenerated h
        · exact himported _ h
        · exact himported _ h

/-- A wizard that succeeds has created the keystore of the wallet whose address it returns. -/
theorem created_of_run_wizard (hideal : libs.Ideal) {config : WizardConfig} {answers : Answers}
    {circumstances : Circumstances} {files : Files} {result : WizardResult}
    (hresult : (runWizard keys libs toml config answers circumstances files).result =
      .ok result) :
    ∃ seed mnemonic password,
      createOrImportWallet keys config answers circumstances.generated =
          .ok (seed, result.address, mnemonic) ∧
        (runWizard keys libs toml config answers circumstances files).shown = mnemonic ∧
        Holds libs (runWizard keys libs toml config answers circumstances files).files
          (keystorePath config.dataDir) (some ⟨password, seed, result.address⟩) := by
  have hexists : files (keystorePath config.dataDir) = none := by
    by_contra hexists
    unfold runWizard at hresult
    cases hdir : createDirAll circumstances with
    | error failure =>
        rw [hdir] at hresult
        cases hresult
    | ok done =>
        rw [hdir] at hresult
        dsimp only at hresult
        rw [if_pos hexists] at hresult
        cases hresult
  unfold runWizard at hresult ⊢
  cases hdir : createDirAll circumstances with
  | error failure =>
      rw [hdir] at hresult
      cases hresult
  | ok done =>
      rw [hdir] at hresult
      dsimp only at hresult ⊢
      rw [if_neg (not_not.mpr hexists)] at hresult ⊢
      cases hnetwork : selectNetwork config.network answers with
      | error failure =>
          rw [hnetwork] at hresult
          cases hresult
      | ok network =>
          rw [hnetwork] at hresult
          cases hchosen : createOrImportWallet keys config answers circumstances.generated with
          | error failure =>
              rw [hchosen] at hresult
              cases hresult
          | ok chosen =>
              obtain ⟨seed, address, mnemonic⟩ := chosen
              rw [hchosen] at hresult
              dsimp only at hresult ⊢
              cases hpassword : getPassword config.password answers with
              | error failure =>
                  rw [hpassword] at hresult
                  cases hresult
              | ok password =>
                  rw [hpassword] at hresult
                  dsimp only at hresult ⊢
                  have hholds := holds_of_created hideal circumstances files config.dataDir
                    { password, seed, address }
                  cases hcreate : createKeystore libs circumstances.random circumstances.fs
                      files { password, seed, address } (keystorePath config.dataDir) with
                  | mk created after =>
                      rw [hcreate] at hresult hholds
                      cases created with
                      | error failure => cases hresult
                      | ok done =>
                          have hsame := write_config_keystore toml circumstances.configFs after
                            config.dataDir network
                          dsimp only at hresult ⊢
                          cases hwrite : writeConfig toml circumstances.configFs after
                              config.dataDir network with
                          | mk written last =>
                              rw [hwrite] at hresult hsame
                              cases written with
                              | error failure => cases hresult
                              | ok done =>
                                  cases hresult
                                  exact ⟨seed, mnemonic, password, rfl, rfl,
                                    (hholds rfl).congr hsame⟩

/-- The phrase of a new wallet gives its seed. -/
theorem seed_of_phrase {config : WizardConfig} {answers : Answers} {generated seed : Seed}
    {address phrase : String}
    (h : createOrImportWallet keys config answers generated = .ok (seed, address, some phrase)) :
    seedOfMnemonic keys phrase = .ok seed ∧ addressFromSeed keys seed = address := by
  obtain ⟨hphrase, haddress⟩ := phrase_of_created h
  obtain ⟨found, hfound, hseed⟩ := Mnemonic.mnemonic_round_trip keys.sha seed
  obtain rfl : phrase.toList = found := Option.some.inj (hphrase.symm.trans hfound)
  refine ⟨?_, haddress.symm⟩
  unfold seedOfMnemonic
  rw [hseed]
  rfl

variable (keys libs toml)

/-- The recovery phrase that the wizard shows restores the wallet. Where it is imported into a data
directory without a keystore, an accepted password leads to a keystore for that password with the
seed and the address of the wallet, which is still in the first data directory after any later
commands. -/
theorem phrase_restores (hideal : libs.Ideal) {config : WizardConfig} {answers : Answers}
    {circumstances : Circumstances} {files : Files} {result : WizardResult} {phrase : String}
    (hresult : (runWizard keys libs toml config answers circumstances files).result = .ok result)
    (hshown : (runWizard keys libs toml config answers circumstances files).shown = some phrase)
    (later : List (Command × Circumstances)) {args : ImportArgs} {password : String}
    (there : Circumstances) (others : Files) (otherDir : String)
    (hmnemonic : args.mnemonic = some phrase)
    (hpassword : enterNewPassword args.password args.typed = .ok password)
    (hcreated : there.createDirError = none)
    (hnone : others (keystorePath otherDir) = none) :
    ∃ wallet : Wallet, wallet.address = result.address ∧
      Holds libs (later.foldl (step keys libs toml config.dataDir)
          (runWizard keys libs toml config answers circumstances files).files)
        (keystorePath config.dataDir) (some wallet) ∧
      cmdImport keys libs args there otherDir others =
        createKeystore libs there.random there.fs others { wallet with password }
          (keystorePath otherDir) ∧
      ((cmdImport keys libs args there otherDir others).1 = .ok () →
        Holds libs (cmdImport keys libs args there otherDir others).2 (keystorePath otherDir)
          (some { wallet with password })) := by
  obtain ⟨seed, mnemonic, first, hchosen, hphrase, hholds⟩ :=
    created_of_run_wizard hideal hresult
  obtain rfl : mnemonic = some phrase := hphrase.symm.trans hshown
  obtain ⟨hseed, haddress⟩ := seed_of_phrase hchosen
  obtain ⟨last, hlater⟩ := holds_run keys libs toml hideal hholds later
  have hwanted : importedWallet keys args there =
      .ok { password, seed, address := result.address } := by
    unfold importedWallet createDirAll importedSeed
    simp only [hcreated, hmnemonic, hseed, hpassword, haddress, bind, Except.bind]
  have himport : cmdImport keys libs args there otherDir others =
      createKeystore libs there.random there.fs others
        { password, seed, address := result.address } (keystorePath otherDir) := by
    rw [import_of_none hnone, hwanted]
  refine ⟨⟨last, seed, result.address⟩, rfl, hlater, himport, fun hok => ?_⟩
  rw [himport] at hok ⊢
  exact holds_of_created hideal _ _ _ _ hok

/-! ## The wallet of a sample -/

/-- `can setup --network localnet --generate --password password`. -/
def sampleConfig : WizardConfig where
  network := some .localnet
  generate := true
  importMnemonic := none
  importSeed := none
  password := some "password"
  dataDir := "data"

/-- No terminal. -/
def noAnswers : Answers where
  network := .error "IO error: not a terminal"
  choice := .error "IO error: not a terminal"
  mnemonic := .error "IO error: not a terminal"
  seedHex := .error "IO error: not a terminal"
  passwords := []
  ended := "IO error: not a terminal"

/-- Everything works, and the seed of 32 ones is drawn. -/
def sampleCircumstances : Circumstances where
  createDirError := none
  generated := sampleSeed
  random := sampleRandom
  fs := sampleFileSystem none
  configFs := sampleFileSystem none

/-- What the crate `toml` writes of the configuration of a new agent. -/
def setupText : String :=
  "[agent]\nname = \"can\"\nnetwork = \"localnet\"\n\n[network]\n\n" ++
    "[hub]\nurl = \"http://localhost:3578\"\ndisabled = false\n\n" ++
    "[runtime]\npoll_interval = 5\nno_plugins = false\n\n[plugins]\nenabled = []\n\n[logging]\n"

/-- The crate on that configuration. -/
def setupToml : Toml Unit where
  fromStr text :=
    if text = setupText then .ok (written (forNewAgent "can" "localnet"), ())
    else .error "TOML parse error"
  toStringPretty contents :=
    if contents.1 = forNewAgent "can" "localnet" then .ok setupText
    else .error "unsupported value"
  noPlugins := ()

theorem write_setup (files : Files) :
    (writeConfig setupToml (sampleFileSystem none) files "data" .localnet).1 = .ok () := by
  unfold writeConfig
  split
  · rfl
  · rfl

/-- The setup of the sample, on a machine without any files. -/
def sampleOutcome : Outcome :=
  runWizard sampleKeys addressedLibraries setupToml sampleConfig noAnswers sampleCircumstances
    fun _ => none

theorem sample_setup :
    ∃ phrase, sampleOutcome.shown = some phrase ∧
      sampleOutcome.result =
        .ok ⟨.localnet, Transaction.sampleAddress, "data/keystore.enc"⟩ := by
  obtain ⟨found, hfound⟩ := Mnemonic.exists_mnemonic sampleKeys.sha sampleSeed
  have hchosen : createOrImportWallet sampleKeys sampleConfig noAnswers
      sampleCircumstances.generated =
        .ok (sampleSeed, Transaction.sampleAddress, some (String.ofList found)) := by
    have hgenerate : generateWallet sampleKeys sampleSeed =
        .ok (sampleSeed, Transaction.sampleAddress, some (String.ofList found)) := by
      unfold generateWallet
      rw [hfound]
      rfl
    exact (if_pos rfl).trans hgenerate
  have hdir : createDirAll sampleCircumstances = .ok () := rfl
  have hnetwork : selectNetwork sampleConfig.network noAnswers = .ok .localnet := rfl
  have hpassword : getPassword sampleConfig.password noAnswers = .ok "password" := rfl
  have hcreated :=
    (addressed_created length_old_password sampleSeed (fun _ => none) "data").1
  refine ⟨String.ofList found, ?_⟩
  unfold sampleOutcome runWizard
  rw [hdir, hnetwork, hchosen, hpassword]
  dsimp only [ne_eq, not_true_eq_false, ite_false, sampleCircumstances, sampleConfig]
  rw [if_neg (not_not.mpr rfl)]
  cases hcreate : createKeystore addressedLibraries sampleRandom (sampleFileSystem none)
      (fun _ => none) ⟨"password", sampleSeed, Transaction.sampleAddress⟩
      (keystorePath "data") with
  | mk created after =>
      rw [hcreate] at hcreated
      obtain rfl : created = .ok () := hcreated
      have hwritten := write_setup after
      cases hwrite : writeConfig setupToml (sampleFileSystem none) after "data" .localnet with
      | mk written last =>
          rw [hwrite] at hwritten
          obtain rfl : written = .ok () := hwritten
          dsimp only
          rw [hwrite]
          exact ⟨rfl, rfl⟩

/-- The commands of a first machine: the setup, a second setup that imports a phrase, and a change
of the password. -/
def firstCommands : List (Command × Circumstances) :=
  [.setup sampleConfig noAnswers,
    .setup { sampleConfig with generate := false, importMnemonic := some "abandon" } noAnswers,
    .changePassword none (some "password") (some "passw0rd") []].map
      fun command => (command, sampleCircumstances)

/-- `phrase_restores` for the first of these commands, with the others after it: the phrase is
imported on a second machine. -/
theorem sample_phrase_restores :
    ∃ phrase wallet, sampleOutcome.shown = some phrase ∧
      wallet.address = Transaction.sampleAddress ∧
      Holds addressedLibraries
        ((firstCommands.drop 1).foldl (step sampleKeys addressedLibraries setupToml "data")
          sampleOutcome.files) (keystorePath "data") (some wallet) ∧
      Holds addressedLibraries
        (cmdImport sampleKeys addressedLibraries ⟨some phrase, none, some "passw0rd", []⟩
          sampleCircumstances "laptop" fun _ => none).2
        (keystorePath "laptop") (some { wallet with password := "passw0rd" }) := by
  obtain ⟨phrase, hshown, hresult⟩ := sample_setup
  have hmnemonic : (⟨some phrase, none, some "passw0rd", []⟩ : ImportArgs).mnemonic =
      some phrase := rfl
  obtain ⟨wallet, haddress, hholds, himport, hrestored⟩ := phrase_restores sampleKeys
    addressedLibraries setupToml addressed_ideal hresult hshown (firstCommands.drop 1)
    sampleCircumstances (fun _ => none) "laptop" hmnemonic
    (enter_new_password_flag length_new_password []) rfl rfl
  refine ⟨phrase, wallet, hshown, haddress, hholds, hrestored ?_⟩
  obtain ⟨password, seed, address⟩ := wallet
  obtain rfl : address = Transaction.sampleAddress := haddress
  rw [himport]
  exact (addressed_created length_new_password seed (fun _ => none) "laptop").1

end CorvidNano.Agent.WalletCommands
