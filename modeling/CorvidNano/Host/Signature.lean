import CorvidNano.Library.Digits
import CorvidNano.Library.Text
import CorvidNano.Sdk.Manifest

/-!
# The signature gate

`verify_signature` in `loader.rs` with `parse_sig_file` and `is_key_trusted`. A plugin of the
trusted tier carries a detached signature file, whose key must be in the directory of trusted
keys.
-/

namespace CorvidNano.Host.Signature

open Digits Sdk

/-- The content of a file that is read as text, or `none` if it is not UTF-8. -/
abbrev TextFile := Option (List Char)

/-- The signature scheme: which 32 bytes are a public key, and when a key verifies a signature
of a message. -/
structure Ed25519 where
  validKey : List UInt8 → Bool
  verify : List UInt8 → List UInt8 → List UInt8 → Bool

/-- The reasons of `LoadError::SignatureInvalid`, one for each of its texts. -/
inductive SignatureError where
  | noSigData
  | sigNotUtf8
  | missingKeyLine
  | missingSignatureLine
  | invalidKeyHex
  | keyLength
  | invalidSignatureHex
  | signatureLength
  | invalidKey
  | verificationFailed
  | keysDirectoryNotFound
  | keysDirectoryUnreadable
  | keyEntryUnreadable
  | untrustedKey (keyHex : List Char)
  deriving DecidableEq

/-- The text of a reason, without what the libraries and the file system add to it. -/
def SignatureError.reason : SignatureError → String
  | .noSigData => "Ed25519 signature required for Trusted tier — no .sig data provided"
  | .sigNotUtf8 => "sig file is not valid UTF-8"
  | .missingKeyLine => "sig file missing public key line"
  | .missingSignatureLine => "sig file missing signature line"
  | .invalidKeyHex => "invalid public key hex"
  | .keyLength => "public key must be 32 bytes"
  | .invalidSignatureHex => "invalid signature hex"
  | .signatureLength => "signature must be 64 bytes"
  | .invalidKey => "invalid Ed25519 public key"
  | .verificationFailed => "Ed25519 verification failed"
  | .keysDirectoryNotFound => "trusted keys directory not found"
  | .keysDirectoryUnreadable => "failed to read trusted keys directory"
  | .keyEntryUnreadable => "failed to read trusted key entry"
  | .untrustedKey keyHex =>
      "signature is valid but public key " ++ String.ofList keyHex ++
        " is not in the trusted registry"

/-- A file in the directory of trusted keys. The text is also `none` if it cannot be read. -/
structure KeyFile where
  name : List Char
  text : TextFile
  deriving DecidableEq

/-- The directory of trusted keys, in the order in which its entries are read. An entry that
cannot be read is `none`. -/
inductive TrustedKeys where
  | notFound
  | unreadable
  | entries (files : List (Option KeyFile))
  deriving DecidableEq

/-- Unicode white space. -/
def isWhiteSpace (c : Char) : Bool :=
  (0x09 ≤ c.toNat && c.toNat ≤ 0x0D) || (0x2000 ≤ c.toNat && c.toNat ≤ 0x200A) ||
    [0x20, 0x85, 0xA0, 0x1680, 0x2028, 0x2029, 0x202F, 0x205F, 0x3000].contains c.toNat

/-- `str::trim`. -/
def trim (text : List Char) : List Char :=
  ((text.dropWhile isWhiteSpace).reverse.dropWhile isWhiteSpace).reverse

/-- `str::lines`: the lines without their ends, `\n` or `\r\n`. -/
def lines (text : List Char) : List (List Char) :=
  let pieces := text.splitOn '\n'
  let ended := pieces.dropLast.map fun line =>
    if line.getLast? = some '\r' then line.dropLast else line
  match pieces.getLast? with
  | none | some [] => ended
  | some rest => ended ++ [rest]

/-- Decode the hexadecimal text of a fixed number of bytes. -/
def decodeBytes (length : Nat) (invalidHex wrongLength : SignatureError) (text : List Char) :
    Except SignatureError (List UInt8) :=
  match hexDecode text with
  | none => .error invalidHex
  | some bytes => if bytes.length = length then .ok bytes else .error wrongLength

/-- `parse_sig_file`: the key and the signature of a signature file. -/
def parseSigFile (ed25519 : Ed25519) (sigData : TextFile) :
    Except SignatureError (List UInt8 × List UInt8) :=
  match sigData with
  | none => .error .sigNotUtf8
  | some text =>
      match (lines text).filter fun line => line != [] && line.head? != some '#' with
      | [] => .error .missingKeyLine
      | [_] => .error .missingSignatureLine
      -- Further lines are not looked at.
      | keyLine :: signatureLine :: _ => do
          let key ← decodeBytes 32 .invalidKeyHex .keyLength (trim keyLine)
          let signature ← decodeBytes 64 .invalidSignatureHex .signatureLength (trim signatureLine)
          if ed25519.validKey key then .ok (key, signature) else .error .invalidKey

/-- `Path::extension`: what follows the last dot of a name that has something before it. -/
def extension (name : List Char) : Option (List Char) :=
  let last := Text.afterLast '.' name
  if last.length + 1 < name.length then some last else none

/-- The search of `is_key_trusted` through the entries of the directory. -/
def findKey (targetHex : List Char) : List (Option KeyFile) → Except SignatureError Bool
  | [] => .ok false
  | none :: _ => .error .keyEntryUnreadable
  | some file :: rest =>
      if extension file.name = some "pub".toList ∧
          file.text.map (fun text => trim ((lines text).head?.getD [])) = some targetHex then
        .ok true
      else findKey targetHex rest

/-- `is_key_trusted`. -/
def isKeyTrusted (key : List UInt8) : TrustedKeys → Except SignatureError Bool
  | .notFound => .error .keysDirectoryNotFound
  | .unreadable => .error .keysDirectoryUnreadable
  | .entries files => findKey (hexEncode key) files

/-- `verify_signature`. Only the trusted tier is checked. -/
def verifySignature (ed25519 : Ed25519) (wasmBytes : List UInt8) (sigData : Option TextFile)
    (trustedKeys : TrustedKeys) (tier : TrustTier) : Except SignatureError Unit :=
  if tier ≠ .trusted then .ok ()
  else
    match sigData with
    | none => .error .noSigData
    | some sigData => do
        let (key, signature) ← parseSigFile ed25519 sigData
        if ed25519.verify key wasmBytes signature = false then .error .verificationFailed
        let trusted ← isKeyTrusted key trustedKeys
        if trusted then .ok () else .error (.untrustedKey (hexEncode key))

/-- A plugin of the trusted tier passes with the signature of its bytes by a trusted key. -/
theorem verify_signature_trusted {ed25519 : Ed25519} {wasmBytes : List UInt8}
    {sigData : Option TextFile} {trustedKeys : TrustedKeys} :
    verifySignature ed25519 wasmBytes sigData trustedKeys .trusted = .ok () ↔
      ∃ text key signature, sigData = some text ∧
        parseSigFile ed25519 text = .ok (key, signature) ∧
        ed25519.verify key wasmBytes signature = true ∧
        isKeyTrusted key trustedKeys = .ok true := by
  unfold verifySignature
  rw [if_neg (by simp)]
  cases sigData with
  | none => simp
  | some text =>
      cases hparse : parseSigFile ed25519 text with
      | error error => simp [bind, Except.bind, hparse]
      | ok parsed =>
          obtain ⟨key, signature⟩ := parsed
          cases hverify : ed25519.verify key wasmBytes signature with
          | false => simp [bind, Except.bind, hparse, hverify]
          | true =>
              cases htrusted : isKeyTrusted key trustedKeys with
              | error error => simp [bind, Except.bind, hparse, hverify, htrusted]
              | ok trusted =>
                  cases trusted <;> simp [bind, Except.bind, hparse, hverify, htrusted]

/-! ## Trimming -/

/-- Trimming takes white space off both ends. -/
theorem exists_trim (text : List Char) :
    ∃ front back, text = front ++ trim text ++ back ∧ (∀ c ∈ front, isWhiteSpace c = true) ∧
      ∀ c ∈ back, isWhiteSpace c = true := by
  refine ⟨text.takeWhile isWhiteSpace,
    ((text.dropWhile isWhiteSpace).reverse.takeWhile isWhiteSpace).reverse, ?_,
    fun c hc => List.mem_takeWhile_imp hc,
    fun c hc => List.mem_takeWhile_imp (List.mem_reverse.1 hc)⟩
  rw [trim, List.append_assoc, ← List.reverse_append, List.takeWhile_append_dropWhile,
    List.reverse_reverse, List.takeWhile_append_dropWhile]

theorem trim_eq_nil_iff {text : List Char} :
    trim text = [] ↔ text.all isWhiteSpace = true := by
  obtain ⟨front, back, heq, hfront, hback⟩ := exists_trim text
  constructor
  · intro h
    rw [heq, h, List.append_nil, List.all_append, Bool.and_eq_true]
    exact ⟨List.all_eq_true.2 hfront, List.all_eq_true.2 hback⟩
  · intro h
    rw [trim, List.dropWhile_eq_nil_iff.2 (List.all_eq_true.1 h)]
    rfl

/-- White space behind a text is trimmed. -/
theorem trim_append_of_white {text rest : List Char} (h : rest.all isWhiteSpace = true) :
    trim (text ++ rest) = trim text := by
  rw [List.all_eq_true] at h
  unfold trim
  rw [List.dropWhile_append]
  split
  · rename_i hempty
    rw [List.isEmpty_iff.1 hempty, List.dropWhile_eq_nil_iff.2 h]
  · rw [List.reverse_append,
      List.dropWhile_append_of_pos fun c hc => h c (List.mem_reverse.1 hc)]

/-- More than white space behind a text is not. -/
theorem trim_append_eq_iff {text rest : List Char} :
    trim text = trim (text ++ rest) ↔ rest.all isWhiteSpace = true := by
  refine ⟨fun h => ?_, fun h => (trim_append_of_white h).symm⟩
  by_cases htext : text.all isWhiteSpace = true
  · rw [trim_eq_nil_iff.2 htext] at h
    have hall := trim_eq_nil_iff.1 h.symm
    rw [List.all_append, Bool.and_eq_true] at hall
    exact hall.2
  · -- otherwise trimming takes nothing of the text in front of the rest
    by_contra hrest
    have hfront : (text.dropWhile isWhiteSpace).isEmpty = false := by
      rw [Bool.eq_false_iff, ne_eq, List.isEmpty_iff, List.dropWhile_eq_nil_iff]
      exact fun hall => htext (List.all_eq_true.2 hall)
    have hback : (rest.reverse.dropWhile isWhiteSpace).isEmpty = false := by
      rw [Bool.eq_false_iff, ne_eq, List.isEmpty_iff, List.dropWhile_eq_nil_iff]
      exact fun hall => hrest (List.all_eq_true.2 fun c hc => hall c (List.mem_reverse.2 hc))
    have hlonger : (trim (text ++ rest)).length =
        (rest.reverse.dropWhile isWhiteSpace).length + (text.dropWhile isWhiteSpace).length := by
      rw [trim, List.dropWhile_append, if_neg (by simp [hfront]), List.reverse_append,
        List.dropWhile_append, if_neg (by simp [hback]), List.length_reverse, List.length_append,
        List.length_reverse]
    have hshorter : (trim text).length ≤ (text.dropWhile isWhiteSpace).length := by
      have hdrop := List.length_dropWhile_le isWhiteSpace (text.dropWhile isWhiteSpace).reverse
      rw [List.length_reverse] at hdrop
      rw [trim, List.length_reverse]
      exact hdrop
    have hpos := List.length_pos_iff.2 (List.isEmpty_eq_false_iff.1 hback)
    rw [← h] at hlonger
    omega

end CorvidNano.Host.Signature
