import CorvidNano.Host.Signature
import CorvidNano.Library.Fallible

/-!
# Trusted keys

What the files of the signature gate say: a signature file carries a key and a signature, and a
key file lists a key, both in hexadecimal digits of any case. The gate reads the one and compares
the other as text, so it lets through what the files say if a listed key is also listed without
capital letters.
-/

namespace CorvidNano.Host.TrustedKeys

open Digits Sdk Signature

/-- The lines of a signature file that are neither empty nor comments. -/
def usableLines (text : List Char) : List (List Char) :=
  (lines text).filter fun line => line != [] && line.head? != some '#'

/-- The bytes that a line spells. -/
def lineBytes (line : List Char) : Option (List UInt8) := hexDecode (trim line)

/-- The first two usable lines of a signature file spell a key and a signature. -/
def Carries (text : List Char) (key signature : List UInt8) : Prop :=
  ∃ keyLine signatureLine rest, usableLines text = keyLine :: signatureLine :: rest ∧
    (lineBytes keyLine = some key ∧ key.length = 32) ∧
    (lineBytes signatureLine = some signature ∧ signature.length = 64)

/-- A signature of a message verifies under 32 bytes, which are then a key. -/
def Verifies (ed25519 : Ed25519) (key message signature : List UInt8) : Prop :=
  ed25519.validKey key = true ∧ ed25519.verify key message signature = true

/-- The signature file carries a signature of the module under the key. -/
def SignedBy (ed25519 : Ed25519) (wasmBytes : List UInt8) (sigData : Option TextFile)
    (key : List UInt8) : Prop :=
  ∃ text signature, sigData = some (some text) ∧ Carries text key signature ∧
    Verifies ed25519 key wasmBytes signature

/-- The first line of a text, which is empty if there is none. -/
def firstLine (text : List Char) : List Char := (lines text).head?.getD []

/-- The first line of a `.pub` file spells the key. -/
def Lists (file : KeyFile) (key : List UInt8) : Prop :=
  extension file.name = some "pub".toList ∧
    ∃ text, file.text = some text ∧ lineBytes (firstLine text) = some key

/-- The first line of a file has no capital letter. -/
def Lower (file : KeyFile) : Prop :=
  ∃ text, file.text = some text ∧ (trim (firstLine text)).all (fun c => !c.isUpper) = true

/-- The module is signed by a key that a file of the directory lists. -/
def Trusted (ed25519 : Ed25519) (wasmBytes : List UInt8) (sigData : Option TextFile)
    (files : List KeyFile) : Prop :=
  ∃ key, SignedBy ed25519 wasmBytes sigData key ∧ ∃ file ∈ files, Lists file key

/-! ## Signature files -/

/-- What decodes to the given number of bytes. -/
theorem decode_bytes_eq_ok {length : Nat} {invalidHex wrongLength : SignatureError}
    {text : List Char} {bytes : List UInt8} :
    decodeBytes length invalidHex wrongLength text = .ok bytes ↔
      hexDecode text = some bytes ∧ bytes.length = length := by
  unfold decodeBytes
  cases hexDecode text with
  | none => simp
  | some decoded =>
      by_cases hlength : decoded.length = length
      · simp only [if_pos hlength, Except.ok.injEq, Option.some.injEq]
        exact ⟨fun h => ⟨h, h ▸ hlength⟩, And.left⟩
      · simp only [if_neg hlength, reduceCtorEq, Option.some.injEq, false_iff]
        rintro ⟨rfl, h⟩
        exact hlength h

/-- A text is read as the key and the signature that it carries. -/
theorem parse_text_eq_ok {ed25519 : Ed25519} {text : List Char} {key signature : List UInt8} :
    parseSigFile ed25519 (some text) = .ok (key, signature) ↔
      Carries text key signature ∧ ed25519.validKey key = true := by
  unfold parseSigFile Carries
  simp only
  split
  · rename_i hlines
    simp [show usableLines text = [] from hlines]
  · rename_i line hlines
    simp [show usableLines text = [line] from hlines]
  · rename_i keyLine signatureLine rest hlines
    rw [show usableLines text = keyLine :: signatureLine :: rest from hlines]
    simp only [Fallible.bind_eq_ok, decode_bytes_eq_ok, lineBytes]
    constructor
    · rintro ⟨key', hkey, signature', hsignature, h⟩
      split at h
      · rename_i hvalid
        cases h
        exact ⟨⟨keyLine, signatureLine, rest, rfl, hkey, hsignature⟩, hvalid⟩
      · cases h
    · rintro ⟨⟨keyLine', signatureLine', rest', heq, hkey, hsignature⟩, hvalid⟩
      cases heq
      exact ⟨key, hkey, signature, hsignature, by rw [if_pos hvalid]⟩

/-- A signature file that is read is a text with the key and the signature. -/
theorem parse_sig_file_eq_ok {ed25519 : Ed25519} {sigData : TextFile}
    {key signature : List UInt8} :
    parseSigFile ed25519 sigData = .ok (key, signature) ↔
      ∃ text, sigData = some text ∧ Carries text key signature ∧
        ed25519.validKey key = true := by
  cases sigData with
  | none => simp [parseSigFile]
  | some text =>
      rw [parse_text_eq_ok]
      constructor
      · exact fun h => ⟨text, rfl, h⟩
      · rintro ⟨_, htext, h⟩
        cases htext
        exact h

/-- The signature file carries signatures under one key only. -/
theorem signed_by_unique {ed25519 : Ed25519} {wasmBytes : List UInt8}
    {sigData : Option TextFile} {key other : List UInt8}
    (h : SignedBy ed25519 wasmBytes sigData key)
    (hother : SignedBy ed25519 wasmBytes sigData other) : key = other := by
  obtain ⟨text, signature, rfl, ⟨_, _, _, hlines, ⟨hkey, -⟩, -⟩, -⟩ := h
  obtain ⟨_, _, htext, ⟨_, _, _, hlines', ⟨hkey', -⟩, -⟩, -⟩ := hother
  cases htext
  rw [hlines] at hlines'
  cases hlines'
  rw [hkey] at hkey'
  exact Option.some.inj hkey'

/-! ## Key files -/

/-- The search finds a key file with the text. -/
theorem find_key_eq_ok {targetHex : List Char} {files : List KeyFile} :
    findKey targetHex (files.map some) = .ok true ↔
      ∃ file ∈ files, extension file.name = some "pub".toList ∧
        file.text.map (fun text => trim (firstLine text)) = some targetHex := by
  induction files with
  | nil => simp [findKey]
  | cons file rest ih =>
      rw [List.map_cons, findKey, List.exists_mem_cons_iff]
      split
      · rename_i hfound
        exact iff_of_true rfl (.inl hfound)
      · rename_i hother
        rw [ih]
        exact ⟨.inr, fun h => h.resolve_left hother⟩

/-- The text of a key in lower case is in the files that list the key without capital letters. -/
theorem lists_lower_iff {file : KeyFile} {key : List UInt8} :
    (extension file.name = some "pub".toList ∧
      file.text.map (fun text => trim (firstLine text)) = some (hexEncode key)) ↔
      Lists file key ∧ Lower file := by
  constructor
  · rintro ⟨hpub, htext⟩
    obtain ⟨text, htext, hline⟩ := Option.map_eq_some_iff.1 htext
    refine ⟨⟨hpub, text, htext, ?_⟩, text, htext, ?_⟩
    · rw [lineBytes, hline, hex_decode_encode]
    · rw [hline, hex_encode_lower]
  · rintro ⟨⟨hpub, text, htext, hline⟩, text', htext', hlower⟩
    rw [htext] at htext'
    cases htext'
    exact ⟨hpub, by rw [htext, Option.map_some, hex_encode_of_decode hline hlower]⟩

/-! ## The gate -/

/-- The gate passes a module signed by a key that a file lists without capital letters. -/
theorem verify_signature_eq_ok {ed25519 : Ed25519} {wasmBytes : List UInt8}
    {sigData : Option TextFile} {files : List KeyFile} :
    verifySignature ed25519 wasmBytes sigData (.entries (files.map some)) .trusted = .ok () ↔
      ∃ key, SignedBy ed25519 wasmBytes sigData key ∧
        ∃ file ∈ files, Lists file key ∧ Lower file := by
  have htrusted : ∀ key, isKeyTrusted key (.entries (files.map some)) = .ok true ↔
      ∃ file ∈ files, Lists file key ∧ Lower file := by
    intro key
    rw [isKeyTrusted, find_key_eq_ok]
    exact exists_congr fun file => and_congr_right fun _ => lists_lower_iff
  simp only [verify_signature_trusted, parse_sig_file_eq_ok, htrusted]
  constructor
  · rintro ⟨_, key, signature, rfl, ⟨text, rfl, hcarries, hvalid⟩, hverify, hlisted⟩
    exact ⟨key, ⟨text, signature, rfl, hcarries, hvalid, hverify⟩, hlisted⟩
  · rintro ⟨key, ⟨text, signature, rfl, hcarries, hvalid, hverify⟩, hlisted⟩
    exact ⟨some text, key, signature, rfl, ⟨text, rfl, hcarries, hvalid⟩, hverify, hlisted⟩

/-- The gate never passes more than the files say. -/
theorem trusted_of_verify_signature {ed25519 : Ed25519} {wasmBytes : List UInt8}
    {sigData : Option TextFile} {files : List KeyFile}
    (h : verifySignature ed25519 wasmBytes sigData (.entries (files.map some)) .trusted = .ok ()) :
    Trusted ed25519 wasmBytes sigData files := by
  obtain ⟨key, hsigned, file, hmem, hlists, -⟩ := verify_signature_eq_ok.1 h
  exact ⟨key, hsigned, file, hmem, hlists⟩

/-- The gate passes exactly what the files say if and only if a listed key that the module is
signed by is also listed without capital letters. -/
theorem verify_signature_iff_trusted (ed25519 : Ed25519) (wasmBytes : List UInt8)
    (sigData : Option TextFile) (files : List KeyFile) :
    (verifySignature ed25519 wasmBytes sigData (.entries (files.map some)) .trusted = .ok () ↔
      Trusted ed25519 wasmBytes sigData files) ↔
      ∀ key, SignedBy ed25519 wasmBytes sigData key → (∃ file ∈ files, Lists file key) →
        ∃ file ∈ files, Lists file key ∧ Lower file := by
  constructor
  · intro h key hsigned hlisted
    obtain ⟨key', hsigned', hfound⟩ := verify_signature_eq_ok.1 (h.2 ⟨key, hsigned, hlisted⟩)
    rw [signed_by_unique hsigned hsigned']
    exact hfound
  · intro h
    refine ⟨trusted_of_verify_signature, ?_⟩
    rintro ⟨key, hsigned, hlisted⟩
    exact verify_signature_eq_ok.2 ⟨key, hsigned, h key hsigned hlisted⟩

/-! ## A key in capital letters -/

/-- A signature scheme in which a signature is the key twice, whatever the message. -/
def sampleScheme : Ed25519 where
  validKey key := key.length == 32
  verify key _ signature := signature == key ++ key

/-- The key, a signature file for it and the key file that lists it in capital letters. -/
def sampleKey : List UInt8 := List.replicate 32 0xAB

def sampleSignature : List Char :=
  hexEncode sampleKey ++ '\n' :: hexEncode (sampleKey ++ sampleKey)

def sampleKeyFile : KeyFile where
  name := "publisher.pub".toList
  text := some (List.replicate 32 ['A', 'B']).flatten

/-- A module is rejected although its key is listed, in capital letters. -/
theorem capital_key_rejected :
    verifySignature sampleScheme [] (some (some sampleSignature)) (.entries [some sampleKeyFile])
        .trusted = .error (.untrustedKey (hexEncode sampleKey)) ∧
      Trusted sampleScheme [] (some (some sampleSignature)) [sampleKeyFile] := by
  refine ⟨by decide +kernel, sampleKey, ⟨sampleSignature, sampleKey ++ sampleKey, rfl,
    ⟨hexEncode sampleKey, hexEncode (sampleKey ++ sampleKey), [], ?_, ?_, ?_⟩, ?_⟩,
    sampleKeyFile, List.mem_singleton_self _, by decide +kernel, _, rfl, by decide +kernel⟩
  · decide +kernel
  · decide +kernel
  · decide +kernel
  · exact ⟨by decide +kernel, by decide +kernel⟩

end CorvidNano.Host.TrustedKeys
