import BrokerRelay.Proofs.Pem.Projection
import BrokerRelay.Proofs.Tls.Sections
/-!
# Key files whose key is encrypted in place

A file holds one private key, among comments and blocks of other kinds (`KeyFile`), and the block of the
key is replaced by an encrypted one (`KeyFile.sealed`). Two readers see the new file: decryption looks at
the first block and drops everything else, and the key is then looked for section by section.

* `KeyFile.standsIn_sealed` and `KeyFile.value_load_sealed_empty`: where no block stands in front of the
  key, the first block is the encrypted one, and the same identity is loaded with the right password.
* `KeyFile.value_load_sealed_behind`: where one does, nothing is decrypted, and the encrypted block is a
  malformed section under every password.
* `Identity.load_eq_load`: where the first block is not encrypted, the password does not count.
-/

namespace BrokerRelay

namespace Tls

/-! ## §1 Files with one private key -/

/-- A file with the block of a private key, on lines of its own, behind which anything may follow. In
front of it stand whole sections without a key, if any. -/
structure KeyFile where
  before : Bytes
  block : Bytes
  after : Bytes
  kind : Pem.SectionKind
  form : KeyForm
  der : Bytes
  form_eq : KeyForm.ofSection? kind = some form
  isSequence : Pem.isDerSequence der
  endsLine_before : Pem.EndsLine before
  passed_before : ∀ s ∈ Pem.Section.scan before, s.IsPassed
  scan_block : Pem.Section.scan block = [.item kind der]
  endsLine_block : Pem.EndsLine block ∨ after = []

/-- An encryption of some bytes under a password, as it is written into a file. -/
structure Sealing (der : Bytes) (password : String) where
  cipher : Pem.Cipher
  iv : Bytes
  key : Bytes
  hex : List Char
  ending : Pem.LineEnding
  lines : List Bytes
  length_iv : iv.length = cipher.blockCipher.blockSize
  derived : Pem.DerivedKey (Bytes.encodeUtf8 password) (iv.take 8) cipher.blockCipher.keySize key
  digits : hex.map Char.toLower = (Bytes.toHex iv).toList
  symbols : lines.flatten = Base64.encode (cipher.blockCipher.encryptText key iv der)

namespace KeyFile

variable {password : String}

/-- The text of the file. -/
def text (file : KeyFile) : Bytes := file.before ++ (file.block ++ file.after)

/-- The encrypted block that takes the place of the key's. -/
def sealedBlock (file : KeyFile) (sealing : Sealing file.der password) : Bytes :=
  Pem.encryptedText sealing.ending file.kind.label.toList sealing.cipher sealing.hex sealing.lines

/-- The text of the file with its key encrypted in place. -/
def sealedText (file : KeyFile) (sealing : Sealing file.der password) : Bytes :=
  file.before ++ (file.sealedBlock sealing ++ file.after)

variable (file : KeyFile) (sealing : Sealing file.der password)

theorem not_malformed_before (reason : String) :
    Pem.Section.malformed reason ∉ Pem.Section.scan file.before := by
  intro hmem
  exact (file.passed_before _ hmem).2 reason rfl

theorem scan_text : Pem.Section.scan file.text =
    Pem.Section.scan file.before ++ .item file.kind file.der :: Pem.Section.scan file.after := by
  have hblock : Pem.Section.scan (file.block ++ file.after) =
      .item file.kind file.der :: Pem.Section.scan file.after := by
    rcases file.endsLine_block with hends | hnone
    · rw [Pem.scan_append hends, file.scan_block]
      · rfl
      · rw [file.scan_block]
        intro reason hmem
        cases List.mem_singleton.mp hmem
    · rw [hnone, List.append_nil, file.scan_block]
      rfl
  unfold text
  rw [Pem.scan_append file.endsLine_before file.not_malformed_before, hblock]

theorem scan_sealedText : Pem.Section.scan (file.sealedText sealing) =
    Pem.Section.scan file.before ++ .malformed "InvalidCharacter(45)" :: Pem.Section.scan file.after := by
  unfold sealedText sealedBlock
  rw [Pem.scan_append file.endsLine_before file.not_malformed_before,
    Pem.scan_encryptedText file.kind (Bytes.ofHexChars?_of_toLower sealing.digits) sealing.symbols]

/-- A private key is no certificate, whether it is encrypted or not. -/
theorem certificatesIn_sealedText :
    certificatesIn (file.sealedText sealing) = certificatesIn file.text := by
  have hkey : Pem.Section.certificate? (.item file.kind file.der) = none := by
    have hform := file.form_eq
    cases hkind : file.kind with
    | certificate =>
      rw [hkind] at hform
      cases hform
    | _ => rfl
  unfold certificatesIn
  rw [scan_sealedText, scan_text, List.filterMap_append, List.filterMap_append,
    List.filterMap_cons_none hkey, List.filterMap_cons_none rfl]

theorem firstPrivateKey_text (path : String) :
    firstPrivateKey path (Pem.Section.scan file.text) = .ok ⟨file.form, file.der⟩ := by
  rw [scan_text, firstPrivateKey_append_of_passed file.passed_before, firstPrivateKey, file.form_eq]

theorem firstPrivateKey_sealedText (path : String) :
    firstPrivateKey path (Pem.Section.scan (file.sealedText sealing)) =
      .error (.key (.malformedPem (path ++ ": InvalidCharacter(45)"))) := by
  rw [scan_sealedText, firstPrivateKey_append_of_passed file.passed_before, firstPrivateKey,
    String.append_assoc]
  rfl

/-! ## §2 What decryption makes of them -/

/-- Where no block stands in front of the key, the encrypted block is the first one. -/
theorem parse_sealedText (hfirst : ¬ Pem.beginMark <:+: file.before) :
    Pem.Block.parse (file.sealedText sealing) = .ok ⟨file.kind.label.toList,
      Pem.encryptionHeaders sealing.cipher sealing.hex,
      sealing.cipher.blockCipher.encryptText sealing.key sealing.iv file.der⟩ := by
  have hlabel : Pem.Delimited file.kind.label.toList := by cases file.kind <;> decide
  have hblock : Pem.Block.parse (file.sealedBlock sealing ++ file.after) = .ok _ :=
    Pem.parse_append (Pem.parse_encryptedText hlabel (Bytes.ofHexChars?_of_toLower sealing.digits)
      sealing.symbols) file.after
  obtain ⟨rest, hmark⟩ : ∃ rest, file.sealedBlock sealing ++ file.after = Pem.beginMark ++ rest :=
    ⟨_, List.append_assoc ..⟩
  unfold sealedText
  rw [hmark] at hblock ⊢
  exact (Pem.parse_behind hfirst file.endsLine_before rest).trans hblock

theorem decrypt_sealedText (hpassword : password ≠ "") (hfirst : ¬ Pem.beginMark <:+: file.before) :
    Pem.decrypt (file.sealedText sealing) password =
      .ok (Pem.Block.encode ⟨file.kind.label.toList, [], file.der⟩) :=
  Pem.decrypt_of_parse hpassword sealing.length_iv (Bytes.ofHexChars?_of_toLower sealing.digits)
    sealing.derived file.isSequence (file.parse_sealedText sealing hfirst)

theorem decrypt_sealedText_empty (hfirst : ¬ Pem.beginMark <:+: file.before) :
    Pem.decrypt (file.sealedText sealing) "" = .error .encryptedWithoutPassword :=
  Pem.decrypt_empty_password (file.parse_sealedText sealing hfirst)
    (by rw [Pem.header?_encryptionHeaders]; rfl)

/-- Where a block stands in front of the key, it is the first one, with and without encryption. -/
theorem decrypt_sealedText_behind {b : Pem.Block} (hbefore : Pem.Block.parse file.before = .ok b)
    (hplain : Pem.isEncrypted file.text = .ok false) (other : String) :
    Pem.decrypt (file.sealedText sealing) other = .ok (file.sealedText sealing) := by
  obtain ⟨b', hparse, hnone⟩ := Pem.isEncrypted_eq_ok_iff.mp hplain
  obtain rfl : b = b' := Except.ok.inj ((Pem.parse_append hbefore _).symm.trans hparse)
  exact Pem.decrypt_of_not_encrypted
    (Pem.isEncrypted_eq_ok_iff.mpr ⟨b, Pem.parse_append hbefore _, hnone⟩) other

end KeyFile

/-! ## §3 Loading -/

section Load

variable {storage : Storage} {log : List LogEvent} {certPath keyPath password : String}
  {certText keyText text : Bytes}

/-- Loading ends with the failure of decryption. -/
theorem Identity.value_load_of_not_decrypted {failure : KeyFailure}
    (hcert : storage.read certPath = .ok certText) (hkey : storage.read keyPath = .ok keyText)
    (hdecrypt : Pem.decrypt keyText password = .error failure) :
    (Identity.load storage certPath keyPath password).value log = .error (.key failure) := by
  unfold Identity.load
  rw [readKeyFile_eq_ok_iff.mpr hcert, readKeyFile_eq_ok_iff.mpr hkey, Logged.ofExcept_ok_bind,
    Logged.ofExcept_ok_bind, hdecrypt]
  rfl

/-- Loading ends with the failure to find a key. -/
theorem Identity.value_load_of_no_key {failure : TlsFailure}
    (hcert : storage.read certPath = .ok certText) (hkey : storage.read keyPath = .ok keyText)
    (hdecrypt : Pem.decrypt keyText password = .ok text) (hchain : certificatesIn certText ≠ [])
    (hnone : firstPrivateKey keyPath (Pem.Section.scan text) = .error failure) :
    (Identity.load storage certPath keyPath password).value log = .error failure := by
  have hcertificates : (certificatesOf certPath certText).value log = .ok (certificatesIn certText) :=
    value_certificatesOf_eq_ok_iff.mpr ⟨rfl, hchain⟩
  unfold Identity.load privateKeyOf
  rw [readKeyFile_eq_ok_iff.mpr hcert, readKeyFile_eq_ok_iff.mpr hkey, Logged.ofExcept_ok_bind,
    Logged.ofExcept_ok_bind, hdecrypt, Except.mapError, Logged.ofExcept_ok_bind, Logged.value_bind,
    hcertificates, hnone]
  rfl

/-- The password has no influence on anything if the key file is not encrypted. -/
theorem Identity.load_eq_load
    (hplain : ∀ text, storage.read keyPath = .ok text → Pem.isEncrypted text ≠ .ok true)
    (password other : String) :
    Identity.load storage certPath keyPath password = Identity.load storage certPath keyPath other := by
  unfold Identity.load
  cases hread : readKeyFile storage keyPath with
  | error failure => simp only [Logged.ofExcept_error_bind]
  | ok text =>
    have htext := Pem.decrypt_eq_decrypt (hplain text (readKeyFile_eq_ok_iff.mp hread)) password other
    simp only [Logged.ofExcept_ok_bind, htext]

end Load

namespace KeyFile

variable {password : String} (file : KeyFile) (sealing : Sealing file.der password)

/-- Two storages that differ in the file alone, which the second one holds with its key encrypted. The
certificates stand in a file of their own, or in the same one. -/
structure SealedIn (plain sealed : Storage) (certPath keyPath : String) : Prop where
  plain_key : plain.read keyPath = .ok file.text
  sealed_key : sealed.read keyPath = .ok (file.sealedText sealing)
  certificates : sealed.read certPath = plain.read certPath ∨
    plain.read certPath = .ok file.text ∧ sealed.read certPath = .ok (file.sealedText sealing)

variable {plain sealed : Storage} {certPath keyPath other : String} {identity : Identity}

/-- The certificates that are read stay the same. -/
theorem SealedIn.exists_certificates (h : file.SealedIn sealing plain sealed certPath keyPath)
    {certText : Bytes} (hcert : plain.read certPath = .ok certText) :
    ∃ certText', sealed.read certPath = .ok certText' ∧
      certificatesIn certText' = certificatesIn certText := by
  rcases h.certificates with hsame | ⟨hplain, hsealed⟩
  · exact ⟨certText, hsame.trans hcert, rfl⟩
  · obtain rfl : file.text = certText := Except.ok.inj (hplain.symm.trans hcert)
    exact ⟨_, hsealed, file.certificatesIn_sealedText sealing⟩

/-- The identity has the key of the file. -/
theorem key_of_standsIn (hread : plain.read keyPath = .ok file.text)
    (hplain : Pem.isEncrypted file.text = .ok false)
    (hidentity : identity.StandsIn plain certPath keyPath other) :
    identity.key = ⟨file.form, file.der⟩ := by
  obtain ⟨sealed, text, hsealed, hdecrypt, hkey⟩ := hidentity.key
  obtain rfl : file.text = sealed := Except.ok.inj (hread.symm.trans hsealed)
  rw [Pem.decrypt_of_not_encrypted hplain] at hdecrypt
  obtain rfl : file.text = text := Except.ok.inj hdecrypt
  rw [firstPrivateKey_text] at hkey
  exact (Except.ok.inj hkey).symm

/-- Where no block stands in front of the key, the identity stands in the files after encryption. -/
theorem standsIn_sealed (h : file.SealedIn sealing plain sealed certPath keyPath)
    (hplain : Pem.isEncrypted file.text = .ok false)
    (hidentity : identity.StandsIn plain certPath keyPath other) (hpassword : password ≠ "")
    (hfirst : ¬ Pem.beginMark <:+: file.before) :
    identity.StandsIn sealed certPath keyPath password := by
  obtain ⟨certText, hcert, hchain⟩ := hidentity.chain
  obtain ⟨certText', hcert', hsame⟩ := h.exists_certificates file sealing hcert
  have hscan : Pem.Section.scan (Pem.Block.encode ⟨file.kind.label.toList, [], file.der⟩) =
      [.item file.kind file.der] := by
    have hencode := Pem.scan_encode file.kind file.der []
    rwa [List.append_nil] at hencode
  refine ⟨⟨certText', hcert', hchain.trans hsame.symm⟩, hidentity.chain_ne, ?_⟩
  refine ⟨_, _, h.sealed_key, file.decrypt_sealedText sealing hpassword hfirst, ?_⟩
  rw [hscan, firstPrivateKey, file.form_eq, file.key_of_standsIn h.plain_key hplain hidentity]

/-- Without a password it is not even tried. -/
theorem value_load_sealed_empty (h : file.SealedIn sealing plain sealed certPath keyPath)
    {certText : Bytes} (hcert : plain.read certPath = .ok certText)
    (hfirst : ¬ Pem.beginMark <:+: file.before) (log : List LogEvent) :
    (Identity.load sealed certPath keyPath "").value log = .error (.key .encryptedWithoutPassword) := by
  obtain ⟨certText', hcert', -⟩ := h.exists_certificates file sealing hcert
  exact Identity.value_load_of_not_decrypted hcert' h.sealed_key
    (file.decrypt_sealedText_empty sealing hfirst)

/-- Where a block stands in front of the key, the encrypted block is never decrypted, and no key is
found. -/
theorem value_load_sealed_behind (h : file.SealedIn sealing plain sealed certPath keyPath)
    (hplain : Pem.isEncrypted file.text = .ok false) {certText : Bytes}
    (hcert : plain.read certPath = .ok certText) (hchain : certificatesIn certText ≠ [])
    {b : Pem.Block} (hbefore : Pem.Block.parse file.before = .ok b) (any : String)
    (log : List LogEvent) :
    (Identity.load sealed certPath keyPath any).value log =
      .error (.key (.malformedPem (keyPath ++ ": InvalidCharacter(45)"))) := by
  obtain ⟨certText', hcert', hsame⟩ := h.exists_certificates file sealing hcert
  exact Identity.value_load_of_no_key hcert' h.sealed_key
    (file.decrypt_sealedText_behind sealing hbefore hplain any) (hsame ▸ hchain)
    (file.firstPrivateKey_sealedText sealing keyPath)

end KeyFile

/-- **A key that is encrypted in place is loaded if it stands in the first block of its file.** Take a
file from which an identity is loaded and whose first block is not encrypted, with the block of a private
key on lines of its own and whole sections without a key before it, and put an encryption of the key in
the place of its block, under any cipher and password. The key that was loaded is the one in the block. If
no block stands in front of it, the right password loads the same identity, certificates and key, and
without a password the file is refused as encrypted. If a block does, it is the only one that decryption
looks at: the file is left as it is, and under every password loading ends at the encrypted block, which
is malformed. And any file whose first block is not encrypted is loaded in the same way under every
password. -/
theorem sealed_key_loaded_from_first_block (file : KeyFile) {password : String}
    (hpassword : password ≠ "") (sealing : Sealing file.der password) {plain sealed : Storage}
    {certPath keyPath : String} (hsealed : file.SealedIn sealing plain sealed certPath keyPath)
    (hplain : Pem.isEncrypted file.text = .ok false) {other : String} {identity : Identity}
    (hload : (Identity.load plain certPath keyPath other).outcome.1 = .ok identity) :
    identity.key = ⟨file.form, file.der⟩ ∧
    (¬ Pem.beginMark <:+: file.before →
      (Identity.load sealed certPath keyPath password).outcome.1 = .ok identity ∧
      (Identity.load sealed certPath keyPath "").outcome.1 =
        .error (.key .encryptedWithoutPassword)) ∧
    ((∃ b, Pem.Block.parse file.before = .ok b) → ∀ any,
      (Identity.load sealed certPath keyPath any).outcome.1 =
        .error (.key (.malformedPem (keyPath ++ ": InvalidCharacter(45)")))) ∧
    ∀ (storage : Storage) (certPath keyPath : String),
      (∀ text, storage.read keyPath = .ok text → Pem.isEncrypted text ≠ .ok true) →
        ∀ one another, Identity.load storage certPath keyPath one =
          Identity.load storage certPath keyPath another := by
  have hidentity : identity.StandsIn plain certPath keyPath other :=
    Identity.value_load_eq_ok_iff.mp hload
  obtain ⟨certText, hcert, hchain⟩ := hidentity.chain
  refine ⟨file.key_of_standsIn hsealed.plain_key hplain hidentity, fun hfirst => ⟨?_, ?_⟩, ?_, ?_⟩
  · exact Identity.value_load_eq_ok_iff.mpr
      (file.standsIn_sealed sealing hsealed hplain hidentity hpassword hfirst)
  · exact file.value_load_sealed_empty sealing hsealed hcert hfirst []
  · rintro ⟨b, hbefore⟩ any
    exact file.value_load_sealed_behind sealing hsealed hplain hcert (hchain ▸ hidentity.chain_ne)
      hbefore any []
  · intro storage certPath keyPath hfiles
    exact Identity.load_eq_load hfiles

/-! ### A key in front of its certificate and behind it -/

/-- The smallest DER sequence with a number in it, in the place of a key. -/
def shortKey : Bytes := [0x30, 0x03, 0x02, 0x01, 0x05]

/-- A block of a certificate. -/
def certificateBlock : Bytes :=
  Pem.blockText .lf "CERTIFICATE".toList [] [Base64.encode [0x30, 0x00]]

/-- A file with the short key between other texts. -/
def KeyFile.around (before after : Bytes) (hends : Pem.EndsLine before)
    (hpassed : ∀ s ∈ Pem.Section.scan before, s.IsPassed) : KeyFile where
  before := before
  block := Pem.blockText .lf "EC PRIVATE KEY".toList [] [Base64.encode shortKey]
  after := after
  kind := .ecPrivateKey
  form := .curve
  der := shortKey
  form_eq := rfl
  isSequence := by decide
  endsLine_before := hends
  passed_before := hpassed
  scan_block := by decide
  endsLine_block := .inl (by decide)

/-- The key stands in front of the certificate. -/
def keyFirst : KeyFile := .around (Bytes.encodeUtf8 "relay\n") certificateBlock (by decide) (by decide)

/-- The certificate stands in front of the key. -/
def certificateFirst : KeyFile := .around certificateBlock [] (by decide) (by decide)

/-- The short key under AES, with an initial vector of equal bytes. -/
def shortSealing : Sealing shortKey "secret" where
  cipher := .aes128
  iv := List.replicate 16 7
  key := Pem.deriveKey (Bytes.encodeUtf8 "secret") (List.replicate 8 7) 16
  hex := (Bytes.toHex (List.replicate 16 7)).toList
  ending := .lf
  lines := [Base64.encode ((Crypto.aes 4).encryptText
    (Pem.deriveKey (Bytes.encodeUtf8 "secret") (List.replicate 8 7) 16) (List.replicate 16 7) shortKey)]
  length_iv := rfl
  derived := Pem.derivedKey_deriveKey _ _ _
  digits := by decide
  symbols := List.flatten_singleton

/-- A storage that holds one text under every path. -/
def everywhere (text : Bytes) : Storage := ⟨fun _ => .ok text⟩

theorem KeyFile.sealedIn_everywhere {password : String} (file : KeyFile)
    (sealing : Sealing file.der password) (certPath keyPath : String) :
    file.SealedIn sealing (everywhere file.text) (everywhere (file.sealedText sealing)) certPath keyPath :=
  ⟨rfl, rfl, .inr ⟨rfl, rfl⟩⟩

/-- The file alone gives an identity, if there is a certificate in it. -/
theorem KeyFile.standsIn_everywhere (file : KeyFile) (hplain : Pem.isEncrypted file.text = .ok false)
    (hchain : certificatesIn file.text ≠ []) (certPath keyPath password : String) :
    Identity.StandsIn ⟨certificatesIn file.text, ⟨file.form, file.der⟩⟩ (everywhere file.text) certPath
      keyPath password where
  chain := ⟨file.text, rfl, rfl⟩
  chain_ne := hchain
  key := ⟨file.text, file.text, rfl, Pem.decrypt_of_not_encrypted hplain password,
    file.firstPrivateKey_text keyPath⟩

/-- In front of its certificate the encrypted key is loaded like the plain one. -/
theorem sealed_key_loaded_from_first_block_of_bundle :
    let identity : Identity := ⟨[[0x30, 0x00]], ⟨.curve, shortKey⟩⟩
    let sealed := everywhere (keyFirst.sealedText shortSealing)
    (Identity.load (everywhere keyFirst.text) "relay.pem" "relay.pem" "").outcome.1 = .ok identity ∧
      (Identity.load sealed "relay.pem" "relay.pem" "secret").outcome.1 = .ok identity ∧
      (Identity.load sealed "relay.pem" "relay.pem" "").outcome.1 =
        .error (.key .encryptedWithoutPassword) := by
  intro identity sealed
  have hplain : Pem.isEncrypted keyFirst.text = .ok false := by decide +kernel
  have hchain : certificatesIn keyFirst.text = [[0x30, 0x00]] := by decide +kernel
  have hstands := keyFirst.standsIn_everywhere hplain (by rw [hchain]; exact List.cons_ne_nil _ _)
    "relay.pem" "relay.pem" ""
  rw [hchain] at hstands
  have hload : (Identity.load (everywhere keyFirst.text) "relay.pem" "relay.pem" "").outcome.1 =
      .ok identity := Identity.value_load_eq_ok_iff.mpr hstands
  have hfirst : ¬ Pem.beginMark <:+: keyFirst.before := by decide
  have hsealed := keyFirst.sealedIn_everywhere shortSealing "relay.pem" "relay.pem"
  obtain ⟨-, hloaded, -⟩ := sealed_key_loaded_from_first_block keyFirst (by decide) shortSealing hsealed
    hplain hload
  exact ⟨hload, hloaded hfirst⟩

/-- Behind its certificate the encrypted key is lost, although the plain one is loaded. -/
theorem sealed_key_lost_behind_certificate :
    let identity : Identity := ⟨[[0x30, 0x00]], ⟨.curve, shortKey⟩⟩
    let sealed := everywhere (certificateFirst.sealedText shortSealing)
    let lost : Except TlsFailure Identity :=
      .error (.key (.malformedPem "relay.pem: InvalidCharacter(45)"))
    (Identity.load (everywhere certificateFirst.text) "relay.pem" "relay.pem" "").outcome.1 =
        .ok identity ∧
      (Identity.load sealed "relay.pem" "relay.pem" "secret").outcome.1 = lost ∧
      (Identity.load sealed "relay.pem" "relay.pem" "").outcome.1 = lost := by
  intro identity sealed lost
  have hplain : Pem.isEncrypted certificateFirst.text = .ok false := by decide +kernel
  have hchain : certificatesIn certificateFirst.text = [[0x30, 0x00]] := by decide +kernel
  have hne : certificatesIn certificateFirst.text ≠ [] := by rw [hchain]; exact List.cons_ne_nil _ _
  have hstands := certificateFirst.standsIn_everywhere hplain hne "relay.pem" "relay.pem" ""
  rw [hchain] at hstands
  have hbefore : Pem.Block.parse certificateFirst.before =
      .ok ⟨"CERTIFICATE".toList, [], [0x30, 0x00]⟩ := by decide +kernel
  have hsealed := certificateFirst.sealedIn_everywhere shortSealing "relay.pem" "relay.pem"
  have hlost : ∀ any, (Identity.load sealed "relay.pem" "relay.pem" any).outcome.1 = lost := by
    intro any
    rw [Logged.outcome_fst]
    exact certificateFirst.value_load_sealed_behind shortSealing hsealed hplain rfl hne hbefore any []
  exact ⟨Identity.value_load_eq_ok_iff.mpr hstands, hlost "secret", hlost ""⟩

end Tls

end BrokerRelay
