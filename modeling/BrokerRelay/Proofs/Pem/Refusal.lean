import BrokerRelay.Proofs.Pem.Projection
/-!
# Why an encrypted block is not decrypted

A block that is marked as encrypted is checked in a fixed order: the password, the parts of its header,
the cipher, the digits of the initial vector, and then the contents. The first check that fails names
the failure, whatever else is wrong with the block.

* `DekInfo.parse_of_no_comma`, `DekInfo.parse_of_unknown`, `DekInfo.parse_of_no_vector` and
  `DekInfo.parse_of_digits`: what is made of a header.
* `decryptContents_eq_ok_iff`: which contents are decrypted, in terms of blocks, padding and DER.
* `decrypt_refusals`: which failure a block ends with, and that no check is missing before the bytes of
  the initial vector and of the key are used.
-/

namespace BrokerRelay.Pem

/-! ## §1 The header -/

theorem Cipher.ofName?_of_unknown {name : List Char}
    (h : ∀ cipher : Cipher, cipher.name.toList ≠ name) : ofName? name = none := by
  cases hname : ofName? name with
  | none => rfl
  | some cipher => exact absurd (Cipher.ofName?_eq_some_iff.mp hname) (h cipher)

variable {value name digits : List Char} {cipher : Cipher} {iv : Bytes}

theorem DekInfo.parse_of_no_comma (h : ',' ∉ value) : DekInfo.parse value =
    .error (.malformedPem ("malformed DEK-Info '" ++ String.ofList value ++ "'")) := by
  unfold DekInfo.parse
  rw [Text.cutFirst?_of_not_mem h]

theorem DekInfo.parse_of_unknown (hname : ',' ∉ name)
    (hunknown : ∀ cipher : Cipher, cipher.name.toList ≠ Text.trimChars name) :
    DekInfo.parse (name ++ ',' :: digits) =
      .error (.unsupportedCipher (String.ofList (Text.trimChars name))) := by
  unfold DekInfo.parse
  rw [Text.cutFirst?_append hname]
  dsimp only
  rw [Cipher.ofName?_of_unknown hunknown]

theorem DekInfo.parse_of_no_vector (hname : ',' ∉ name)
    (hcipher : cipher.name.toList = Text.trimChars name)
    (hdigits : ∀ iv : Bytes, DigitsOf iv digits → iv.length ≠ cipher.blockCipher.blockSize) :
    DekInfo.parse (name ++ ',' :: digits) = .error (.malformedPem "invalid DEK-Info IV") := by
  unfold DekInfo.parse
  rw [Text.cutFirst?_append hname]
  dsimp only
  rw [Cipher.ofName?_eq_some_iff.mpr hcipher]
  dsimp only
  split
  · rename_i iv hread
    exact if_neg (hdigits iv (Bytes.ofHexChars?_eq_some_iff.mp hread))
  · rfl

/-! ## §2 The contents -/

/-- Every cipher decrypts blocks to blocks under a key of its size. -/
theorem Cipher.keepsBlocks (cipher : Cipher) {key : Bytes}
    (hkey : key.length = cipher.blockCipher.keySize) :
    cipher.blockCipher.KeepsBlocks (cipher.blockCipher.expand key) := by
  cases cipher with
  | des => exact Crypto.des_keepsBlocks _
  | tripleDes => exact Crypto.tripleDes_keepsBlocks _
  | aes128 => exact Crypto.aes_keepsBlocks (by decide) hkey
  | aes192 => exact Crypto.aes_keepsBlocks (by decide) hkey
  | aes256 => exact Crypto.aes_keepsBlocks (by decide) hkey

/-- The salt is taken from an initial vector that is long enough. -/
theorem Cipher.eight_le_blockSize (cipher : Cipher) : 8 ≤ cipher.blockCipher.blockSize := by
  cases cipher <;> decide

variable {password key contents der : Bytes}

/-- Contents are decrypted if they have whole blocks, at least one, their decryption under the key of
the password is padded, and what is left without the padding is one DER sequence. -/
theorem decryptContents_eq_ok_iff (hiv : iv.length = cipher.blockCipher.blockSize)
    (hkey : DerivedKey password (iv.take 8) cipher.blockCipher.keySize key) :
    decryptContents ⟨cipher, iv⟩ password contents = .ok der ↔
      contents ≠ [] ∧ contents.length % cipher.blockCipher.blockSize = 0 ∧
        ∃ padded, cipher.blockCipher.Unchained (cipher.blockCipher.expand key) iv contents padded ∧
          Crypto.Padded cipher.blockCipher.blockSize der padded ∧ isDerSequence der := by
  obtain rfl : key = deriveKey password (iv.take 8) cipher.blockCipher.keySize :=
    hkey.unique (derivedKey_deriveKey _ _ _)
  have hread : decryptContents ⟨cipher, iv⟩ password contents = .ok der ↔
      cipher.blockCipher.decryptText? (deriveKey password (iv.take 8) cipher.blockCipher.keySize) iv
        contents = some der ∧ isDerSequence der := by
    unfold decryptContents
    dsimp only
    split
    · simp_all
    · rename_i der' hder'
      rw [hder', Option.some.injEq]
      by_cases hseq : isDerSequence der'
      · rw [if_pos hseq, Except.ok.injEq]
        exact ⟨fun h => ⟨h, h ▸ hseq⟩, fun h => h.1⟩
      · rw [if_neg hseq]
        exact ⟨nofun, fun h => absurd (h.1 ▸ h.2) hseq⟩
  rw [hread, (cipher.keepsBlocks hkey.length_eq).decryptText?_eq_some_iff cipher.blockSize_bounds.2 hiv]
  constructor
  · rintro ⟨⟨hne, hwhole, padded, hplain, hpadded⟩, hseq⟩
    exact ⟨hne, hwhole, padded, hplain, hpadded, hseq⟩
  · rintro ⟨hne, hwhole, padded, hplain, hpadded, hseq⟩
    exact ⟨⟨hne, hwhole, padded, hplain, hpadded⟩, hseq⟩

/-- Contents that are not decrypted fail in one way. -/
theorem decryptContents_eq_error_iff {info : DekInfo} :
    decryptContents info password contents = .error .decryptionFailed ↔
      ∀ der, decryptContents info password contents ≠ .ok der := by
  constructor
  · rintro h der hok
    rw [h] at hok
    cases hok
  · intro h
    unfold decryptContents at h ⊢
    dsimp only at h ⊢
    split
    · rfl
    · rename_i der hder
      rw [hder] at h
      by_cases hseq : isDerSequence der
      · exact absurd (if_pos hseq) (h der)
      · exact if_neg hseq

/-- What may be wrong with the contents of a block: there are none, they are not cut into blocks, their
decryption has no padding, or what was padded is not one DER sequence. -/
inductive Corrupt (cipher : Cipher) (key iv : Bytes) : Bytes → Prop
  | empty : Corrupt cipher key iv []
  | ragged {contents : Bytes} : contents.length % cipher.blockCipher.blockSize ≠ 0 →
      Corrupt cipher key iv contents
  | unpadded {contents padded : Bytes} :
      cipher.blockCipher.Unchained (cipher.blockCipher.expand key) iv contents padded →
      (∀ der, ¬Crypto.Padded cipher.blockCipher.blockSize der padded) →
      Corrupt cipher key iv contents
  | foreign {contents padded der : Bytes} :
      cipher.blockCipher.Unchained (cipher.blockCipher.expand key) iv contents padded →
      Crypto.Padded cipher.blockCipher.blockSize der padded → isDerSequence der = false →
      Corrupt cipher key iv contents

/-- Contents are not decrypted exactly if something is wrong with them. -/
theorem decryptContents_eq_error_iff_corrupt (hiv : iv.length = cipher.blockCipher.blockSize)
    (hkey : DerivedKey password (iv.take 8) cipher.blockCipher.keySize key) :
    decryptContents ⟨cipher, iv⟩ password contents = .error .decryptionFailed ↔
      Corrupt cipher key iv contents := by
  have hkeeps := cipher.keepsBlocks hkey.length_eq
  simp only [decryptContents_eq_error_iff, ne_eq, decryptContents_eq_ok_iff hiv hkey]
  constructor
  · intro h
    by_cases hne : contents = []
    · exact hne ▸ .empty
    by_cases hwhole : contents.length % cipher.blockCipher.blockSize = 0
    · have hplain := (hkeeps.unchained_iff hiv hwhole).mpr rfl
      by_cases hpadded : ∃ der, Crypto.Padded cipher.blockCipher.blockSize der
          (cipher.blockCipher.unchain (cipher.blockCipher.expand key)
            (contents.length / cipher.blockCipher.blockSize) iv contents)
      · obtain ⟨der, hder⟩ := hpadded
        refine .foreign hplain hder (Bool.eq_false_iff.mpr fun hseq => ?_)
        exact h der ⟨hne, hwhole, _, hplain, hder, hseq⟩
      · exact .unpadded hplain (not_exists.mp hpadded)
    · exact .ragged hwhole
  · rintro hcorrupt der ⟨hne, hwhole, padded, hplain, hpadded, hseq⟩
    cases hcorrupt with
    | empty => exact hne rfl
    | ragged hragged => exact hragged hwhole
    | unpadded hplain' hnone =>
      obtain rfl := hkeeps.unchained_unique hiv hwhole hplain hplain'
      exact hnone der hpadded
    | foreign hplain' hpadded' hseq' =>
      obtain rfl := hkeeps.unchained_unique hiv hwhole hplain hplain'
      rw [← hpadded.unique cipher.blockSize_bounds.2 hpadded', hseq] at hseq'
      cases hseq'

/-! ## §3 The order of the checks -/

/-- A cipher takes a key and an initial vector of its sizes. -/
structure Cipher.Accepts (cipher : Cipher) (key iv : Bytes) : Prop where
  length_key : key.length = cipher.blockCipher.keySize
  length_iv : iv.length = cipher.blockCipher.blockSize

variable {text : Bytes} {b : Block}

/-- With a password, the header of an encrypted block is read first, and what it says decrypts the
contents. -/
theorem decrypt_of_header (hparse : Block.parse text = .ok b) (hvalue : b.header? dekInfo = some value)
    {password : String} (hpassword : password ≠ "") :
    decrypt text password = (DekInfo.parse value).bind fun info =>
      (decryptContents info (Bytes.encodeUtf8 password) b.contents).map fun der =>
        Block.encode ⟨b.label, [], der⟩ := by
  have hisEmpty : password.isEmpty = false := by simpa using hpassword
  unfold decrypt
  rw [firstBlock_eq_ok_iff.mpr hparse]
  simp only [bind, Except.bind, hvalue, hisEmpty, Bool.false_eq_true, if_false]
  rfl

/-- **The first check that fails names the failure.** Take a text whose first block is marked as encrypted
and any password. Without a password nothing of the header counts. With one, a header without a comma is
malformed; else a cipher that no name stands for is unsupported, by its name without the blanks around it;
else digits that are not those of an initial vector of one block are malformed; and else the vector has the
eight bytes that salt the key, the cipher accepts the key and the vector, decryption fails exactly if
something is wrong with the contents, and if it does not fail the block comes back with what the contents
were made of. -/
theorem decrypt_refusals {text : Bytes} {b : Block} {value : List Char}
    (hparse : Block.parse text = .ok b) (hvalue : b.header? dekInfo = some value) (password : String) :
    (password = "" → decrypt text password = .error .encryptedWithoutPassword) ∧
    (password ≠ "" →
      (',' ∉ value → decrypt text password =
        .error (.malformedPem ("malformed DEK-Info '" ++ String.ofList value ++ "'"))) ∧
      ∀ name digits, ',' ∉ name → value = name ++ ',' :: digits →
        ((∀ cipher : Cipher, cipher.name.toList ≠ Text.trimChars name) → decrypt text password =
          .error (.unsupportedCipher (String.ofList (Text.trimChars name)))) ∧
        ∀ cipher : Cipher, cipher.name.toList = Text.trimChars name →
          ((∀ iv : Bytes, DigitsOf iv digits → iv.length ≠ cipher.blockCipher.blockSize) →
            decrypt text password = .error (.malformedPem "invalid DEK-Info IV")) ∧
          ∀ iv : Bytes, DigitsOf iv digits → iv.length = cipher.blockCipher.blockSize →
            8 ≤ iv.length ∧
            ∃ key, DerivedKey (Bytes.encodeUtf8 password) (iv.take 8) cipher.blockCipher.keySize key ∧
              cipher.Accepts key iv ∧
              (decrypt text password = .error .decryptionFailed ↔ Corrupt cipher key iv b.contents) ∧
              (¬Corrupt cipher key iv b.contents → ∃ padded der,
                cipher.blockCipher.Unchained (cipher.blockCipher.expand key) iv b.contents padded ∧
                Crypto.Padded cipher.blockCipher.blockSize der padded ∧ isDerSequence der ∧
                decrypt text password = .ok (Block.encode ⟨b.label, [], der⟩))) := by
  refine ⟨?_, fun hpassword => ?_⟩
  · rintro rfl
    exact decrypt_empty_password hparse (by rw [hvalue]; rfl)
  have hsteps := decrypt_of_header hparse hvalue hpassword
  refine ⟨fun hcomma => ?_, ?_⟩
  · rw [hsteps, DekInfo.parse_of_no_comma hcomma]
    rfl
  rintro name digits hname rfl
  refine ⟨fun hunknown => ?_, fun cipher hcipher => ⟨fun hnone => ?_, fun iv hdigits hiv => ?_⟩⟩
  · rw [hsteps, DekInfo.parse_of_unknown hname hunknown]
    rfl
  · rw [hsteps, DekInfo.parse_of_no_vector hname hcipher hnone]
    rfl
  -- the header is read: what is left depends on the contents alone
  rw [DekInfo.parse_of_digits hname hcipher hdigits hiv, Except.bind] at hsteps
  have hkey := derivedKey_deriveKey (Bytes.encodeUtf8 password) (iv.take 8) cipher.blockCipher.keySize
  have hfailed : decryptContents ⟨cipher, iv⟩ (Bytes.encodeUtf8 password) b.contents =
      .error .decryptionFailed ↔ Corrupt cipher _ iv b.contents :=
    decryptContents_eq_error_iff_corrupt hiv hkey
  refine ⟨hiv ▸ cipher.eight_le_blockSize, _, hkey, ⟨hkey.length_eq, hiv⟩, ?_, fun hsound => ?_⟩
  · rw [hsteps, ← hfailed]
    cases decryptContents ⟨cipher, iv⟩ (Bytes.encodeUtf8 password) b.contents with
    | error failure => simp only [Except.map, Except.error.injEq]
    | ok der => simp only [Except.map, reduceCtorEq]
  · obtain ⟨der, hder⟩ : ∃ der, decryptContents ⟨cipher, iv⟩ (Bytes.encodeUtf8 password) b.contents =
        .ok der := by
      by_contra hnone
      exact hsound (hfailed.mp (decryptContents_eq_error_iff.mpr (not_exists.mp hnone)))
    obtain ⟨-, -, padded, hplain, hpadded, hseq⟩ := (decryptContents_eq_ok_iff hiv hkey).mp hder
    refine ⟨padded, der, hplain, hpadded, hseq, ?_⟩
    rw [hsteps, hder]
    rfl

/-- Seven bytes are no block, whatever the password; without one they are not even looked at. -/
theorem decrypt_refusals_ragged :
    let iv : Bytes := List.replicate 16 7
    let text := encryptedText .lf "RSA PRIVATE KEY".toList .aes128 (Bytes.toHex iv).toList
      [Base64.encode (List.replicate 7 1)]
    decrypt text "" = .error .encryptedWithoutPassword ∧
      decrypt text "secret" = .error .decryptionFailed := by
  intro iv text
  have hparse : Block.parse text = .ok ⟨"RSA PRIVATE KEY".toList,
      encryptionHeaders .aes128 (Bytes.toHex iv).toList, List.replicate 7 1⟩ :=
    parse_encryptedText (by decide) (by decide : _ = some iv) List.flatten_singleton
  have hvalue : Block.header? ⟨"RSA PRIVATE KEY".toList, encryptionHeaders .aes128
      (Bytes.toHex iv).toList, List.replicate 7 1⟩ dekInfo = _ := header?_encryptionHeaders _ _
  have hchecks := (decrypt_refusals hparse hvalue "secret").2 (by decide)
  obtain ⟨-, hvector⟩ := (hchecks.2 Cipher.aes128.name.toList (Bytes.toHex iv).toList (by decide) rfl).2
    .aes128 (by decide)
  obtain ⟨-, _, -, -, hfailed, -⟩ := hvector iv (by decide) rfl
  exact ⟨(decrypt_refusals hparse hvalue "").1 rfl, hfailed.mpr (.ragged (by decide))⟩

end BrokerRelay.Pem
