import BrokerRelay.Proofs.Pem.Encryption
/-!
# Decryption is a projection

`decrypt` has two ways to end well (`Decrypted`): a text whose first block is not encrypted is returned as
it is, and of any other text the first block is written anew, without headers and with a DER sequence as
its contents. The block that is written is read back under its label, because that label was read
(`delimited_of_parse`), so decrypting once more changes nothing, whatever the password is.
-/

namespace BrokerRelay.Pem

variable {text plain : Bytes} {password : String} {b : Block}

/-! ## §1 Reading -/

theorem firstBlock_eq_ok_iff : firstBlock text = .ok b ↔ Block.parse text = .ok b := by
  unfold firstBlock
  cases Block.parse text <;> simp [Except.mapError]

theorem isEncrypted_of_parse (h : Block.parse text = .ok b) :
    isEncrypted text = .ok (b.header? dekInfo).isSome := by
  unfold isEncrypted
  rw [firstBlock_eq_ok_iff.mpr h]
  rfl

theorem isEncrypted_eq_ok_iff {answer : Bool} : isEncrypted text = .ok answer ↔
    ∃ b, Block.parse text = .ok b ∧ (b.header? dekInfo).isSome = answer := by
  constructor
  · intro h
    cases hfirst : firstBlock text with
    | error failure =>
      unfold isEncrypted at h
      rw [hfirst] at h
      cases h
    | ok b =>
      have hparse := firstBlock_eq_ok_iff.mp hfirst
      rw [isEncrypted_of_parse hparse] at h
      exact ⟨b, hparse, Except.ok.inj h⟩
  · rintro ⟨b, hparse, rfl⟩
    exact isEncrypted_of_parse hparse

/-- The answer is missing exactly when the first block cannot be read. -/
theorem isEncrypted_eq_error_iff {failure : KeyFailure} :
    isEncrypted text = .error failure ↔ firstBlock text = .error failure := by
  unfold isEncrypted
  cases firstBlock text <;> simp [Except.map]

/-! ## §2 How decryption ends -/

theorem isDerSequence_of_decryptContents {info : DekInfo} {secret contents der : Bytes}
    (h : decryptContents info secret contents = .ok der) : isDerSequence der := by
  unfold decryptContents at h
  dsimp only at h
  split at h
  · cases h
  · split at h
    · rename_i hder
      exact Except.ok.inj h ▸ hder
    · cases h

/-- What decryption makes of a text with the first block `b`. -/
inductive Decrypted (text : Bytes) (b : Block) : Bytes → Prop
  | unchanged : b.header? dekInfo = none → Decrypted text b text
  | written {der : Bytes} : (b.header? dekInfo).isSome → isDerSequence der →
      Decrypted text b (Block.encode ⟨b.label, [], der⟩)

theorem decrypt_of_plain (hparse : Block.parse text = .ok b) (hplain : b.header? dekInfo = none)
    (password : String) : decrypt text password = .ok text := by
  unfold decrypt
  rw [firstBlock_eq_ok_iff.mpr hparse]
  simp only [bind, Except.bind, hplain]
  rfl

theorem decrypt_of_not_encrypted (h : isEncrypted text = .ok false) (password : String) :
    decrypt text password = .ok text := by
  obtain ⟨b, hparse, hplain⟩ := isEncrypted_eq_ok_iff.mp h
  exact decrypt_of_plain hparse (Option.not_isSome_iff_eq_none.mp (by simp [hplain])) password

/-- Decryption that ends well ends in one of the two ways. -/
theorem decrypted_of_decrypt (h : decrypt text password = .ok plain) :
    ∃ b, Block.parse text = .ok b ∧ Decrypted text b plain := by
  unfold decrypt at h
  obtain ⟨b, hfirst, h⟩ := exists_of_bind_eq_ok h
  refine ⟨b, firstBlock_eq_ok_iff.mp hfirst, ?_⟩
  dsimp only at h
  split at h
  · rename_i hplain
    obtain rfl := Except.ok.inj h
    exact .unchanged hplain
  · rename_i value hvalue
    -- an empty password ends it here
    split at h
    · obtain ⟨_, hthrow, -⟩ := exists_of_bind_eq_ok h
      cases hthrow
    obtain ⟨info, -, h⟩ := exists_of_bind_eq_ok h
    obtain ⟨der, hder, h⟩ := exists_of_bind_eq_ok h
    obtain rfl := Except.ok.inj h
    exact .written (by rw [hvalue]; rfl) (isDerSequence_of_decryptContents hder)

/-- What decryption writes is a block that is not encrypted, under the label of the block that was
read. -/
theorem parse_written {der : Bytes} (hparse : Block.parse text = .ok b) :
    Block.parse (Block.encode ⟨b.label, [], der⟩) = .ok ⟨b.label, [], der⟩ :=
  parse_encode (delimited_of_parse hparse) der

/-- A text that came out of decryption is not encrypted. -/
theorem Decrypted.not_encrypted (h : Decrypted text b plain) (hparse : Block.parse text = .ok b) :
    ∃ b', Block.parse plain = .ok b' ∧ b'.header? dekInfo = none := by
  cases h with
  | unchanged hplain => exact ⟨b, hparse, hplain⟩
  | written => exact ⟨_, parse_written hparse, rfl⟩

/-- An encrypted block is not decrypted without a password. -/
theorem decrypt_empty_password (hparse : Block.parse text = .ok b)
    (hencrypted : (b.header? dekInfo).isSome) :
    decrypt text "" = .error .encryptedWithoutPassword := by
  obtain ⟨value, hvalue⟩ := Option.isSome_iff_exists.mp hencrypted
  unfold decrypt
  rw [firstBlock_eq_ok_iff.mpr hparse]
  simp only [bind, Except.bind, hvalue]
  rfl

/-- A text whose first block cannot be read fails under every password as it does here. -/
theorem decrypt_eq_error_of_firstBlock {failure : KeyFailure} (h : firstBlock text = .error failure)
    (password : String) : decrypt text password = .error failure := by
  unfold decrypt
  rw [h]
  rfl

/-- The password counts for encrypted texts only. -/
theorem decrypt_eq_decrypt (h : isEncrypted text ≠ .ok true) (password other : String) :
    decrypt text password = decrypt text other := by
  cases hanswer : isEncrypted text with
  | error failure =>
    have hfirst := isEncrypted_eq_error_iff.mp hanswer
    rw [decrypt_eq_error_of_firstBlock hfirst, decrypt_eq_error_of_firstBlock hfirst]
  | ok answer =>
    obtain rfl : answer = false := Bool.eq_false_iff.mpr fun htrue => h (htrue ▸ hanswer)
    rw [decrypt_of_not_encrypted hanswer, decrypt_of_not_encrypted hanswer]

/-- Without a password, a text is malformed exactly if its first block cannot be read. -/
theorem firstBlock_of_decrypt_empty {reason : String}
    (h : decrypt text "" = .error (.malformedPem reason)) :
    firstBlock text = .error (.malformedPem reason) := by
  cases hfirst : firstBlock text with
  | error failure =>
    rw [decrypt_eq_error_of_firstBlock hfirst] at h
    exact congrArg Except.error (Except.error.inj h)
  | ok b =>
    have hparse := firstBlock_eq_ok_iff.mp hfirst
    cases hvalue : b.header? dekInfo with
    | none =>
      rw [decrypt_of_plain hparse hvalue] at h
      cases h
    | some value =>
      rw [decrypt_empty_password hparse (by rw [hvalue]; rfl)] at h
      cases h

/-! ## §3 The projection -/

/-- **Decryption is a projection onto the texts that are not encrypted**, and agrees with `isEncrypted`.
What it returns is not encrypted and is returned as it is under any password; a text that is not
encrypted is returned as it is; what it returns of an encrypted text is another text, whose first block
has the same label and a DER sequence in it; and the text has no readable first block, for one and the
same reason, exactly if decryption says so under every password. -/
theorem decrypt_projects (text : Bytes) :
    (∀ password plain, decrypt text password = .ok plain →
      isEncrypted plain = .ok false ∧ ∀ other, decrypt plain other = .ok plain) ∧
    (isEncrypted text = .ok false → ∀ password, decrypt text password = .ok text) ∧
    (isEncrypted text = .ok true → ∀ password plain, decrypt text password = .ok plain →
      plain ≠ text ∧ ∃ b b', Block.parse text = .ok b ∧ Block.parse plain = .ok b' ∧
        b'.label = b.label ∧ isDerSequence b'.contents) ∧
    (∀ reason, isEncrypted text = .error (.malformedPem reason) ↔
      ∀ password, decrypt text password = .error (.malformedPem reason)) := by
  refine ⟨?_, ?_, ?_, ?_⟩
  · intro password plain h
    obtain ⟨b, hparse, hdecrypted⟩ := decrypted_of_decrypt h
    obtain ⟨b', hparse', hplain⟩ := hdecrypted.not_encrypted hparse
    exact ⟨isEncrypted_eq_ok_iff.mpr ⟨b', hparse', by rw [hplain]; rfl⟩,
      decrypt_of_plain hparse' hplain⟩
  · exact decrypt_of_not_encrypted
  · intro h password plain hdecrypt
    obtain ⟨b, hparse, hdecrypted⟩ := decrypted_of_decrypt hdecrypt
    obtain ⟨b', hparse', hplain⟩ := hdecrypted.not_encrypted hparse
    constructor
    · -- the same text cannot be encrypted and not be encrypted
      rintro rfl
      rw [isEncrypted_of_parse hparse', hplain] at h
      cases h
    · rw [isEncrypted_of_parse hparse] at h
      cases hdecrypted with
      | unchanged hnone =>
        rw [hnone] at h
        cases h
      | written _ hder => exact ⟨b, _, hparse, parse_written hparse, rfl, hder⟩
  · intro reason
    rw [isEncrypted_eq_error_iff]
    exact ⟨fun h password => decrypt_eq_error_of_firstBlock h password,
      fun h => firstBlock_of_decrypt_empty (h "")⟩

/-- An encrypted key is decrypted to another text, which is returned as it is even without a password. -/
theorem decrypt_projects_aes :
    let iv : Bytes := List.replicate 16 7
    let der : Bytes := [0x30, 0x03, 0x02, 0x01, 0x05]
    let key := deriveKey (Bytes.encodeUtf8 "secret") (iv.take 8) 16
    let text := encryptedText .crlf "EC PRIVATE KEY".toList .aes128 (Bytes.toHex iv).toList
      [Base64.encode ((Crypto.aes 4).encryptText key iv der)]
    let plain := Block.encode ⟨"EC PRIVATE KEY".toList, [], der⟩
    isEncrypted text = .ok true ∧ decrypt text "secret" = .ok plain ∧ plain ≠ text ∧
      isEncrypted plain = .ok false ∧ decrypt plain "" = .ok plain := by
  intro iv der key text plain
  have hhex : Bytes.ofHexChars? (Bytes.toHex iv).toList = some iv := by decide
  have hlabel : Delimited "EC PRIVATE KEY".toList := by decide
  have hparse : Block.parse text = .ok ⟨"EC PRIVATE KEY".toList,
      encryptionHeaders .aes128 (Bytes.toHex iv).toList, (Crypto.aes 4).encryptText key iv der⟩ :=
    parse_encryptedText hlabel hhex List.flatten_singleton
  have hencrypted : isEncrypted text = .ok true := by
    rw [isEncrypted_of_parse hparse, header?_encryptionHeaders]
    rfl
  have hdecrypt : decrypt text "secret" = .ok plain :=
    decrypt_of_parse (by decide) rfl hhex (derivedKey_deriveKey _ _ _) (by decide) hparse
  obtain ⟨hprojects, -, hother, -⟩ := decrypt_projects text
  obtain ⟨hplain, hagain⟩ := hprojects "secret" plain hdecrypt
  exact ⟨hencrypted, hdecrypt, (hother hencrypted "secret" plain hdecrypt).1, hplain, hagain ""⟩

end BrokerRelay.Pem
