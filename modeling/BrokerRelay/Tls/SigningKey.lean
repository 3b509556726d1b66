import BrokerRelay.Crypto.Ed25519
import BrokerRelay.Crypto.Weierstrass
import BrokerRelay.Der
import BrokerRelay.Pem.Section
/-!
# Signing keys

A private key is read as RSA, on one of two curves, or as Ed25519, whichever fits first. Reading
checks that its numbers belong together, and yields the public part in the form in which a
certificate states it: `publicKeyInfo`.
-/

namespace BrokerRelay.Tls

/-- How the bytes of a private key are laid out: as a bare RSA key, as a bare curve key, or as a key
that names its own algorithm. -/
inductive KeyForm where
  | rsa
  | curve
  | named
deriving DecidableEq, Repr

/-- The layout of the key in a section, if it holds one. -/
def KeyForm.ofSection? : Pem.SectionKind → Option KeyForm
  | .rsaPrivateKey => some .rsa
  | .ecPrivateKey => some .curve
  | .privateKey => some .named
  | _ => none

/-- A private key as it stands in a file. -/
structure KeyMaterial where
  form : KeyForm
  contents : Bytes
deriving DecidableEq, Repr

/-- The public part of a private key that can sign: the contents of its algorithm identifier, and
the key itself. -/
structure SigningKey where
  algorithm : Bytes
  publicKey : Bytes
deriving DecidableEq, Repr

namespace SigningKey

open Der

/-- A reader of parts of a key; it does not say why it fails. -/
abbrev KeyReader := Reader Unit

/-- Longer elements are not read. -/
def limit : Nat := 0xffff

/-- The contents of the next element. -/
def part (tag : Tag) : KeyReader Bytes := Reader.take limit () tag

/-- Reads the contents of the next element as a whole. -/
def inside {α : Type} (tag : Tag) (r : KeyReader α) : KeyReader α := Reader.inside limit () tag r

/-- Fails unless the condition holds. -/
def require (condition : Bool) : KeyReader Unit := if condition then return else throw ()

/-- The algorithm identifier of RSA. -/
def rsaAlgorithm : Bytes :=
  write Tag.identifier [0x2a, 0x86, 0x48, 0x86, 0xf7, 0x0d, 0x01, 0x01, 0x01] ++ [0x05, 0x00]

/-- The identifier that every curve key has in its algorithm identifier. -/
def curveKeyIdentifier : Bytes :=
  write Tag.identifier [0x2a, 0x86, 0x48, 0xce, 0x3d, 0x02, 0x01]

/-- The algorithm identifier of Ed25519. -/
def ed25519Algorithm : Bytes := write Tag.identifier [0x2b, 0x65, 0x70]

/-! ## Keys that name their algorithm -/

/-- A key of a stated algorithm. The second version of the layout adds the public key; it is read
only where `paired` allows it, also with the tag that it had in a draft. -/
def namedKey (algorithm : Bytes) (paired : Bool) : KeyReader (Bytes × Option Bytes) :=
  inside Tag.sequence do
    let version ← Reader.small limit ()
    require (version ≤ 1)
    require ((← part Tag.sequence) == algorithm)
    require (version == 0 || paired)
    let contents ← part Tag.octetString
    if ← Reader.next? (Tag.constructed 0) then
      let _attributes ← part (Tag.constructed 0)
    if version == 0 then return (contents, none)
    if ← Reader.next? (Tag.constructed 1) then
      return (contents, some (← inside (Tag.constructed 1) (Reader.bits limit () Tag.bitString)))
    return (contents, some (← Reader.bits limit () (Tag.context 1)))

/-! ## RSA -/

/-- The number of binary digits. -/
def bitLength (n : Nat) : Nat := if n = 0 then 0 else n.log2 + 1

/-- The numbers of an RSA key. -/
structure RsaNumbers where
  modulus : Nat
  publicExponent : Nat
  privateExponent : Nat
  p : Nat
  q : Nat
  exponentP : Nat
  exponentQ : Nat
  coefficient : Nat

/-- The numbers belong to one key of a size and strength that is accepted. -/
def RsaNumbers.isSound (k : RsaNumbers) : Bool :=
  let bits := bitLength k.modulus
  let half := bits / 2
  2048 ≤ (bits + 7) / 8 * 8 && bits ≤ 4096 && k.modulus % 2 == 1
    && k.publicExponent % 2 == 1 && 65537 ≤ k.publicExponent && bitLength k.publicExponent ≤ 33
    && bitLength k.p == half && bitLength k.q == half && half % 512 == 0
    && k.p % 2 == 1 && k.q % 2 == 1 && k.p * k.q == k.modulus
    && k.privateExponent % 2 == 1 && half < bitLength k.privateExponent
    && k.privateExponent < k.modulus
    && k.exponentP % 2 == 1 && k.exponentP < k.p && k.exponentQ % 2 == 1 && k.exponentQ < k.q
    && k.coefficient < k.p && k.coefficient * k.q % k.p == 1

/-- A bare RSA key. -/
def rsaKey : KeyReader SigningKey :=
  inside Tag.sequence do
    require ((← Reader.small limit ()) == 0)
    let modulus ← Reader.natural limit ()
    let publicExponent ← Reader.natural limit ()
    let number : KeyReader Nat := Bytes.toNatBE <$> Reader.natural limit ()
    let numbers := RsaNumbers.mk (Bytes.toNatBE modulus) (Bytes.toNatBE publicExponent)
      (← number) (← number) (← number) (← number) (← number) (← number)
    require numbers.isSound
    return ⟨rsaAlgorithm, write Tag.sequence (writeNatural modulus ++ writeNatural publicExponent)⟩

/-! ## Curves -/

/-- A curve with its identifier. -/
structure NamedCurve where
  identifier : Bytes
  curve : Crypto.Weierstrass

/-- The curve P-256 with its identifier. -/
def namedP256 : NamedCurve :=
  ⟨write Tag.identifier [0x2a, 0x86, 0x48, 0xce, 0x3d, 0x03, 0x01, 0x07], Crypto.p256⟩

/-- The curve P-384 with its identifier. -/
def namedP384 : NamedCurve :=
  ⟨write Tag.identifier [0x2b, 0x81, 0x04, 0x00, 0x22], Crypto.p384⟩

/-- The algorithm identifier of keys on a curve. -/
def NamedCurve.algorithm (c : NamedCurve) : Bytes := curveKeyIdentifier ++ c.identifier

/-- A bare curve key: the private number, the curve if it is stated, and the public point, which
must be the one that belongs to the number. -/
def curveKey (c : NamedCurve) : KeyReader SigningKey :=
  inside Tag.sequence do
    require ((← Reader.small limit ()) == 1)
    let digits ← part Tag.octetString
    if ← Reader.next? (Tag.constructed 0) then
      require ((← part (Tag.constructed 0)) == c.identifier)
    let publicKey ← inside (Tag.constructed 1) (Reader.bits limit () Tag.bitString)
    let secret := Bytes.toNatBE digits
    require (digits.length == c.curve.size && 0 < secret && secret < c.curve.order)
    require (publicKey == c.curve.publicKey secret)
    return ⟨c.algorithm, publicKey⟩

/-! ## Ed25519 -/

/-- An Ed25519 key: a seed, and perhaps the public key, which must then be the one of the seed. -/
def ed25519Key (contents : Bytes) (stated : Option Bytes) : Except Unit SigningKey := do
  let seed ← (part Tag.octetString).whole () contents
  let publicKey := Crypto.Ed25519.publicKey seed
  if seed.length = 32 ∧ stated.getD publicKey = publicKey then return ⟨ed25519Algorithm, publicKey⟩
  else throw ()

/-! ## Any key -/

/-- A key of one algorithm: bare where its layout allows that, or one that names the algorithm. -/
def ofForm (bare : KeyForm) (algorithm : Bytes) (key : KeyReader SigningKey) (m : KeyMaterial) :
    Except Unit SigningKey :=
  if m.form = bare then key.whole () m.contents
  else if m.form = .named then do
    let (contents, _) ← (namedKey algorithm false).whole () m.contents
    key.whole () contents
  else throw ()

/-- An RSA key. -/
def ofRsa (m : KeyMaterial) : Except Unit SigningKey := ofForm .rsa rsaAlgorithm rsaKey m

/-- A key on a curve. -/
def ofCurve (c : NamedCurve) (m : KeyMaterial) : Except Unit SigningKey :=
  ofForm .curve c.algorithm (curveKey c) m

/-- An Ed25519 key, which has no bare layout. -/
def ofEd25519 (m : KeyMaterial) : Except Unit SigningKey := do
  if m.form ≠ .named then throw ()
  let (contents, stated) ← (namedKey ed25519Algorithm true).whole () m.contents
  ed25519Key contents stated

/-- Reads a private key as the first algorithm that fits. -/
def ofMaterial? (m : KeyMaterial) : Option SigningKey :=
  [ofRsa, ofCurve namedP256, ofCurve namedP384, ofEd25519].findSome? fun f => (f m).toOption

/-- The public key with its algorithm, in the form in which a certificate states it: the contents of
the sequence. -/
def publicKeyInfo (k : SigningKey) : Bytes :=
  write Tag.sequence k.algorithm ++ writeBits k.publicKey

end SigningKey

end BrokerRelay.Tls
