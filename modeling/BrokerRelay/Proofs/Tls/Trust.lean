import BrokerRelay.Proofs.Log
import BrokerRelay.Tls.Identity
/-!
# What files of certificates and keys come to

The certificates and the anchors of a text are read off its sections in one line each, here without a
log and without a way to fail. Loading a trust pool or an identity then succeeds with exactly one
result, stated in these words, and fails wherever the words describe nothing.

* `value_load_eq_ok_iff` of `TrustPool`: a pool holds every certificate of its file that can be read,
  in order, no other, and at least one.
* `value_load_eq_ok_iff` of `Identity`: an identity stands in the two files it was loaded from.
-/

namespace BrokerRelay

/-- What a whole section of a certificate holds. -/
def Pem.Section.certificate? : Pem.Section → Option Bytes
  | .item .certificate der => some der
  | _ => none

namespace Tls

variable {storage : Storage} {path : String} {log : List LogEvent}

/-! ## The certificates of a text -/

/-- The contents of the certificate sections of a text. Malformed sections and sections of another
kind contribute none. -/
def certificatesIn (text : Bytes) : List Bytes :=
  (Pem.Section.scan text).filterMap Pem.Section.certificate?

/-- The certificates of a text that can be read as anchors. -/
def anchorsIn (text : Bytes) : List Certificate :=
  (certificatesIn text).filterMap fun der => (Certificate.parseAnchor der).toOption

/-- The warnings about malformed sections have no influence on what is collected. -/
theorem value_collectCertificates {ε : Type} (sections : List Pem.Section) :
    (collectCertificates path sections : Logged ε (List Bytes)).value log =
      .ok (sections.filterMap Pem.Section.certificate?) := by
  induction sections generalizing log with
  | nil => rfl
  | cons s rest ih =>
    cases s with
    | malformed reason =>
      rw [collectCertificates, Logged.value_bind, Logged.value_event]
      exact ih
    | item kind der =>
      cases kind with
      | certificate =>
        rw [collectCertificates, Logged.value_bind, ih]
        rfl
      | _ => exact ih

theorem value_certificatesOf {text : Bytes} : (certificatesOf path text).value log =
    if certificatesIn text = [] then .error (.noCertificates path) else .ok (certificatesIn text) := by
  rw [certificatesOf, Logged.value_bind, value_collectCertificates]
  unfold certificatesIn
  cases (Pem.Section.scan text).filterMap Pem.Section.certificate? <;> rfl

theorem value_certificatesOf_eq_ok_iff {text : Bytes} {certificates : List Bytes} :
    (certificatesOf path text).value log = .ok certificates ↔
      certificates = certificatesIn text ∧ certificates ≠ [] := by
  rw [value_certificatesOf]
  by_cases hnone : certificatesIn text = []
  · rw [if_pos hnone]
    refine iff_of_false nofun ?_
    rintro ⟨rfl, hne⟩
    exact hne hnone
  · rw [if_neg hnone, Except.ok.injEq]
    constructor
    · rintro rfl
      exact ⟨rfl, hnone⟩
    · rintro ⟨rfl, -⟩
      rfl

/-! ## Reading files -/

theorem readKeyFile_eq_ok_iff {text : Bytes} :
    readKeyFile storage path = .ok text ↔ storage.read path = .ok text := by
  rw [readKeyFile, mapError_eq_ok_iff]

theorem value_privateKeyOf {text : Bytes} :
    (privateKeyOf path text).value log = firstPrivateKey path (Pem.Section.scan text) := by
  rw [privateKeyOf, Logged.value_bind, Logged.value_ofExcept]
  cases firstPrivateKey path (Pem.Section.scan text) <;> rfl

/-! ## Trust pools -/

/-- The pool holds exactly the anchors of a file, of which there is one at least. -/
def TrustPool.ReadFrom (pool : TrustPool) (storage : Storage) (path : String) : Prop :=
  ∃ text, storage.read path = .ok text ∧ pool.anchors = anchorsIn text ∧ anchorsIn text ≠ []

/-- A pool is loaded from a file exactly when the file can be read and has an anchor. -/
theorem TrustPool.value_load_eq_ok_iff {pool : TrustPool} :
    (TrustPool.load storage path).value log = .ok pool ↔ pool.ReadFrom storage path := by
  simp only [TrustPool.load, Logged.value_bind_eq_ok_iff, Logged.value_event,
    Logged.value_ofExcept, readKeyFile_eq_ok_iff, value_certificatesOf_eq_ok_iff,
    Logged.value_guard_eq_ok_iff, Logged.value_pure, Except.ok.injEq, List.isEmpty_iff]
  constructor
  · rintro ⟨_, -, text, hread, _, ⟨rfl, -⟩, _, -, hne, rfl⟩
    exact ⟨text, hread, rfl, hne⟩
  · rintro ⟨text, hread, hanchors, hne⟩
    -- a text without certificates has no anchors either, so the check on certificates passes
    have hsome : certificatesIn text ≠ [] := by
      intro hnone
      apply hne
      rw [anchorsIn, hnone, List.filterMap_nil]
    refine ⟨(), trivial, text, hread, _, ⟨rfl, hsome⟩, (), trivial, hne, ?_⟩
    cases pool
    exact congrArg TrustPool.mk hanchors.symm

/-! ## Identities -/

/-- The identity stands in two files: its chain is every certificate of the first one, and its key is
the first one of the second, which may be encrypted under the password. -/
structure Identity.StandsIn (identity : Identity) (storage : Storage)
    (certPath keyPath password : String) : Prop where
  chain : ∃ text, storage.read certPath = .ok text ∧ identity.chain = certificatesIn text
  chain_ne : identity.chain ≠ []
  key : ∃ sealed text, storage.read keyPath = .ok sealed ∧ Pem.decrypt sealed password = .ok text ∧
    firstPrivateKey keyPath (Pem.Section.scan text) = .ok identity.key

/-- An identity is loaded exactly when it stands in the files. -/
theorem Identity.value_load_eq_ok_iff {certPath keyPath password : String} {identity : Identity} :
    (Identity.load storage certPath keyPath password).value log = .ok identity ↔
      identity.StandsIn storage certPath keyPath password := by
  simp only [Identity.load, Logged.value_bind_eq_ok_iff, Logged.value_ofExcept,
    readKeyFile_eq_ok_iff, mapError_eq_ok_iff, value_certificatesOf_eq_ok_iff,
    value_privateKeyOf, Logged.value_pure, Except.ok.injEq]
  constructor
  · rintro ⟨certText, hcert, sealed, hsealed, text, htext, _, ⟨rfl, hne⟩, key, hkey, rfl⟩
    exact ⟨⟨certText, hcert, rfl⟩, hne, ⟨sealed, text, hsealed, htext, hkey⟩⟩
  · rintro ⟨⟨certText, hcert, hchain⟩, hne, ⟨sealed, text, hsealed, htext, hkey⟩⟩
    exact ⟨certText, hcert, sealed, hsealed, text, htext, _, ⟨hchain, hne⟩, _, hkey, rfl⟩

end Tls

end BrokerRelay
