import BrokerRelay.Failure.Config
import BrokerRelay.Text.Blank
/-!
# Cipher suites and curves

Operators select suites and curves by name; the tables give each name its registered number. A name
is read without the blanks around it and in exactly the case of the table, and one unknown name
refuses the whole list. An empty list stands for the default selection.
-/

namespace BrokerRelay.Tls

/-- A cipher suite by its registered number. -/
structure CipherSuite where
  id : UInt16
deriving DecidableEq, Repr

/-- A key-exchange curve by its registered number. -/
structure Curve where
  id : UInt16
deriving DecidableEq, Repr

/-- A table of names. -/
abbrev NameTable := List (String × UInt16)

/-- The number of a name. -/
def NameTable.id? (table : NameTable) (name : String) : Option UInt16 := table.lookup name

/-- The name of a number. -/
def NameTable.name? (table : NameTable) (id : UInt16) : Option String :=
  (table.find? (·.2 == id)).map Prod.fst

/-- Resolves names in order. The first unknown one is the error, as it was written. -/
def NameTable.resolve (table : NameTable) : List String → Except String (List UInt16)
  | [] => .ok []
  | name :: names =>
    match table.id? (Text.trim name) with
    | none => .error name
    | some id => (table.resolve names).map (id :: ·)

namespace CipherSuite

/-- The names of the cipher suites that can be selected. -/
def table : NameTable := [
  ("ECDHE-ECDSA-AES256-GCM-SHA384", 0xc02c),
  ("ECDHE-RSA-AES256-GCM-SHA384", 0xc030),
  ("ECDHE-ECDSA-AES128-GCM-SHA256", 0xc02b),
  ("ECDHE-RSA-AES128-GCM-SHA256", 0xc02f),
  ("ECDHE-ECDSA-WITH-CHACHA20-POLY1305", 0xcca9),
  ("ECDHE-RSA-WITH-CHACHA20-POLY1305", 0xcca8),
  ("ECDHE-RSA-AES256-CBC-SHA", 0xc014),
  ("ECDHE-RSA-AES128-CBC-SHA", 0xc013),
  ("ECDHE-ECDSA-AES256-CBC-SHA", 0xc00a),
  ("ECDHE-ECDSA-AES128-CBC-SHA", 0xc009),
  ("RSA-AES256-CBC-SHA", 0x0035),
  ("RSA-AES128-CBC-SHA", 0x002f),
  ("ECDHE-RSA-3DES-EDE-CBC-SHA", 0xc012),
  ("RSA-3DES-EDE-CBC-SHA", 0x000a)]

/-- The suites when none is selected: only those with forward secrecy and authenticated
encryption. -/
def defaults : List CipherSuite :=
  [⟨0xc02c⟩, ⟨0xc030⟩, ⟨0xcca9⟩, ⟨0xcca8⟩, ⟨0xc02b⟩, ⟨0xc02f⟩]

/-- The registered names of the suites that have one. -/
def registeredNames : NameTable := [
  ("TLS_ECDHE_ECDSA_WITH_AES_256_GCM_SHA384", 0xc02c),
  ("TLS_ECDHE_RSA_WITH_AES_256_GCM_SHA384", 0xc030),
  ("TLS_ECDHE_ECDSA_WITH_AES_128_GCM_SHA256", 0xc02b),
  ("TLS_ECDHE_RSA_WITH_AES_128_GCM_SHA256", 0xc02f),
  ("TLS_ECDHE_ECDSA_WITH_CHACHA20_POLY1305_SHA256", 0xcca9),
  ("TLS_ECDHE_RSA_WITH_CHACHA20_POLY1305_SHA256", 0xcca8),
  ("TLS_ECDHE_RSA_WITH_AES_256_CBC_SHA", 0xc014),
  ("TLS_ECDHE_RSA_WITH_AES_128_CBC_SHA", 0xc013),
  ("TLS_ECDHE_ECDSA_WITH_AES_256_CBC_SHA", 0xc00a),
  ("TLS_ECDHE_ECDSA_WITH_AES_128_CBC_SHA", 0xc009)]

/-- The name of a suite, for messages. -/
def name? (s : CipherSuite) : Option String := table.name? s.id

/-- The written form: the registered name, or the number of a suite that has none here. -/
def display (s : CipherSuite) : String :=
  (registeredNames.name? s.id).getD
    ("CipherSuite(0x" ++ String.ofList (Nat.toDigits 16 s.id.toNat) ++ ")")

/-- The suites that a list of names selects. -/
def resolve (names : List String) : Except ConfigFailure (List CipherSuite) :=
  match table.resolve names with
  | .error name => .error (.unknownCipherSuite name)
  | .ok [] => .ok defaults
  | .ok ids => .ok (ids.map CipherSuite.mk)

end CipherSuite

namespace Curve

/-- The names of the curves that can be selected. -/
def table : NameTable := [("X25519", 0x001d), ("P256", 0x0017), ("P384", 0x0018), ("P521", 0x0019)]

/-- The curves when none is selected. -/
def defaults : List Curve := [⟨0x0017⟩, ⟨0x001d⟩]

/-- The registered names of the curves. -/
def registeredNames : NameTable :=
  [("X25519", 0x001d), ("secp256r1", 0x0017), ("secp384r1", 0x0018), ("secp521r1", 0x0019)]

/-- The name of a curve, for messages. -/
def name? (c : Curve) : Option String := table.name? c.id

/-- The written form: the registered name, or the number. -/
def display (c : Curve) : String :=
  (registeredNames.name? c.id).getD
    ("NamedGroup(0x" ++ String.ofList (Nat.toDigits 16 c.id.toNat) ++ ")")

/-- The curves that a list of names selects. -/
def resolve (names : List String) : Except ConfigFailure (List Curve) :=
  match table.resolve names with
  | .error name => .error (.unknownCurve name)
  | .ok [] => .ok defaults
  | .ok ids => .ok (ids.map Curve.mk)

end Curve

end BrokerRelay.Tls
