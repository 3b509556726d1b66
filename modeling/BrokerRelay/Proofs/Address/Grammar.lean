import BrokerRelay.Dial.ProxyClient
import BrokerRelay.Proofs.Address.HostPort
/-!
# The grammar of addresses

`Written` says how an address is written, without saying how it is read: a host, which may stand between
brackets, a colon, and a port in decimal digits, before which there may be a plus sign and any number of
zeros. Reading accepts exactly what is written so, and gives back what was written
(`ofChars?_eq_some_iff_written`).

A host may hold colons, since an address is cut at its last one, and a port holds none. So a host and a port
that are put together are read back, with brackets around the host or without
(`addresses_split_as_written`); only a host that has brackets of its own loses them.
-/

namespace BrokerRelay

theorem Config.splitAddress_eq_ok_iff {address : String} {a : HostPort} :
    splitAddress address = .ok a ↔ HostPort.ofString? address = some a := by
  unfold splitAddress
  split
  · next h => simp [h]
  · next h => simp [h]

/-- What cannot be split is refused as it is. -/
theorem Config.splitAddress_eq_error {address : String} {e : ConfigFailure}
    (h : splitAddress address = .error e) : e = .invalidAddress address := by
  unfold splitAddress at h
  split at h
  · cases h
  · exact (Except.error.inj h).symm

namespace HostPort

/-! ## §1 Writing -/

/-- A port in decimal digits, with or without a plus sign. -/
def WritesPort (written : List Char) (port : UInt16) : Prop :=
  ∃ ds, (written = ds ∨ written = '+' :: ds) ∧ ds ≠ [] ∧ (∀ c ∈ ds, c.isDigit = true) ∧
    Nat.ofDigitChars 10 ds 0 = port.toNat

/-- A host between brackets, or one that has none around it. -/
inductive WritesHost : List Char → List Char → Prop
  | bracketed (host : List Char) : WritesHost ('[' :: (host ++ [']'])) host
  | bare {host : List Char} : (∀ inner, host ≠ '[' :: (inner ++ [']'])) → WritesHost host host

/-- An address: a host, a colon and a port, which has no colon. -/
def Written (address : List Char) (a : HostPort) : Prop :=
  ∃ host port, address = host ++ ':' :: port ∧ ':' ∉ port ∧ WritesHost host a.host ∧
    WritesPort port a.port

/-! ## §2 Ports -/

theorem digitsValue_eq (ds : List Char) : digitsValue ds = Nat.ofDigitChars 10 ds 0 := by
  rw [Nat.ofDigitChars_eq_foldl]
  unfold digitsValue
  congr 1
  funext n d
  rw [Nat.mul_comm]
  rfl

/-- Digits write the port that is their value. -/
theorem isPort_iff {ds : List Char} {p : UInt16} :
    IsPort ds p ↔ ds ≠ [] ∧ (∀ c ∈ ds, c.isDigit = true) ∧ Nat.ofDigitChars 10 ds 0 = p.toNat := by
  rw [IsPort, digitsValue_eq]
  refine and_congr_right fun _ => and_congr_right fun _ => ?_
  constructor
  · rintro ⟨hlt, rfl⟩
    exact (UInt16.toNat_ofNat_of_lt hlt).symm
  · intro hvalue
    rw [hvalue]
    exact ⟨p.toNat_lt, UInt16.ofNat_toNat.symm⟩

theorem port?_eq_some_iff_writesPort {cs : List Char} {p : UInt16} :
    port? cs = some p ↔ WritesPort cs p := by
  rw [port?_eq_some_iff]
  exact exists_congr fun ds => and_congr_right fun _ => isPort_iff

/-- The decimal digits of a port write it. -/
theorem writesPort_toDigits (p : UInt16) : WritesPort (Nat.toDigits 10 p.toNat) p :=
  ⟨_, .inl rfl, Nat.toDigits_ne_nil,
    fun _ hc => Nat.isDigit_of_mem_toDigits (by decide) (by decide) hc,
    Nat.ofDigitChars_ten_toDigits⟩

theorem colon_not_mem_toDigits (n : Nat) : ':' ∉ Nat.toDigits 10 n := fun h =>
  absurd (Nat.isDigit_of_mem_toDigits (by decide) (by decide) h) (by decide)

/-! ## §3 Hosts -/

theorem unbracketed_eq_iff {written host : List Char} :
    host = unbracketed written ↔ WritesHost written host := by
  constructor
  · rintro rfl
    unfold unbracketed
    split
    · next inner =>
      split
      · next hlast =>
        obtain ⟨host, rfl⟩ := List.getLast?_eq_some_iff.mp hlast
        rw [List.dropLast_concat]
        exact .bracketed host
      · next hlast =>
        refine .bare fun other heq => hlast ?_
        rw [(List.cons.inj heq).2]
        exact List.getLast?_concat
    · next hne => exact .bare fun inner => hne _
  · rintro (_ | hbare)
    · exact (unbracketed_bracketed host).symm
    · unfold unbracketed
      split
      · next inner =>
        refine (if_neg fun hlast => ?_).symm
        obtain ⟨host, rfl⟩ := List.getLast?_eq_some_iff.mp hlast
        exact hbare host rfl
      · rfl

/-! ## §4 Addresses -/

/-- An address is read exactly if it is written as one, and as what was written. -/
theorem ofChars?_eq_some_iff_written {cs : List Char} {a : HostPort} :
    ofChars? cs = some a ↔ Written cs a := by
  simp only [ofChars?_eq_some_iff, Written, port?_eq_some_iff_writesPort, unbracketed_eq_iff,
    and_comm (a := WritesPort _ _)]

/-- A host and a port put together, with brackets around the host or as it is. -/
theorem written_append {written : List Char} {a : HostPort} (h : WritesHost written a.host) :
    Written (written ++ ':' :: Nat.toDigits 10 a.port.toNat) a :=
  ⟨written, _, rfl, colon_not_mem_toDigits _, h, writesPort_toDigits a.port⟩

theorem splitAddress_eq_ok_iff_written {address : String} {a : HostPort} :
    Config.splitAddress address = .ok a ↔ Written address.toList a := by
  rw [Config.splitAddress_eq_ok_iff, ofString?, ofChars?_eq_some_iff_written]

theorem splitAddress_eq_error_iff_written {address : String} :
    Config.splitAddress address = .error (.invalidAddress address) ↔ ∀ a, ¬Written address.toList a := by
  constructor
  · intro h a hwritten
    rw [← splitAddress_eq_ok_iff_written, h] at hwritten
    cases hwritten
  · intro h
    cases hsplit : Config.splitAddress address with
    | ok a => exact absurd (splitAddress_eq_ok_iff_written.1 hsplit) (h a)
    | error e => rw [Config.splitAddress_eq_error hsplit]

/-- A dial splits its target as a configuration does, and refuses it in its own words. -/
theorem splitTarget_eq (address : String) :
    Dial.splitTarget address =
      (Config.splitAddress address).mapError fun _ => .invalidAddress address := by
  unfold Dial.splitTarget Config.splitAddress
  cases ofString? address <;> rfl

/-- **Addresses are split as they are written, and refused if they are not.** For every text:

* it is split into a host and a port exactly if it is `Written` from them;
* if it is written from none, the failure carries the text, as it does where a dial splits its target.

For every host and every port the text `[host]:port` is split into them, also if there are colons in the
host, and so is the text `host:port` if the host has no brackets around it. -/
theorem addresses_split_as_written (address : String) :
    (∀ a, Config.splitAddress address = .ok a ↔ Written address.toList a) ∧
    (Config.splitAddress address = .error (.invalidAddress address) ↔ ∀ a, ¬Written address.toList a) ∧
    (Dial.splitTarget address =
      (Config.splitAddress address).mapError fun _ => .invalidAddress address) ∧
    ∀ (host : String) (port : UInt16),
      ((∀ inner, host ≠ "[" ++ inner ++ "]") →
        Config.splitAddress (host ++ ":" ++ toString port.toNat) = .ok ⟨host.toList, port⟩) ∧
      Config.splitAddress ("[" ++ host ++ "]:" ++ toString port.toNat) = .ok ⟨host.toList, port⟩ := by
  refine ⟨fun a => splitAddress_eq_ok_iff_written, splitAddress_eq_error_iff_written,
    splitTarget_eq address, fun host port => ?_⟩
  simp only [splitAddress_eq_ok_iff_written]
  constructor
  · intro hbare
    have hhost : WritesHost host.toList host.toList := by
      refine .bare fun inner heq => hbare (String.ofList inner) (String.ext ?_)
      simpa using heq
    have hwritten := written_append (a := ⟨host.toList, port⟩) hhost
    simpa using hwritten
  · have hwritten := written_append (a := ⟨host.toList, port⟩) (.bracketed host.toList)
    simpa using hwritten

/-- A host with colons and with a bracket at one end only is read back, and loses only the brackets that are
put around it. -/
theorem addresses_split_as_written_one_bracket :
    (∀ inner, "fe80::1]" ≠ "[" ++ inner ++ "]") ∧
    Config.splitAddress "fe80::1]:9092" = .ok ⟨"fe80::1]".toList, 9092⟩ ∧
    Config.splitAddress "[fe80::1]]:9092" = .ok ⟨"fe80::1]".toList, 9092⟩ := by
  have hbare : ∀ inner, "fe80::1]" ≠ "[" ++ inner ++ "]" := by
    intro inner heq
    have hhead := congrArg (fun s : String => s.toList.head?) heq
    simp at hhead
  obtain ⟨-, -, -, hjoin⟩ := addresses_split_as_written "fe80::1]:9092"
  obtain ⟨hplain, hbracketed⟩ := hjoin "fe80::1]" 9092
  exact ⟨hbare, hplain hbare, hbracketed⟩

end HostPort

end BrokerRelay
