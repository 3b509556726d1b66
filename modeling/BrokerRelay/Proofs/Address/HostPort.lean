import BrokerRelay.Address.HostPort
import BrokerRelay.Proofs.Text.Split
/-!
# The parts of an address

An address is its host, a colon and its port, which has no colon (`ofChars?_eq_some_iff`). What the
reading takes off is only the brackets around the host and the sign before the port.
-/

namespace BrokerRelay.HostPort

/-- Decimal digits that write a port. -/
def IsPort (ds : List Char) (p : UInt16) : Prop :=
  ds ≠ [] ∧ (∀ c ∈ ds, c.isDigit = true) ∧ digitsValue ds < 65536 ∧ p = UInt16.ofNat (digitsValue ds)

/-- A number without the sign before it. -/
def unsigned (cs : List Char) : List Char :=
  match cs with
  | '+' :: ds => ds
  | _ => cs

/-- Only a sign is left out. -/
theorem eq_or_eq_cons_unsigned (cs : List Char) : cs = unsigned cs ∨ cs = '+' :: unsigned cs := by
  unfold unsigned
  split
  · exact .inr rfl
  · exact .inl rfl

theorem unsigned_of_isPort {ds : List Char} {p : UInt16} (h : IsPort ds p) : unsigned ds = ds := by
  unfold unsigned
  split
  · exact absurd (h.2.1 '+' List.mem_cons_self) (by decide)
  · rfl

theorem port?_eq_some_iff_isPort {cs : List Char} {p : UInt16} :
    port? cs = some p ↔ IsPort (unsigned cs) p := by
  show (if unsigned cs ≠ [] ∧ (unsigned cs).all Char.isDigit = true ∧
      digitsValue (unsigned cs) < 65536 then
      some (UInt16.ofNat (digitsValue (unsigned cs))) else none) = some p ↔ _
  rw [Option.ite_none_right_eq_some, List.all_eq_true]
  simp only [IsPort, Option.some.injEq, and_assoc, eq_comm]

/-- A port is written with digits, before which there may be a sign. -/
theorem port?_eq_some_iff {cs : List Char} {p : UInt16} :
    port? cs = some p ↔ ∃ ds, (cs = ds ∨ cs = '+' :: ds) ∧ IsPort ds p := by
  rw [port?_eq_some_iff_isPort]
  constructor
  · exact fun h => ⟨unsigned cs, eq_or_eq_cons_unsigned cs, h⟩
  · rintro ⟨ds, rfl | rfl, h⟩
    · rwa [unsigned_of_isPort h]
    · exact h

/-- A port consists of digits and signs. -/
theorem chars_of_port? {cs : List Char} {p : UInt16} (h : port? cs = some p) :
    ∀ c ∈ cs, c.isDigit = true ∨ c = '+' := by
  obtain ⟨ds, rfl | rfl, hds⟩ := port?_eq_some_iff.mp h
  · exact fun c hc => .inl (hds.2.1 c hc)
  · intro c hc
    rcases List.mem_cons.mp hc with rfl | hc
    · exact .inr rfl
    · exact .inl (hds.2.1 c hc)

/-- An address is put together from its host and its port. -/
theorem ofChars?_eq_some_iff {cs : List Char} {a : HostPort} :
    ofChars? cs = some a ↔ ∃ host port, cs = host ++ ':' :: port ∧ ':' ∉ port ∧
      port? port = some a.port ∧ a.host = unbracketed host := by
  unfold ofChars?
  constructor
  · intro h
    split at h
    · cases h
    · next host port hcut =>
      obtain ⟨p, hp, rfl⟩ := Option.map_eq_some_iff.mp h
      obtain ⟨rfl, hcolon⟩ := Text.cutLast?_eq_some_iff.mp hcut
      exact ⟨host, port, rfl, hcolon, hp, rfl⟩
  · rintro ⟨host, port, rfl, hcolon, hp, hhost⟩
    rw [Text.cutLast?_eq_some_iff.mpr ⟨rfl, hcolon⟩]
    cases a
    obtain rfl := hhost
    exact Option.map_eq_some_iff.mpr ⟨_, hp, rfl⟩

/-- A host that starts with no bracket is left as it is. -/
theorem unbracketed_of_ne {host : List Char} (h : ∀ inner, host ≠ '[' :: inner) :
    unbracketed host = host := by
  unfold unbracketed
  split
  · next inner => exact absurd rfl (h inner)
  · rfl

theorem unbracketed_bracketed (host : List Char) : unbracketed ('[' :: (host ++ [']'])) = host := by
  simp [unbracketed]

/-- Taking off brackets loses nothing else. -/
theorem mem_unbracketed {c : Char} {host : List Char} (hc : c ∈ host) (hopen : c ≠ '[')
    (hclose : c ≠ ']') : c ∈ unbracketed host := by
  unfold unbracketed
  split
  · next inner =>
    have hinner : c ∈ inner := (List.mem_cons.mp hc).resolve_left hopen
    split
    · next hlast =>
      obtain ⟨host, rfl⟩ := List.getLast?_eq_some_iff.mp hlast
      rw [List.dropLast_concat]
      exact (List.mem_append.mp hinner).resolve_right fun hmem => hclose (List.mem_singleton.mp hmem)
    · exact hc
  · exact hc

end BrokerRelay.HostPort
