import BrokerRelay.Address.Ip
import BrokerRelay.Proofs.Text.Split
/-!
# The characters of IP literals

An IP literal consists of letters, digits, colons and points. An IPv4 literal has no colon and an IPv6
literal has one, so a text is at most one of the two.
-/

namespace BrokerRelay.IpAddress

/-- A character that IP literals are written with. -/
def IsLiteralChar (c : Char) : Prop := c.isAlphanum = true ∨ c = ':' ∨ c = '.'

/-- Letters and digits are those of ASCII. -/
theorem isAlphanum_iff {c : Char} : c.isAlphanum = true ↔
    ((65 ≤ c.toNat ∧ c.toNat ≤ 90) ∨ (97 ≤ c.toNat ∧ c.toNat ≤ 122)) ∨
      (48 ≤ c.toNat ∧ c.toNat ≤ 57) := by
  have hrange (low high : UInt32) : (decide (c.val ≥ low) && decide (c.val ≤ high)) = true ↔
      low.toNat ≤ c.toNat ∧ c.toNat ≤ high.toNat := by
    rw [Bool.and_eq_true, decide_eq_true_eq, decide_eq_true_eq]
    exact Iff.rfl
  have hupper : c.isUpper = true ↔ 65 ≤ c.toNat ∧ c.toNat ≤ 90 := decide_eq_true_iff
  have hlower : c.isLower = true ↔ 97 ≤ c.toNat ∧ c.toNat ≤ 122 := hrange 97 122
  have hdigit : c.isDigit = true ↔ 48 ≤ c.toNat ∧ c.toNat ≤ 57 := hrange 48 57
  rw [← hupper, ← hlower, ← hdigit, ← Bool.or_eq_true, ← Bool.or_eq_true]
  exact Iff.rfl

theorem isAlphanum_of_isDigit {c : Char} (h : c.isDigit = true) : c.isAlphanum = true := by
  show (c.isAlpha || c.isDigit) = true
  rw [h, Bool.or_true]

theorem isAlphanum_of_hexDigit? {c : Char} {n : Nat} (h : Bytes.hexDigit? c = some n) :
    c.isAlphanum = true := by
  have hle {a b : Char} (hab : a ≤ b) : a.toNat ≤ b.toNat := hab
  rw [isAlphanum_iff]
  unfold Bytes.hexDigit? at h
  split at h
  · next hdigit => exact .inr ⟨hle hdigit.1, hle hdigit.2⟩
  split at h
  · next hlower => exact .inl (.inr ⟨hle hlower.1, Nat.le_trans (hle hlower.2) (by decide)⟩)
  split at h
  · next hupper => exact .inl (.inl ⟨hle hupper.1, Nat.le_trans (hle hupper.2) (by decide)⟩)
  · cases h

/-! ## Four octets -/

theorem isDigit_of_octet? {cs : List Char} {b : UInt8} (h : octet? cs = some b) :
    ∀ c ∈ cs, c.isDigit = true := by
  simp only [octet?] at h
  split at h
  · next hoctet => exact List.all_eq_true.mp hoctet.2.2.1
  · cases h

/-- Octets consist of digits and points. -/
theorem chars_of_octets? {cs : List Char} (h : (octets? cs).isSome = true) :
    ∀ c ∈ cs, c.isDigit = true ∨ c = '.' := by
  intro c hc
  by_cases hpoint : c = '.'
  · exact .inr hpoint
  obtain ⟨part, hpart, hmem⟩ := Text.exists_mem_splitAt hc hpoint
  unfold octets? at h
  split at h
  · next p q r s hparts =>
    -- each of the four parts has been read as an octet
    obtain ⟨_, h⟩ := Option.isSome_iff_exists.mp h
    obtain ⟨_, hp, h⟩ := Option.bind_eq_some_iff.mp h
    obtain ⟨_, hq, h⟩ := Option.bind_eq_some_iff.mp h
    obtain ⟨_, hr, h⟩ := Option.bind_eq_some_iff.mp h
    obtain ⟨_, hs, -⟩ := Option.bind_eq_some_iff.mp h
    rw [hparts] at hpart
    simp only [List.mem_cons, List.not_mem_nil, or_false] at hpart
    rcases hpart with rfl | rfl | rfl | rfl
    · exact .inl (isDigit_of_octet? hp c hmem)
    · exact .inl (isDigit_of_octet? hq c hmem)
    · exact .inl (isDigit_of_octet? hr c hmem)
    · exact .inl (isDigit_of_octet? hs c hmem)
  · cases h

/-! ## Groups -/

theorem isAlphanum_of_group? {cs : List Char} {g : UInt16} (h : group? cs = some g) :
    ∀ c ∈ cs, c.isAlphanum = true := by
  unfold group? at h
  split at h
  · cases h
  · next hsize =>
    obtain ⟨ds, hds, -⟩ := Option.map_eq_some_iff.mp h
    clear h hsize
    induction cs generalizing ds with
    | nil => nofun
    | cons d cs ih =>
      rw [List.mapM_cons] at hds
      obtain ⟨n, hn, hds⟩ := Option.bind_eq_some_iff.mp hds
      obtain ⟨ns, hns, -⟩ := Option.bind_eq_some_iff.mp hds
      intro c hc
      rcases List.mem_cons.mp hc with rfl | hc
      · exact isAlphanum_of_hexDigit? hn
      · exact ih ns hns c hc

/-- Groups, of which the last may be written as octets, have no other characters than these. -/
theorem chars_of_groups? {octetsAllowed : Bool} {parts : List (List Char)} {gs : List UInt16}
    (h : groups? octetsAllowed parts = some gs) :
    ∀ part ∈ parts, ∀ c ∈ part, c.isAlphanum = true ∨ c = '.' := by
  induction parts generalizing gs with
  | nil => nofun
  | cons part parts ih =>
    cases parts with
    | nil =>
      unfold groups? at h
      rintro _ (_ | ⟨_, ⟨⟩⟩) c hc
      split at h
      · next g hgroup => exact .inl (isAlphanum_of_group? hgroup c hc)
      · split at h
        · have hoctets : (octets? part).isSome = true := by
            obtain ⟨_, hoctets, -⟩ := Option.map_eq_some_iff.mp h
            rw [hoctets]
            rfl
          rcases chars_of_octets? hoctets c hc with hdigit | hpoint
          · exact .inl (isAlphanum_of_isDigit hdigit)
          · exact .inr hpoint
        · cases h
    | cons next parts =>
      unfold groups? at h
      obtain ⟨g, hgroup, h⟩ := Option.bind_eq_some_iff.mp h
      obtain ⟨gs', hrest, -⟩ := Option.bind_eq_some_iff.mp h
      intro part' hmem c hc
      rcases List.mem_cons.mp hmem with rfl | hmem
      · exact .inl (isAlphanum_of_group? hgroup c hc)
      · exact ih hrest part' hmem c hc

theorem chars_of_splitAt {octetsAllowed : Bool} {cs : List Char} {gs : List UInt16}
    (h : groups? octetsAllowed (Text.splitAt ':' cs) = some gs) : ∀ c ∈ cs, IsLiteralChar c := by
  intro c hc
  by_cases hcolon : c = ':'
  · exact .inr (.inl hcolon)
  obtain ⟨part, hpart, hmem⟩ := Text.exists_mem_splitAt hc hcolon
  rcases chars_of_groups? h part hpart c hmem with halnum | hpoint
  · exact .inl halnum
  · exact .inr (.inr hpoint)

theorem chars_of_groupsOfText? {octetsAllowed : Bool} {cs : List Char} {gs : List UInt16}
    (h : groupsOfText? octetsAllowed cs = some gs) : ∀ c ∈ cs, IsLiteralChar c := by
  unfold groupsOfText? at h
  split at h
  · next hempty =>
    rw [List.isEmpty_iff.mp hempty]
    nofun
  · exact chars_of_splitAt h

/-- A text is cut at two colons. -/
theorem eq_of_cutGap? {cs before after : List Char} (h : cutGap? cs = some (before, after)) :
    cs = before ++ ':' :: ':' :: after := by
  induction cs generalizing before with
  | nil => cases h
  | cons c cs ih =>
    unfold cutGap? at h
    split at h
    · next heq =>
      cases h
      exact heq
    · next c' rest _ heq =>
      obtain ⟨rfl, rfl⟩ := List.cons_eq_cons.mp heq
      obtain ⟨⟨before', after'⟩, hcut, heq⟩ := Option.map_eq_some_iff.mp h
      cases heq
      rw [ih hcut]
      rfl
    · next heq => cases heq

/-! ## Literals -/

/-- An IPv6 literal consists of the characters of literals. -/
theorem chars_of_v6? {cs : List Char} {ip : IpAddress} (h : v6? cs = some ip) :
    ∀ c ∈ cs, IsLiteralChar c := by
  unfold v6? at h
  split at h
  · obtain ⟨gs, hgs, -⟩ := Option.bind_eq_some_iff.mp h
    exact chars_of_splitAt hgs
  · next before after hcut =>
    obtain ⟨head, hhead, h⟩ := Option.bind_eq_some_iff.mp h
    obtain ⟨tail, htail, -⟩ := Option.bind_eq_some_iff.mp h
    rw [eq_of_cutGap? hcut]
    intro c hc
    simp only [List.mem_append, List.mem_cons] at hc
    rcases hc with hbefore | hcolon | hcolon | hafter
    · exact chars_of_groupsOfText? hhead c hbefore
    · exact .inr (.inl hcolon)
    · exact .inr (.inl hcolon)
    · exact chars_of_groupsOfText? htail c hafter

/-- An IPv6 literal has a colon: without one there would be at most two groups. -/
theorem colon_mem_of_v6? {cs : List Char} {ip : IpAddress} (h : v6? cs = some ip) : ':' ∈ cs := by
  unfold v6? at h
  split at h
  · by_contra hcolon
    obtain ⟨gs, hgs, hsize⟩ := Option.bind_eq_some_iff.mp h
    rw [Text.splitAt_of_not_mem hcolon] at hgs
    have hlength : gs.length ≤ 2 := by
      unfold groups? at hgs
      split at hgs
      · cases hgs
        exact Nat.le_succ 1
      · split at hgs
        · obtain ⟨_, -, rfl⟩ := Option.map_eq_some_iff.mp hgs
          exact Nat.le_refl 2
        · cases hgs
    unfold ofGroups? at hsize
    split at hsize
    · omega
    · cases hsize
  · next before after hcut =>
    rw [eq_of_cutGap? hcut]
    simp

/-- What is read as an IPv6 literal is read as no other literal. -/
theorem ofChars?_of_v6? {cs : List Char} {ip : IpAddress} (h : v6? cs = some ip) :
    ofChars? cs = some ip := by
  unfold ofChars?
  cases hoctets : octets? cs with
  | none => exact h
  | some octets =>
    have hsome : (octets? cs).isSome = true := by
      rw [hoctets]
      rfl
    -- the colon of the one is no character of the other
    rcases chars_of_octets? hsome ':' (colon_mem_of_v6? h) with hdigit | hpoint
    · exact absurd hdigit (by decide)
    · exact absurd hpoint (by decide)

/-- An IP literal consists of the characters of literals. -/
theorem chars_of_ofChars? {cs : List Char} {ip : IpAddress} (h : ofChars? cs = some ip) :
    ∀ c ∈ cs, IsLiteralChar c := by
  unfold ofChars? at h
  split at h
  · next hoctets =>
    intro c hc
    rcases chars_of_octets? (Option.isSome_iff_exists.mpr ⟨_, hoctets⟩) c hc with hdigit | hpoint
    · exact .inl (isAlphanum_of_isDigit hdigit)
    · exact .inr (.inr hpoint)
  · exact chars_of_v6? h

end BrokerRelay.IpAddress
