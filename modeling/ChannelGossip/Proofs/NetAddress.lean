import ChannelGossip.NetAddress
import ChannelGossip.Proofs.Except

/-! # The grammar of network addresses

A string of descriptors can be read if it consists of whole descriptors, up to its end or up to a
type that is not known.  Otherwise a descriptor of a known type breaks off, and the error tells in
which part.  Main statements:

* `NetAddress.Spells`, `NetAddress.SpellsAll`   whole descriptors and readable strings of them
* `NetAddress.BreaksOff`   strings in which a descriptor breaks off
* `NetAddress.readAll_eq_ok_iff`, `NetAddress.readAll_eq_error_iff`   reading accepts the former
  with the addresses that they spell, and refuses the latter -/

namespace ChannelGossip.NetAddress

/-! ## Descriptors -/

/-- The descriptor types of fixed width: the type byte, the number of address bytes, and the address
    that they make. -/
inductive FixedForm : UInt8 → Nat → (Bytes → UInt16 → NetAddress) → Prop where
  | ipv4 : FixedForm 1 4 ipv4
  | ipv6 : FixedForm 2 16 ipv6
  | torV2 : FixedForm 3 10 torV2
  | torV3 : FixedForm 4 35 torV3

/-- The type byte of a host name. -/
def hostnameType : UInt8 := 5

/-- Whether a type byte is known, so that the length of its descriptor is. -/
def IsKnownType (type : UInt8) : Prop := 1 ≤ type.toNat ∧ type.toNat ≤ 5

instance (type : UInt8) : Decidable (IsKnownType type) := inferInstanceAs (Decidable (_ ∧ _))

/-- A whole descriptor and the address that it spells: the type byte, the address or the host name
    behind its length, and the port. -/
inductive Spells : Bytes → NetAddress → Prop where
  | fixed {type : UInt8} {width : Nat} {make : Bytes → UInt16 → NetAddress} {address port : Bytes}
      (form : FixedForm type width make) (address_length : address.length = width)
      (port_length : port.length = 2) :
      Spells (type :: (address ++ port)) (make address (.ofNat (Bytes.toNat port)))
  | hostname {length : UInt8} {hostname port : Bytes}
      (hostname_length : hostname.length = length.toNat) (port_length : port.length = 2) :
      Spells (hostnameType :: length :: (hostname ++ port))
        (dns (Text.Utf8.decodeLossy hostname) (.ofNat (Bytes.toNat port)))

/-- A string of whole descriptors, up to its end or up to a type that is not known, and the
    addresses that they spell. -/
inductive SpellsAll : Bytes → List NetAddress → Prop where
  | nil : SpellsAll [] []
  | unknown {type : UInt8} {bs : Bytes} (unknown : ¬IsKnownType type) : SpellsAll (type :: bs) []
  | cons {d bs : Bytes} {a : NetAddress} {as : List NetAddress} (first : Spells d a)
      (rest : SpellsAll bs as) : SpellsAll (d ++ bs) (a :: as)

/-- A string in which, after some whole descriptors, one of a known type breaks off: the part in
    which it does, the number of bytes of that part, and the number of those that are there. -/
inductive BreaksOff : Bytes → AddressPart → Nat → Nat → Prop where
  | inAddress {type : UInt8} {width : Nat} {make : Bytes → UInt16 → NetAddress} {bs : Bytes}
      (form : FixedForm type width make) (short : bs.length < width) :
      BreaksOff (type :: bs) .descriptor width bs.length
  | inPort {type : UInt8} {width : Nat} {make : Bytes → UInt16 → NetAddress} {address bs : Bytes}
      (form : FixedForm type width make) (address_length : address.length = width)
      (short : bs.length < 2) : BreaksOff (type :: (address ++ bs)) .descriptor 2 bs.length
  | beforeLength : BreaksOff [hostnameType] .descriptor 1 0
  | inHostname {length : UInt8} {bs : Bytes} (short : bs.length < length.toNat) :
      BreaksOff (hostnameType :: length :: bs) .hostname length.toNat bs.length
  | inHostnamePort {length : UInt8} {hostname bs : Bytes}
      (hostname_length : hostname.length = length.toNat) (short : bs.length < 2) :
      BreaksOff (hostnameType :: length :: (hostname ++ bs)) .descriptor 2 bs.length
  | after {d bs : Bytes} {a : NetAddress} {part : AddressPart} {needed available : Nat}
      (first : Spells d a) (rest : BreaksOff bs part needed available) :
      BreaksOff (d ++ bs) part needed available

/-! ## Parts of a descriptor -/

/-- `takePart` takes `n` bytes off a string that has as many. -/
theorem takePart_eq_ok_iff {part : AddressPart} {n : Nat} {bs head rest : Bytes} :
    takePart part n bs = .ok (head, rest) ↔ head.length = n ∧ bs = head ++ rest := by
  unfold takePart
  cases hsplit : bs.split? n with
  | none =>
    have hlt : bs.length < n := Bytes.split?_eq_none_iff.1 hsplit
    simp only [reduceCtorEq, false_iff, not_and]
    intro hhead hbs
    rw [hbs, List.length_append] at hlt
    omega
  | some p =>
    obtain ⟨head', rest'⟩ := p
    have hbs : bs = head'.1 ++ rest' := Bytes.split?_eq_some_iff.1 hsplit
    simp only [Except.ok.injEq, Prod.mk.injEq]
    constructor
    · intro h
      obtain ⟨rfl, rfl⟩ := h
      exact ⟨head'.2, hbs⟩
    · intro h
      obtain ⟨hhead, hbs'⟩ := h
      exact List.append_inj (hbs.symm.trans hbs') (head'.2.trans hhead.symm)

/-- `takePart` fails exactly on strings of fewer than `n` bytes, and tells the part and both
    numbers. -/
theorem takePart_eq_error_iff {part : AddressPart} {n : Nat} {bs : Bytes} {e : Error} :
    takePart part n bs = .error e ↔
      bs.length < n ∧ e = .malformed (.badAddress part n bs.length) := by
  unfold takePart
  cases hsplit : bs.split? n with
  | none =>
    have hlt : bs.length < n := Bytes.split?_eq_none_iff.1 hsplit
    simp only [Except.error.injEq, hlt, true_and]
    exact eq_comm
  | some p =>
    have hlt : ¬bs.length < n := by
      rw [← Bytes.split?_eq_none_iff, hsplit]
      nofun
    simp [hlt]

@[simp] theorem toNat_singleton (b : UInt8) : Bytes.toNat [b] = b.toNat := by
  rw [← List.nil_append [b], Bytes.toNat_concat, Bytes.toNat_nil, Nat.mul_zero, Nat.zero_add]

/-- `takePart _ 1` takes a single byte, such as the length of a host name. -/
theorem takePart_one_eq_ok_iff {part : AddressPart} {bs head rest : Bytes} :
    takePart part 1 bs = .ok (head, rest) ↔ ∃ b, head = [b] ∧ bs = b :: rest := by
  rw [takePart_eq_ok_iff, List.length_eq_one_iff]
  constructor
  · rintro ⟨⟨b, rfl⟩, rfl⟩
    exact ⟨b, rfl, rfl⟩
  · rintro ⟨b, rfl, rfl⟩
    exact ⟨⟨b, rfl⟩, rfl⟩

/-- `readPort` takes two bytes and makes an address of their number. -/
theorem readPort_eq_ok_iff {make : UInt16 → NetAddress} {bs rest : Bytes} {a : NetAddress} :
    readPort make bs = .ok (a, rest) ↔ ∃ port : Bytes, port.length = 2 ∧
      a = make (.ofNat (Bytes.toNat port)) ∧ bs = port ++ rest := by
  rw [readPort, Except.map_eq_ok_iff]
  constructor
  · rintro ⟨⟨port, rest'⟩, htake, heq⟩
    obtain ⟨rfl, rfl⟩ := Prod.mk.inj heq
    obtain ⟨hlength, hbs⟩ := takePart_eq_ok_iff.1 htake
    exact ⟨port, hlength, rfl, hbs⟩
  · rintro ⟨port, hlength, rfl, hbs⟩
    exact ⟨(port, rest), takePart_eq_ok_iff.2 ⟨hlength, hbs⟩, rfl⟩

/-- `readPort` fails exactly on strings of fewer than two bytes. -/
theorem readPort_eq_error_iff {make : UInt16 → NetAddress} {bs : Bytes} {e : Error} :
    readPort make bs = .error e ↔
      bs.length < 2 ∧ e = .malformed (.badAddress .descriptor 2 bs.length) := by
  rw [readPort, Except.map_eq_error_iff, takePart_eq_error_iff]

/-! ## One descriptor -/

/-- `fixedForm?` knows exactly the types of `FixedForm`. -/
theorem fixedForm?_eq_some_iff {type : UInt8} {width : Nat} {make : Bytes → UInt16 → NetAddress} :
    fixedForm? type = some (width, make) ↔ FixedForm type width make := by
  constructor
  · intro h
    unfold fixedForm? at h
    split at h
    · rename_i htype
      cases h
      exact htype ▸ .ipv4
    · split at h
      · rename_i htype
        cases h
        exact htype ▸ .ipv6
      · split at h
        · rename_i htype
          cases h
          exact htype ▸ .torV2
        · split at h
          · rename_i htype
            cases h
            exact htype ▸ .torV3
          · cases h
  · intro h
    cases h <;> rfl

theorem FixedForm.isKnownType {type : UInt8} {width : Nat} {make : Bytes → UInt16 → NetAddress}
    (h : FixedForm type width make) : IsKnownType type := by
  cases h <;> decide

/-- A type byte has a fixed width, is that of a host name, or is not known. -/
theorem form_or_hostname_or_unknown (type : UInt8) :
    (∃ width make, FixedForm type width make) ∨ type = hostnameType ∨ ¬IsKnownType type := by
  cases hform : fixedForm? type with
  | some p => exact .inl ⟨p.1, p.2, fixedForm?_eq_some_iff.1 hform⟩
  | none =>
    right
    by_cases hname : type = hostnameType
    · exact .inl hname
    · right
      rintro ⟨hlow, hhigh⟩
      -- The five known types are gone through one by one.
      have hcases : type.toNat = 1 ∨ type.toNat = 2 ∨ type.toNat = 3 ∨ type.toNat = 4 ∨
          type.toNat = 5 := by omega
      rcases hcases with htype | htype | htype | htype | htype
      · obtain rfl : type = 1 := UInt8.toNat_inj.1 htype
        cases hform
      · obtain rfl : type = 2 := UInt8.toNat_inj.1 htype
        cases hform
      · obtain rfl : type = 3 := UInt8.toNat_inj.1 htype
        cases hform
      · obtain rfl : type = 4 := UInt8.toNat_inj.1 htype
        cases hform
      · exact hname (UInt8.toNat_inj.1 htype)

/-- A descriptor of fixed width is an address and a port. -/
theorem read_of_form {type : UInt8} {width : Nat} {make : Bytes → UInt16 → NetAddress}
    (form : FixedForm type width make) (bs : Bytes) :
    read type bs = takePart .descriptor width bs >>= fun p =>
      (readPort (make p.1) p.2).map some := by
  simp only [read, fixedForm?_eq_some_iff.2 form]
  rfl

/-- The descriptor of a host name is a length, the name and a port. -/
theorem read_hostnameType (bs : Bytes) :
    read hostnameType bs = takePart .descriptor 1 bs >>= fun p =>
      takePart .hostname (Bytes.toNat p.1) p.2 >>= fun q =>
        (readPort (dns (Text.Utf8.decodeLossy q.1)) q.2).map some :=
  rfl

/-- `read` gives nothing for an unknown type, whatever follows. -/
theorem read_of_not_isKnownType {type : UInt8} (h : ¬IsKnownType type) (bs : Bytes) :
    read type bs = .ok none := by
  have hform : fixedForm? type = none := by
    rw [Option.eq_none_iff_forall_ne_some]
    intro p hp
    exact h (fixedForm?_eq_some_iff.1 hp).isKnownType
  have hname : type ≠ 5 := by
    rintro rfl
    exact h (by decide)
  simp only [read, hform, if_neg hname]

/-- `read` gives an address or an error for a known type. -/
theorem read_ne_none {type : UInt8} (h : IsKnownType type) {bs : Bytes} :
    read type bs ≠ .ok none := by
  intro hread
  rcases form_or_hostname_or_unknown type with ⟨width, make, form⟩ | rfl | hunknown
  · rw [read_of_form form] at hread
    obtain ⟨p, -, hread⟩ := Except.bind_eq_ok_iff.1 hread
    obtain ⟨q, -, hq⟩ := Except.map_eq_ok_iff.1 hread
    cases hq
  · rw [read_hostnameType] at hread
    obtain ⟨p, -, hread⟩ := Except.bind_eq_ok_iff.1 hread
    obtain ⟨q, -, hread⟩ := Except.bind_eq_ok_iff.1 hread
    obtain ⟨r, -, hr⟩ := Except.map_eq_ok_iff.1 hread
    cases hr
  · exact hunknown h

/-- `read` gives the address that a whole descriptor at the front spells, and what is behind it. -/
theorem read_eq_ok_some_iff {type : UInt8} {bs rest : Bytes} {a : NetAddress} :
    read type bs = .ok (some (a, rest)) ↔ ∃ d, Spells (type :: d) a ∧ bs = d ++ rest := by
  constructor
  · intro h
    -- Each reader of a part tells which bytes it has taken, and these make the descriptor.
    rcases form_or_hostname_or_unknown type with ⟨width, make, form⟩ | rfl | hunknown
    · rw [read_of_form form] at h
      obtain ⟨⟨address, bs'⟩, haddress, h⟩ := Except.bind_eq_ok_iff.1 h
      obtain ⟨⟨a', rest'⟩, hread, heq⟩ := Except.map_eq_ok_iff.1 h
      obtain ⟨rfl, rfl⟩ := Prod.mk.inj (Option.some.inj heq)
      obtain ⟨hlength, rfl⟩ := takePart_eq_ok_iff.1 haddress
      obtain ⟨port, hport, rfl, rfl⟩ := readPort_eq_ok_iff.1 hread
      exact ⟨address ++ port, .fixed form hlength hport, (List.append_assoc ..).symm⟩
    · rw [read_hostnameType] at h
      obtain ⟨⟨length, bs'⟩, hone, h⟩ := Except.bind_eq_ok_iff.1 h
      obtain ⟨⟨hostname, bs''⟩, hhostname, h⟩ := Except.bind_eq_ok_iff.1 h
      obtain ⟨⟨a', rest'⟩, hread, heq⟩ := Except.map_eq_ok_iff.1 h
      obtain ⟨rfl, rfl⟩ := Prod.mk.inj (Option.some.inj heq)
      obtain ⟨b, rfl, rfl⟩ := takePart_one_eq_ok_iff.1 hone
      obtain ⟨hlength, rfl⟩ := takePart_eq_ok_iff.1 hhostname
      obtain ⟨port, hport, rfl, rfl⟩ := readPort_eq_ok_iff.1 hread
      refine ⟨b :: (hostname ++ port), .hostname ?_ hport, ?_⟩
      · rw [hlength, toNat_singleton]
      · rw [List.cons_append, List.append_assoc]
    · rw [read_of_not_isKnownType hunknown] at h
      cases h
  · rintro ⟨d, hspells, rfl⟩
    -- Back again, the parts are taken off one after the other.
    cases hspells with
    | fixed form address_length port_length =>
      rw [read_of_form form, List.append_assoc]
      exact Except.bind_eq_ok_iff.2 ⟨_, takePart_eq_ok_iff.2 ⟨address_length, rfl⟩,
        Except.map_eq_ok_iff.2 ⟨_, readPort_eq_ok_iff.2 ⟨_, port_length, rfl, rfl⟩, rfl⟩⟩
    | hostname hostname_length port_length =>
      rw [read_hostnameType, List.cons_append, List.append_assoc]
      refine Except.bind_eq_ok_iff.2 ⟨_, takePart_one_eq_ok_iff.2 ⟨_, rfl, rfl⟩, ?_⟩
      refine Except.bind_eq_ok_iff.2 ⟨_, takePart_eq_ok_iff.2 ⟨?_, rfl⟩, ?_⟩
      · rw [hostname_length, toNat_singleton]
      · exact Except.map_eq_ok_iff.2 ⟨_, readPort_eq_ok_iff.2 ⟨_, port_length, rfl, rfl⟩, rfl⟩

/-- Where `read` fails the descriptor breaks off. -/
theorem breaksOff_of_read {type : UInt8} {bs : Bytes} {e : Error} (h : read type bs = .error e) :
    ∃ part needed available, BreaksOff (type :: bs) part needed available ∧
      e = .malformed (.badAddress part needed available) := by
  rcases form_or_hostname_or_unknown type with ⟨width, make, form⟩ | rfl | hunknown
  · rw [read_of_form form] at h
    -- The address is cut short, or it is there and the port is cut short.
    rcases Except.bind_eq_error_iff.1 h with haddress | ⟨⟨address, bs'⟩, haddress, hrest⟩
    · obtain ⟨hshort, rfl⟩ := takePart_eq_error_iff.1 haddress
      exact ⟨_, _, _, .inAddress form hshort, rfl⟩
    · obtain ⟨hlength, rfl⟩ := takePart_eq_ok_iff.1 haddress
      obtain ⟨hshort, rfl⟩ := readPort_eq_error_iff.1 (Except.map_eq_error_iff.1 hrest)
      exact ⟨_, _, _, .inPort form hlength hshort, rfl⟩
  · rw [read_hostnameType] at h
    -- The length is missing, the name is cut short, or the port is.
    rcases Except.bind_eq_error_iff.1 h with hone | ⟨⟨length, bs'⟩, hone, hrest⟩
    · obtain ⟨hshort, rfl⟩ := takePart_eq_error_iff.1 hone
      obtain rfl : bs = [] := List.length_eq_zero_iff.1 (Nat.lt_one_iff.1 hshort)
      exact ⟨_, _, _, .beforeLength, rfl⟩
    · obtain ⟨b, rfl, rfl⟩ := takePart_one_eq_ok_iff.1 hone
      rcases Except.bind_eq_error_iff.1 hrest with hhostname | ⟨⟨hostname, bs''⟩, hhostname, hport⟩
      · obtain ⟨hshort, rfl⟩ := takePart_eq_error_iff.1 hhostname
        rw [toNat_singleton] at hshort ⊢
        exact ⟨_, _, _, .inHostname hshort, rfl⟩
      · obtain ⟨hlength, rfl⟩ := takePart_eq_ok_iff.1 hhostname
        obtain ⟨hshort, rfl⟩ := readPort_eq_error_iff.1 (Except.map_eq_error_iff.1 hport)
        rw [toNat_singleton] at hlength
        exact ⟨_, _, _, .inHostnamePort hlength hshort, rfl⟩
  · rw [read_of_not_isKnownType hunknown] at h
    cases h

/-! ## Strings of descriptors -/

/-- `readAll` fails as `read` does on the first descriptor. -/
theorem readAll_of_error {type : UInt8} {bs : Bytes} {e : Error} (h : read type bs = .error e) :
    readAll (type :: bs) = .error e := by
  rw [readAll.eq_def]
  simp only
  split
  · rename_i e' h'
    rw [h] at h'
    rw [Except.error.inj h']
  · rename_i h'
    rw [h] at h'
    cases h'
  · rename_i h'
    rw [h] at h'
    cases h'

/-- `readAll` ends at a descriptor of an unknown type. -/
theorem readAll_of_none {type : UInt8} {bs : Bytes} (h : read type bs = .ok none) :
    readAll (type :: bs) = .ok [] := by
  rw [readAll.eq_def]
  simp only
  split
  · rename_i h'
    rw [h] at h'
    cases h'
  · rfl
  · rename_i h'
    rw [h] at h'
    cases h'

/-- `readAll` puts the first address in front of those that it reads from the rest. -/
theorem readAll_of_some {type : UInt8} {bs rest : Bytes} {a : NetAddress}
    (h : read type bs = .ok (some (a, rest))) :
    readAll (type :: bs) = (readAll rest).map (a :: ·) := by
  rw [readAll.eq_def]
  simp only
  split
  · rename_i h'
    rw [h] at h'
    cases h'
  · rename_i h'
    rw [h] at h'
    cases h'
  · rename_i h'
    rw [h] at h'
    cases h'
    rfl

/-- `readAll` reads a whole descriptor, and then what follows it. -/
theorem readAll_append {d : Bytes} {a : NetAddress} (h : Spells d a) (bs : Bytes) :
    readAll (d ++ bs) = (readAll bs).map (a :: ·) := by
  cases h with
  | fixed form address_length port_length =>
    exact readAll_of_some
      (read_eq_ok_some_iff.2 ⟨_, .fixed form address_length port_length, rfl⟩)
  | hostname hostname_length port_length =>
    exact readAll_of_some
      (read_eq_ok_some_iff.2 ⟨_, .hostname hostname_length port_length, rfl⟩)

/-- `readAll` reads the addresses that a string of `SpellsAll` spells. -/
theorem SpellsAll.readAll_eq {bs : Bytes} {as : List NetAddress} (h : SpellsAll bs as) :
    readAll bs = .ok as := by
  induction h with
  | nil => rw [readAll.eq_def]
  | unknown hunknown => exact readAll_of_none (read_of_not_isKnownType hunknown _)
  | cons first _ ih =>
    rw [readAll_append first, ih]
    rfl

/-- `readAll` refuses a string of `BreaksOff`, and the error tells where. -/
theorem BreaksOff.readAll_eq {bs : Bytes} {part : AddressPart} {needed available : Nat}
    (h : BreaksOff bs part needed available) :
    readAll bs = .error (.malformed (.badAddress part needed available)) := by
  -- The whole descriptors in front are read, and then one of the five ways to break off is left.
  induction h with
  | inAddress form short =>
    refine readAll_of_error ?_
    rw [read_of_form form]
    exact Except.bind_eq_error_iff.2 (.inl (takePart_eq_error_iff.2 ⟨short, rfl⟩))
  | inPort form address_length short =>
    refine readAll_of_error ?_
    rw [read_of_form form]
    exact Except.bind_eq_error_iff.2 (.inr ⟨_, takePart_eq_ok_iff.2 ⟨address_length, rfl⟩,
      Except.map_eq_error_iff.2 (readPort_eq_error_iff.2 ⟨short, rfl⟩)⟩)
  | beforeLength => exact readAll_of_error rfl
  | @inHostname length bs short =>
    refine readAll_of_error ?_
    rw [read_hostnameType]
    refine Except.bind_eq_error_iff.2 (.inr ⟨_, takePart_one_eq_ok_iff.2 ⟨_, rfl, rfl⟩, ?_⟩)
    refine Except.bind_eq_error_iff.2 (.inl ?_)
    rw [toNat_singleton]
    exact takePart_eq_error_iff.2 ⟨short, rfl⟩
  | @inHostnamePort length hostname bs hostname_length short =>
    refine readAll_of_error ?_
    rw [read_hostnameType]
    refine Except.bind_eq_error_iff.2 (.inr ⟨_, takePart_one_eq_ok_iff.2 ⟨_, rfl, rfl⟩, ?_⟩)
    refine Except.bind_eq_error_iff.2 (.inr ⟨_, takePart_eq_ok_iff.2 ⟨?_, rfl⟩, ?_⟩)
    · rw [hostname_length, toNat_singleton]
    · exact Except.map_eq_error_iff.2 (readPort_eq_error_iff.2 ⟨short, rfl⟩)
  | after first _ ih =>
    rw [readAll_append first, ih]
    rfl

/-- Every string spells addresses or breaks off. -/
theorem spellsAll_or_breaksOff (bs : Bytes) :
    (∃ as, SpellsAll bs as) ∨ ∃ part needed available, BreaksOff bs part needed available := by
  -- The rest after a whole descriptor is shorter.
  induction hlength : bs.length using Nat.strongRecOn generalizing bs with
  | ind n ih =>
    subst hlength
    cases bs with
    | nil => exact .inl ⟨[], .nil⟩
    | cons type bs =>
      -- `read` tells which: it fails, finds an unknown type, or goes on behind an address.
      cases hread : read type bs with
      | error e =>
        obtain ⟨part, needed, available, hbreaks, -⟩ := breaksOff_of_read hread
        exact .inr ⟨part, needed, available, hbreaks⟩
      | ok r =>
        cases r with
        | none =>
          refine .inl ⟨[], .unknown fun hknown => ?_⟩
          exact read_ne_none hknown hread
        | some p =>
          obtain ⟨a, rest⟩ := p
          obtain ⟨d, hspells, rfl⟩ := read_eq_ok_some_iff.1 hread
          have hlt : rest.length < (type :: (d ++ rest)).length := by
            rw [List.length_cons, List.length_append]
            omega
          rcases ih rest.length hlt rest rfl with
            ⟨as, hrest⟩ | ⟨part, needed, available, hrest⟩
          · exact .inl ⟨a :: as, .cons hspells hrest⟩
          · exact .inr ⟨part, needed, available, .after hspells hrest⟩

/-- `readAll` reads exactly the strings of `SpellsAll`. -/
theorem readAll_eq_ok_iff {bs : Bytes} {as : List NetAddress} :
    readAll bs = .ok as ↔ SpellsAll bs as := by
  refine ⟨fun h => ?_, SpellsAll.readAll_eq⟩
  rcases spellsAll_or_breaksOff bs with ⟨as', hspells⟩ | ⟨part, needed, available, hbreaks⟩
  · obtain rfl := Except.ok.inj (h.symm.trans hspells.readAll_eq)
    exact hspells
  · cases h.symm.trans hbreaks.readAll_eq

/-- `readAll` fails exactly on the strings of `BreaksOff`, and the error tells where. -/
theorem readAll_eq_error_iff {bs : Bytes} {e : Error} :
    readAll bs = .error e ↔ ∃ part needed available, BreaksOff bs part needed available ∧
      e = .malformed (.badAddress part needed available) := by
  constructor
  · intro h
    rcases spellsAll_or_breaksOff bs with ⟨as, hspells⟩ | ⟨part, needed, available, hbreaks⟩
    · cases h.symm.trans hspells.readAll_eq
    · exact ⟨part, needed, available, hbreaks, Except.error.inj (h.symm.trans hbreaks.readAll_eq)⟩
  · rintro ⟨part, needed, available, hbreaks, rfl⟩
    exact hbreaks.readAll_eq

end ChannelGossip.NetAddress
