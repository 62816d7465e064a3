import ChannelGossip.Error

/-! # Network addresses

A node announces where it can be reached as a string of descriptors.  A descriptor is a type byte,
an address and a port in two bytes.  The types 1 to 5 are known; since the length of any other is
not, reading stops at the first one. -/

namespace ChannelGossip

/-- A place where a node can be reached. -/
inductive NetAddress where
  /-- Four bytes of an IPv4 address. -/
  | ipv4 (address : Bytes) (port : UInt16)
  /-- Sixteen bytes of an IPv6 address. -/
  | ipv6 (address : Bytes) (port : UInt16)
  /-- Ten bytes of an onion service of version 2. -/
  | torV2 (id : Bytes) (port : UInt16)
  /-- Thirty-five bytes of an onion service of version 3. -/
  | torV3 (id : Bytes) (port : UInt16)
  /-- A host name behind its length in one byte, read leniently as UTF-8. -/
  | dns (hostname : String) (port : UInt16)
deriving Repr, DecidableEq

namespace NetAddress

/-- The first `n` bytes of a descriptor's remaining bytes, and the rest. -/
def takePart (part : AddressPart) (n : Nat) (bs : Bytes) : Except Error (Bytes × Bytes) :=
  match bs.split? n with
  | some (head, rest) => .ok (head.1, rest)
  | none => .error (.malformed (.badAddress part n bs.length))

/-- The number of address bytes of a descriptor type of fixed width, and the address they make. -/
def fixedForm? (type : UInt8) : Option (Nat × (Bytes → UInt16 → NetAddress)) :=
  if type = 1 then some (4, ipv4)
  else if type = 2 then some (16, ipv6)
  else if type = 3 then some (10, torV2)
  else if type = 4 then some (35, torV3)
  else none

/-- The port at the end of a descriptor, and what follows the descriptor. -/
def readPort (make : UInt16 → NetAddress) (bs : Bytes) : Except Error (NetAddress × Bytes) :=
  (takePart .descriptor 2 bs).map fun (port, rest) => (make (.ofNat (Bytes.toNat port)), rest)

/-- The descriptor of the given type at the front of a byte string, and the rest; `none` for a type
    that is not known. -/
def read (type : UInt8) (bs : Bytes) : Except Error (Option (NetAddress × Bytes)) :=
  match fixedForm? type with
  | some (width, make) => do
    let (address, rest) ← takePart .descriptor width bs
    some <$> readPort (make address) rest
  | none =>
    -- Only a host name has a length of its own.
    if type = 5 then do
      let (length, rest) ← takePart .descriptor 1 bs
      let (hostname, rest) ← takePart .hostname (Bytes.toNat length) rest
      some <$> readPort (dns (Text.Utf8.decodeLossy hostname)) rest
    else .ok none

/-- What follows a part is no longer than what it was taken from. -/
private theorem length_of_takePart {part : AddressPart} {n : Nat} {bs head rest : Bytes}
    (h : takePart part n bs = .ok (head, rest)) : rest.length ≤ bs.length := by
  unfold takePart at h
  split at h
  · rename_i split
    simp only [Except.ok.injEq, Prod.mk.injEq] at h
    rw [Bytes.split?_eq_some_iff.1 split, ← h.2]
    simp
  · cases h

/-- What follows a port is no longer than what it was read from. -/
private theorem length_of_readPort {make : UInt16 → NetAddress} {bs rest : Bytes} {a : NetAddress}
    (h : some <$> readPort make bs = .ok (some (a, rest))) : rest.length ≤ bs.length := by
  unfold readPort at h
  cases hp : takePart .descriptor 2 bs with
  | error e => simp [hp, Except.map, Functor.map] at h
  | ok p =>
    simp only [hp, Except.map, Functor.map, Except.ok.injEq, Option.some.injEq, Prod.mk.injEq] at h
    rw [← h.2]
    exact length_of_takePart hp

/-- A descriptor is never longer than the bytes it is read from. -/
theorem length_of_read {type : UInt8} {bs rest : Bytes} {a : NetAddress}
    (h : read type bs = .ok (some (a, rest))) : rest.length ≤ bs.length := by
  unfold read at h
  split at h
  · rename_i width make _
    cases hp : takePart .descriptor width bs with
    | error e => simp [hp, bind, Except.bind] at h
    | ok p =>
      simp only [hp, bind, Except.bind] at h
      exact Nat.le_trans (length_of_readPort h) (length_of_takePart hp)
  · split at h
    · cases hl : takePart .descriptor 1 bs with
      | error e => simp [hl, bind, Except.bind] at h
      | ok l =>
        simp only [hl, bind, Except.bind] at h
        cases hh : takePart .hostname (Bytes.toNat l.1) l.2 with
        | error e => simp [hh] at h
        | ok p =>
          simp only [hh] at h
          exact Nat.le_trans (length_of_readPort h)
            (Nat.le_trans (length_of_takePart hh) (length_of_takePart hl))
    · cases h

/-- The addresses that a string of descriptors spells, up to the first unknown type. -/
def readAll : Bytes → Except Error (List NetAddress)
  | [] => .ok []
  | type :: bs =>
    match _h : read type bs with
    | .error e => .error e
    | .ok none => .ok []
    | .ok (some (address, rest)) => (readAll rest).map (address :: ·)
termination_by bs => bs.length
decreasing_by exact Nat.lt_succ_of_le (length_of_read _h)

end NetAddress

end ChannelGossip
