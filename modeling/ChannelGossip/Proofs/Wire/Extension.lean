import ChannelGossip.Proofs.Wire.Reading

/-! # More bytes

A reader that works from the front of a string takes nothing back when more bytes arrive: what it
has read it reads again, and what it has found malformed stays so.  If it ran out of bytes then it
tells how many it needs, and until it has that many it goes on asking for as many.  Main statements:

* `IsIncremental`   a reader of that sort, whose counts start some bytes before the string
* `IsIncremental.bind`   one such reader after another
* `Kind.isIncremental_read`   the readers of all kinds but the remainder are of that sort -/

namespace ChannelGossip

/-- A reader that takes nothing back when more bytes arrive.  Its counts include the `offset` bytes
    that were read before. -/
structure IsIncremental {α : Type} (offset : Nat) (read : Bytes → Except Error (α × Bytes)) :
    Prop where
  ok : ∀ bs p, read bs = .ok p → ∀ more, read (bs ++ more) = .ok (p.1, p.2 ++ more)
  error : ∀ bs e, read bs = .error e →
    (∃ cause, e = .malformed cause ∧ ∀ more, read (bs ++ more) = .error e) ∨
    ∃ needed, e = .underflow none needed (bs.length + offset) ∧ bs.length + offset < needed ∧
      ∀ more, (bs ++ more).length + offset < needed →
        read (bs ++ more) = .error (.underflow none needed ((bs ++ more).length + offset))

namespace IsIncremental

variable {α β : Type} {offset : Nat}

/-- A reader that wants `n` bytes, makes something of them by `make` and looks no further. -/
theorem of_width {read : Bytes → Except Error (α × Bytes)} (n : Nat)
    (make : { head : Bytes // head.length = n } → α)
    (ok : ∀ head rest, read (head.1 ++ rest) = .ok (make head, rest))
    (error : ∀ bs : Bytes, bs.length < n →
      read bs = .error (.underflow none (n + offset) (bs.length + offset))) :
    IsIncremental offset read := by
  -- Either there are too few bytes, or `n` of them and a rest.
  have hsplit : ∀ bs : Bytes, ¬bs.length < n →
      ∃ (head : { head : Bytes // head.length = n }) (rest : Bytes), bs = head.1 ++ rest :=
    fun bs h => ⟨⟨bs.take n, List.length_take_of_le (Nat.le_of_not_lt h)⟩, bs.drop n,
      (List.take_append_drop n bs).symm⟩
  constructor
  · intro bs p h more
    by_cases hlength : bs.length < n
    · rw [error bs hlength] at h
      cases h
    · obtain ⟨head, rest, rfl⟩ := hsplit bs hlength
      rw [ok, Except.ok.injEq] at h
      rw [List.append_assoc, ok, ← h]
  · intro bs e h
    by_cases hlength : bs.length < n
    · rw [error bs hlength, Except.error.injEq] at h
      exact .inr ⟨n + offset, h.symm, by omega, fun more hmore => error _ (by omega)⟩
    · obtain ⟨head, rest, rfl⟩ := hsplit bs hlength
      rw [ok] at h
      cases h

/-- A reader that finds every string malformed. -/
theorem of_malformed (offset : Nat) (cause : Malformation) :
    IsIncremental offset fun _ => (.error (.malformed cause) : Except Error (α × Bytes)) where
  ok bs p h := by cases h
  error bs e h := by
    obtain rfl := Except.error.inj h
    exact .inl ⟨cause, rfl, fun _ => rfl⟩

/-- If `whole` starts with `read` then it fails as `read` does where that one fails. -/
private theorem error_of_error {read : Bytes → Except Error (α × Bytes)}
    {whole : Bytes → Except Error (β × Bytes)} (h : IsIncremental offset read)
    (hwhole : ∀ bs e, read bs = .error e → whole bs = .error e) {bs : Bytes} {e : Error}
    (he : read bs = .error e) :
    (∃ cause, e = .malformed cause ∧ ∀ more, whole (bs ++ more) = .error e) ∨
      ∃ needed, e = .underflow none needed (bs.length + offset) ∧ bs.length + offset < needed ∧
        ∀ more, (bs ++ more).length + offset < needed →
          whole (bs ++ more) = .error (.underflow none needed ((bs ++ more).length + offset)) := by
  obtain ⟨cause, hcause, hmore⟩ | ⟨needed, hfault, hneeded, hmore⟩ := h.error bs e he
  · exact .inl ⟨cause, hcause, fun more => hwhole _ _ (hmore more)⟩
  · exact .inr ⟨needed, hfault, hneeded, fun more hlength => hwhole _ _ (hmore more hlength)⟩

/-- Making something by `f` of what was read. -/
theorem map {read : Bytes → Except Error (α × Bytes)} (h : IsIncremental offset read) (f : α → β) :
    IsIncremental offset fun bs => do
      let p ← read bs
      return (f p.1, p.2) where
  ok bs p hp more := by
    obtain ⟨q, hq, hp⟩ := Except.bind_eq_ok_iff.1 hp
    obtain rfl := Except.ok.inj hp
    exact Except.bind_eq_ok_iff.2 ⟨_, h.ok bs q hq more, rfl⟩
  error bs e he := by
    obtain hread | ⟨q, -, hp⟩ := Except.bind_eq_error_iff.1 he
    · exact h.error_of_error (fun _ _ h => Except.bind_eq_error_iff.2 (.inl h)) hread
    · cases hp

/-- One reader after another: the counts of `second` include the `offset` bytes that `first` has
    taken. -/
theorem bind {first : Bytes → Except Error (α × Bytes)}
    {second : α × Bytes → Except Error (β × Bytes)} (h : IsIncremental 0 first)
    (hlength : ∀ bs p, first bs = .ok p → bs.length = p.2.length + offset)
    (h' : ∀ a, IsIncremental offset fun bs => second (a, bs)) :
    IsIncremental 0 fun bs => first bs >>= second where
  ok bs p hp more := by
    obtain ⟨q, hq, hp⟩ := Except.bind_eq_ok_iff.1 hp
    exact Except.bind_eq_ok_iff.2 ⟨_, h.ok bs q hq more, (h' q.1).ok q.2 p hp more⟩
  error bs e he := by
    obtain hfirst | ⟨q, hfirst, hsecond⟩ := Except.bind_eq_error_iff.1 he
    · exact h.error_of_error (fun _ _ h => Except.bind_eq_error_iff.2 (.inl h)) hfirst
    · -- With more bytes the first reader leaves as many more to the second.
      have hmoreFirst := h.ok bs q hfirst
      have hbs := hlength bs q hfirst
      obtain ⟨cause, rfl, hmore⟩ | ⟨needed, rfl, hneeded, hmore⟩ := (h' q.1).error q.2 e hsecond
      · exact .inl ⟨cause, rfl, fun more =>
          Except.bind_eq_error_iff.2 (.inr ⟨_, hmoreFirst more, hmore more⟩)⟩
      · refine .inr ⟨needed, by rw [hbs]; rfl, by omega, fun more hmoreLength => ?_⟩
        have hbsMore : (bs ++ more).length + 0 = (q.2 ++ more).length + offset := by
          rw [List.length_append, List.length_append]
          omega
        rw [hbsMore] at hmoreLength ⊢
        exact Except.bind_eq_error_iff.2 (.inr ⟨_, hmoreFirst more, hmore more hmoreLength⟩)

end IsIncremental

/-! ## The readers -/

theorem isIncremental_takeBytes (n : Nat) : IsIncremental 0 (takeBytes n) :=
  .of_width n id (fun _ _ => takeBytes_eq_ok_iff.2 rfl) fun _ h =>
    takeBytes_eq_error_iff.2 ⟨h, rfl⟩

theorem isIncremental_takeNat (n : Nat) : IsIncremental 0 (takeNat n) :=
  (isIncremental_takeBytes n).map fun head => Bytes.toNat head.1

/-- `takeNat n` takes `n` bytes. -/
private theorem length_of_takeNat {n : Nat} {bs : Bytes} {p : Nat × Bytes}
    (h : takeNat n bs = .ok p) : bs.length = p.2.length + n := by
  obtain ⟨-, rfl⟩ := takeNat_eq_ok_iff.1 h
  rw [List.length_append, Bytes.length_ofNat, Nat.add_comm]

theorem isIncremental_takeVarBytes : IsIncremental 0 takeVarBytes := by
  refine (isIncremental_takeNat 2).bind (fun _ _ => length_of_takeNat) fun n => ?_
  -- Behind a length `n` the reader wants `n` bytes.
  refine .of_width (UInt16.ofNat n).toNat
    (fun body => ⟨body.1, Nat.lt_of_le_of_lt (Nat.le_of_eq body.2) (UInt16.toNat_lt_size _)⟩)
    (fun body rest => ?_) fun bs h => ?_
  · simp only [Bytes.split?_eq_some_iff.2 rfl]
    rfl
  · simp only [Bytes.split?_eq_none_iff.2 h]
    rfl

theorem isIncremental_takeIdList : IsIncremental 0 takeIdList := by
  refine (isIncremental_takeNat 2).bind (fun _ _ => length_of_takeNat) fun n => ?_
  -- A length of zero is found malformed before any byte behind it is looked at.
  by_cases hn : n = 0
  · simp only [hn, if_true]
    exact .of_malformed 2 .noEncodingByte
  · simp only [hn, if_false]
    refine .of_width n
      (fun body => ⟨.ofByte (body.1.head fun h => hn (by rw [← body.2, h]; rfl)), body.1.tail⟩)
      (fun body rest => ?_) fun bs h => ?_
    · obtain ⟨_ | ⟨encoding, body⟩, rfl⟩ := body
      · exact absurd rfl hn
      · rw [Bytes.split?_eq_some_iff.2 rfl]
        rfl
    · rw [Bytes.split?_eq_none_iff.2 h]
      rfl

/-- `kind.read` takes nothing back, whatever the kind.  The remainder is different since it grows
    with the bytes. -/
theorem Kind.isIncremental_read {kind : Kind} (h : kind ≠ .remainder) :
    IsIncremental 0 kind.read := by
  cases kind with
  | messageType => exact (isIncremental_takeNat 2).map fun n => Value.messageType (.ofNat n)
  | u8 => exact (isIncremental_takeNat 1).map fun n => Value.u8 (.ofNat n)
  | u16 => exact (isIncremental_takeNat 2).map fun n => Value.u16 (.ofNat n)
  | u32 => exact (isIncremental_takeNat 4).map fun n => Value.u32 (.ofNat n)
  | u64 => exact (isIncremental_takeNat 8).map fun n => Value.u64 (.ofNat n)
  | fixed kind =>
    exact (isIncremental_takeBytes kind.width).map fun head => @Value.fixed kind ⟨head.1, head.2⟩
  | shortChannelId =>
    exact (isIncremental_takeBytes ShortChannelId.width).map fun head =>
      Value.shortChannelId (.ofBytes head.1)
  | varBytes => exact isIncremental_takeVarBytes.map Value.varBytes
  | idList => exact isIncremental_takeIdList.map Value.idList
  | remainder => exact absurd rfl h

end ChannelGossip
