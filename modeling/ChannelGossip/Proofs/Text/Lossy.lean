import ChannelGossip.Proofs.Text.Utf8

/-! # Reading ill-formed UTF-8

`decodeLossy` reads every byte string.  The string falls into spelled characters and ill-formed
pieces in one way only, and each piece is read as one U+FFFD, so that a string that `decode` accepts
is read as the same text.  Main statements:

* `IsIllFormed`   ill-formed pieces
* `Mends`   a byte string and the text that it is read as
* `front_of_isIllFormed`, `front_cases`   `front` finds the characters and the pieces
* `decodeLossy_eq_iff`   what `decodeLossy` reads
* `decodeLossy_of_decode`   it agrees with `decode` where that succeeds -/

namespace ChannelGossip.Text.Utf8

variable {first : UInt8} {others rest bs : Bytes} {c : Char} {cs : List Char}

/-! ## Ill-formed pieces -/

/-- The bytes `first :: others`, in front of `rest`, are an ill-formed piece. -/
inductive IsIllFormed (first : UInt8) (others rest : Bytes) : Prop where
  /-- No character starts with the only byte of the piece. -/
  | noFirst (following_eq : following? first = none) (others_eq : others = [])
  /-- The other bytes are of the first of the ranges that must follow `first`, and what is next,
      if there is anything, is not of the range `next`. -/
  | brokenOff {matched left : List ByteRange} {next : ByteRange}
      (following_eq : following? first = some (matched ++ next :: left))
      (follow : List.Forall₂ (fun r b => r.contains b = true) matched others)
      (breaks : ∀ b ∈ rest.head?, next.contains b = false)

/-- `countMatching` stops in front of a byte that is not of the `next` range, or at the end. -/
theorem countMatching_of_breaks {matched left : List ByteRange} {next : ByteRange}
    (follow : List.Forall₂ (fun r b => r.contains b = true) matched others)
    (breaks : ∀ b ∈ rest.head?, next.contains b = false) :
    countMatching (matched ++ next :: left) (others ++ rest) = others.length := by
  -- Along the ranges that are matched; behind them `countMatching` has stopped.
  induction follow with
  | nil =>
    cases rest with
    | nil => rfl
    | cons b rest =>
      have hb : next.contains b = false := breaks b rfl
      simp [countMatching, hb]
  | cons hb _ ih => simp only [List.cons_append, countMatching, if_pos hb, ih, List.length_cons]

/-- If `countMatching` stops before the last range then it stops in front of such a byte, or at the
    end. -/
theorem exists_breaks_of_countMatching_ne {ranges : List ByteRange}
    (h : countMatching ranges bs ≠ ranges.length) :
    ∃ matched next left others rest, ranges = matched ++ next :: left ∧ bs = others ++ rest ∧
      List.Forall₂ (fun r b => r.contains b = true) matched others ∧
      ∀ b ∈ rest.head?, next.contains b = false := by
  induction ranges generalizing bs with
  | nil => cases bs <;> exact absurd rfl h
  | cons r ranges ih =>
    cases bs with
    | nil => exact ⟨[], r, ranges, [], [], rfl, rfl, .nil, nofun⟩
    | cons b bs =>
      -- It stops right here, or somewhere in the rest.
      by_cases hb : r.contains b
      · simp only [countMatching, if_pos hb, List.length_cons, ne_eq,
          Nat.add_right_cancel_iff] at h
        obtain ⟨matched, next, left, others, rest, rfl, rfl, follow, breaks⟩ := ih h
        exact ⟨r :: matched, next, left, b :: others, rest, rfl, rfl, .cons hb follow, breaks⟩
      · refine ⟨[], r, ranges, [], b :: bs, rfl, rfl, .nil, ?_⟩
        rintro _ ⟨⟩
        exact eq_false_of_ne_true hb

/-- `front` finds an ill-formed piece with its width, unless the bytes end with it: then it may also
    say that a character is cut off. -/
theorem front_of_isIllFormed (h : IsIllFormed first others rest) :
    front first (others ++ rest) = .illFormed (others.length + 1) ∨
      front first (others ++ rest) = .cutOff ∧ rest = [] := by
  cases h with
  | noFirst following_eq others_eq =>
    subst others_eq
    left
    simp only [front, following_eq, List.length_nil]
  | @brokenOff matched left next following_eq follow breaks =>
    -- The ranges from `next` on are missing, so this is no whole character.
    have hcount : countMatching (matched ++ next :: left) (others ++ rest) = others.length :=
      countMatching_of_breaks follow breaks
    have hmissing : others.length ≠ (matched ++ next :: left).length := by
      rw [List.length_append, List.length_cons, follow.length_eq]
      omega
    simp only [front, following_eq, hcount, if_neg hmissing, List.drop_left]
    cases rest with
    | nil => exact .inr ⟨rfl, rfl⟩
    | cons b rest => exact .inl rfl

/-- A byte string starts with a spelled character or with an ill-formed piece. -/
theorem front_cases (first : UInt8) (bs : Bytes) :
    ∃ others rest, bs = others ++ rest ∧
      ((∃ c, IsChar first others c) ∨ IsIllFormed first others rest) := by
  cases hfollow : following? first with
  | none => exact ⟨[], bs, rfl, .inr (.noFirst hfollow rfl)⟩
  | some ranges =>
    by_cases hcount : countMatching ranges bs = ranges.length
    · obtain ⟨others, rest, rfl, follow⟩ := countMatching_eq_length_iff.1 hcount
      exact ⟨others, rest, rfl, .inl ⟨_, ⟨ranges, hfollow, follow⟩, rfl⟩⟩
    · obtain ⟨matched, next, left, others, rest, rfl, rfl, follow, breaks⟩ :=
        exists_breaks_of_countMatching_ne hcount
      exact ⟨others, rest, rfl, .inr (.brokenOff hfollow follow breaks)⟩

/-! ## Whole strings -/

/-- `Mends bs cs` says that `bs` falls into spelled characters and ill-formed pieces, and that `cs`
    are the former, with one U+FFFD for each of the latter. -/
inductive Mends : Bytes → List Char → Prop where
  | nil : Mends [] []
  | char {first : UInt8} {others rest : Bytes} {c : Char} {cs : List Char}
      (head : IsChar first others c) (tail : Mends rest cs) :
      Mends (first :: (others ++ rest)) (c :: cs)
  | piece {first : UInt8} {others rest : Bytes} {cs : List Char}
      (head : IsIllFormed first others rest) (tail : Mends rest cs) :
      Mends (first :: (others ++ rest)) ('\uFFFD' :: cs)

/-- Bytes that spell characters fall into these characters alone. -/
theorem Spells.mends (h : Spells bs cs) : Mends bs cs := by
  induction h with
  | nil => exact .nil
  | cons head _ ih => exact .char head ih

/-- Every byte string falls into characters and pieces, by `front_cases`. -/
theorem exists_mends (bs : Bytes) : ∃ cs, Mends bs cs := by
  -- What `front` finds takes one byte at least, so the induction is on the number of bytes.
  induction hn : bs.length using Nat.strongRecOn generalizing bs with
  | ind n ih =>
    cases bs with
    | nil => exact ⟨[], .nil⟩
    | cons first bs =>
      obtain ⟨others, rest, rfl, hfront⟩ := front_cases first bs
      have hlt : rest.length < n := by
        rw [List.length_cons, List.length_append] at hn
        omega
      obtain ⟨cs, htail⟩ := ih _ hlt rest rfl
      obtain ⟨c, hchar⟩ | hpiece := hfront
      · exact ⟨c :: cs, .char hchar htail⟩
      · exact ⟨'\uFFFD' :: cs, .piece hpiece htail⟩

/-- `decodeLossyFrom` adds the characters that `bs` is mended to to those that it has `read`. -/
theorem Mends.decodeLossyFrom_eq (h : Mends bs cs) (read : List Char) :
    decodeLossyFrom read bs = String.ofList (read.reverse ++ cs) := by
  induction h generalizing read with
  | nil => rw [decodeLossyFrom, List.append_nil]
  | @char first others rest c cs head tail ih =>
    have hfront := front_eq_char_iff.2 ⟨others, rest, rfl, rfl, head⟩
    rw [decodeLossyFrom, hfront]
    simp only [Nat.add_sub_cancel, List.drop_left]
    rw [ih, List.reverse_cons, List.append_assoc, List.singleton_append]
  | @piece first others rest cs head tail ih =>
    rw [decodeLossyFrom]
    -- An ill-formed piece is passed over as a whole, also at the end.
    obtain hfront | ⟨hfront, rfl⟩ := front_of_isIllFormed head
    · rw [hfront]
      simp only [Nat.add_sub_cancel, List.drop_left]
      rw [ih, List.reverse_cons, List.append_assoc, List.singleton_append]
    · -- Nothing is left behind a character that is cut off.
      cases tail
      rw [hfront]
      simp only [List.reverse_cons]

/-- `decodeLossy` reads the text that `bs` is mended to, which is one text only. -/
theorem decodeLossy_eq_iff {s : String} : decodeLossy bs = s ↔ Mends bs s.toList := by
  constructor
  · rintro rfl
    obtain ⟨cs, h⟩ := exists_mends bs
    have hread := h.decodeLossyFrom_eq []
    rw [decodeLossy, hread, List.reverse_nil, List.nil_append, String.toList_ofList]
    exact h
  · intro h
    rw [decodeLossy, h.decodeLossyFrom_eq, List.reverse_nil, List.nil_append, String.ofList_toList]

/-- What `decode` reads is read by `decodeLossy` as the same text. -/
theorem decodeLossy_of_decode {s : String} (h : decode bs = .ok s) : decodeLossy bs = s :=
  decodeLossy_eq_iff.2 (decode_eq_ok_iff.1 h).mends

end ChannelGossip.Text.Utf8
