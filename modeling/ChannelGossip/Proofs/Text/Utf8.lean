import Mathlib.Data.List.Forall2
import Mathlib.Tactic.SplitIfs
import ChannelGossip.Text.Blank
import ChannelGossip.Text.Utf8

/-! # Reading UTF-8

A byte string is decoded exactly if it is a sequence of spelled characters, and since no byte of a
longer spelling stands for a character of its own, such a sequence can be cut at any ASCII
character.  Main statements:

* `front_eq_char_iff`   a front is a character exactly if its bytes spell one
* `decode_eq_ok_iff`   what is decoded
* `Spells.splitOn`   the pieces between ASCII bytes spell the pieces between the characters
* `Spells.of_concat`   an ASCII byte at the end spells the last character -/

namespace ChannelGossip.Text.Utf8

/-! ## One character -/

/-- The bytes `first :: others` spell the character `c`. -/
structure IsChar (first : UInt8) (others : Bytes) (c : Char) : Prop where
  /-- The other bytes are of the ranges that must follow the first. -/
  follow : ∃ ranges, following? first = some ranges ∧
    List.Forall₂ (fun r b => r.contains b = true) ranges others
  eq_ofNat : c = Char.ofNat (codePoint first others)

/-- `countMatching` counts all `ranges` exactly if `bs` starts with a byte for each of them. -/
theorem countMatching_eq_length_iff {ranges : List ByteRange} {bs : Bytes} :
    countMatching ranges bs = ranges.length ↔
      ∃ others rest, bs = others ++ rest ∧
        List.Forall₂ (fun r b => r.contains b = true) ranges others := by
  induction ranges generalizing bs with
  | nil =>
    constructor
    · intro _
      exact ⟨[], bs, rfl, .nil⟩
    · intro _
      cases bs <;> rfl
  | cons r ranges ih =>
    constructor
    · intro h
      cases bs with
      | nil => simp [countMatching] at h
      | cons b bs =>
        -- The first byte must be of the first range, and then the rest counts.
        by_cases hb : r.contains b
        · simp only [countMatching, if_pos hb, List.length_cons, Nat.add_right_cancel_iff] at h
          obtain ⟨others, rest, rfl, hothers⟩ := ih.1 h
          exact ⟨b :: others, rest, rfl, .cons hb hothers⟩
        · simp [countMatching, hb] at h
    · rintro ⟨others, rest, rfl, hothers⟩
      cases hothers with
      | @cons _ b _ others hb hothers =>
        have hrest := ih.2 ⟨others, rest, rfl, hothers⟩
        simp only [List.cons_append, countMatching, if_pos hb, hrest, List.length_cons]

/-- `front` finds the character `c` exactly if the bytes up to `width` spell it, as `IsChar`
    says. -/
theorem front_eq_char_iff {first : UInt8} {bs : Bytes} {c : Char} {width : Nat} :
    front first bs = .char c width ↔
      ∃ others rest, bs = others ++ rest ∧ width = others.length + 1 ∧ IsChar first others c := by
  unfold front
  -- Either `first` starts no character at all, or it says what must follow.
  cases hfollow : following? first with
  | none =>
    simp only [reduceCtorEq, false_iff]
    rintro ⟨others, rest, -, -, ⟨ranges, hranges, -⟩, -⟩
    cases hfollow.symm.trans hranges
  | some ranges =>
    simp only
    by_cases hcount : countMatching ranges bs = ranges.length
    · obtain ⟨others, rest, rfl, hothers⟩ := countMatching_eq_length_iff.1 hcount
      have hlength : ranges.length = others.length := hothers.length_eq
      rw [if_pos hcount, hcount, hlength, List.take_left]
      constructor
      · intro h
        obtain ⟨rfl, rfl⟩ := Front.char.inj h
        exact ⟨others, rest, rfl, rfl, ⟨ranges, hfollow, hothers⟩, rfl⟩
      · rintro ⟨others', rest', heq, rfl, ⟨ranges', hranges', hothers'⟩, rfl⟩
        -- As many bytes belong to the character as the first byte says.
        obtain rfl := Option.some.inj (hfollow.symm.trans hranges')
        have hlength' : others'.length = others.length := hothers'.length_eq.symm.trans hlength
        obtain ⟨rfl, -⟩ := List.append_inj heq hlength'.symm
        rfl
    · rw [if_neg hcount]
      constructor
      · intro h
        split at h <;> cases h
      · rintro ⟨others, rest, rfl, -, ⟨ranges', hranges', hothers⟩, -⟩
        obtain rfl := Option.some.inj (hfollow.symm.trans hranges')
        exact absurd (countMatching_eq_length_iff.2 ⟨others, rest, rfl, hothers⟩) hcount

/-- `Char.ofNat` keeps a valid code point. -/
private theorem toNat_ofNat {n : Nat} (h : n < 0xD800 ∨ 0xDFFF < n ∧ n < 0x110000) :
    (Char.ofNat n).toNat = n := by
  rw [Char.ofNat, dif_pos h]
  rfl

/-- A character of `IsChar` is ASCII and spelled by the byte of its number alone, or neither it nor
    any byte of its spelling is ASCII. -/
theorem IsChar.cases {first : UInt8} {others : Bytes} {c : Char} (h : IsChar first others c) :
    (first.toNat < 0x80 ∧ others = [] ∧ c.toNat = first.toNat) ∨
      (0x80 ≤ first.toNat ∧ (∀ b ∈ others, 0x80 ≤ b.toNat) ∧ 0x80 ≤ c.toNat) := by
  obtain ⟨⟨ranges, hranges, hothers⟩, rfl⟩ := h
  simp only [following?] at hranges
  -- The ranges keep a code point above what fewer bytes can spell, and away from the surrogates.
  split_ifs at hranges
  all_goals obtain rfl := Option.some.inj hranges
  all_goals simp only [List.forall₂_cons_left_iff, List.forall₂_nil_left_iff, ByteRange.contains,
    tail, Bool.and_eq_true, decide_eq_true_eq] at hothers
  · -- No other byte
    subst hothers
    have hpoint : codePoint first [] = first.toNat := rfl
    rw [hpoint, toNat_ofNat (by omega)]
    exact .inl ⟨by omega, rfl, rfl⟩
  · -- One other byte
    obtain ⟨b, _, hb, rfl, rfl⟩ := hothers
    have hpoint : codePoint first [b] = 64 * (first.toNat % 32) + b.toNat % 64 := rfl
    rw [hpoint, toNat_ofNat (by omega)]
    simp only [List.mem_singleton, forall_eq]
    omega
  -- Two other bytes
  iterate 3
    obtain ⟨b, _, hb, ⟨b', _, hb', rfl, rfl⟩, rfl⟩ := hothers
    have hpoint : codePoint first [b, b'] =
      64 * (64 * (first.toNat % 16) + b.toNat % 64) + b'.toNat % 64 := rfl
    rw [hpoint, toNat_ofNat (by omega)]
    simp only [List.mem_cons, List.not_mem_nil, or_false, forall_eq_or_imp, forall_eq]
    omega
  -- Three other bytes
  all_goals
    obtain ⟨b, _, hb, ⟨b', _, hb', ⟨b'', _, hb'', rfl, rfl⟩, rfl⟩, rfl⟩ := hothers
    have hpoint : codePoint first [b, b', b''] = 64 * (64 * (64 * (first.toNat % 8) +
      b.toNat % 64) + b'.toNat % 64) + b''.toNat % 64 := rfl
    rw [hpoint, toNat_ofNat (by omega)]
    simp only [List.mem_cons, List.not_mem_nil, or_false, forall_eq_or_imp, forall_eq]
    omega

/-- The ASCII byte `b` spells its character `d`, and is in the spelling of no other one. -/
theorem IsChar.eq_or_notMem {first : UInt8} {others : Bytes} {c : Char}
    (h : IsChar first others c) {b : UInt8} {d : Char} (hb : b.toNat < 0x80)
    (hd : d.toNat = b.toNat) :
    (first :: others = [b] ∧ c = d) ∨ (b ∉ first :: others ∧ c ≠ d) := by
  obtain ⟨-, rfl, hc⟩ | ⟨hfirst, hothers, hc⟩ := h.cases
  · -- Both are ASCII, and then the byte tells the character.
    by_cases hbyte : first = b
    · subst hbyte
      exact .inl ⟨rfl, Char.toNat_inj.1 (hc.trans hd.symm)⟩
    · refine .inr ⟨by simpa using Ne.symm hbyte, fun hcd => hbyte ?_⟩
      rw [hcd, hd] at hc
      exact UInt8.toNat_inj.1 hc.symm
  · refine .inr ⟨fun hmem => ?_, fun hcd => ?_⟩
    · obtain rfl | hmem := List.mem_cons.1 hmem
      · omega
      · have := hothers b hmem
        omega
    · subst hcd
      omega

/-! ## Many characters -/

/-- `Spells bs cs` says that the bytes `bs` spell the characters `cs` one after the other. -/
inductive Spells : Bytes → List Char → Prop where
  | nil : Spells [] []
  | cons {first : UInt8} {others rest : Bytes} {c : Char} {cs : List Char}
      (head : IsChar first others c) (tail : Spells rest cs) :
      Spells (first :: (others ++ rest)) (c :: cs)

/-- `decodeFrom` succeeds exactly if the bytes that are left spell some characters, which it adds to
    those that it has `read`. -/
theorem decodeFrom_eq_ok_iff {position : Nat} {read : List Char} {bs : Bytes} {s : String} :
    decodeFrom position read bs = .ok s ↔
      ∃ cs, Spells bs cs ∧ s = String.ofList (read.reverse ++ cs) := by
  -- `decodeFrom` drops one character after the other, so the induction is on the number of bytes.
  induction hn : bs.length using Nat.strongRecOn generalizing position read bs with
  | ind n ih =>
    cases bs with
    | nil =>
      unfold decodeFrom
      constructor
      · intro h
        exact ⟨[], .nil, by rw [List.append_nil, Except.ok.inj h]⟩
      · rintro ⟨cs, hspells, rfl⟩
        cases hspells
        rw [List.append_nil]
    | cons first bs =>
      unfold decodeFrom
      constructor
      · intro h
        cases hfront : front first bs with
        | char c width =>
          obtain ⟨others, rest, rfl, rfl, hchar⟩ := front_eq_char_iff.1 hfront
          rw [hfront] at h
          simp only [Nat.add_sub_cancel, List.drop_left] at h
          have hlt : rest.length < n := by
            simp only [List.length_cons, List.length_append] at hn
            omega
          obtain ⟨cs, hspells, rfl⟩ := (ih _ hlt rfl).1 h
          exact ⟨c :: cs, .cons hchar hspells, by simp⟩
        | illFormed width => simp [hfront] at h
        | cutOff => simp [hfront] at h
      · rintro ⟨cs, hspells, rfl⟩
        cases hspells with
        | @cons _ others rest c cs hchar hspells =>
          have hfront := front_eq_char_iff.2 ⟨others, rest, rfl, rfl, hchar⟩
          have hlt : rest.length < n := by
            simp only [List.length_cons, List.length_append] at hn
            omega
          rw [hfront]
          simp only [Nat.add_sub_cancel, List.drop_left]
          exact (ih _ hlt rfl).2 ⟨cs, hspells, by simp⟩

/-- `decode` succeeds exactly if the bytes spell the characters of a text, as `Spells` says. -/
theorem decode_eq_ok_iff {bs : Bytes} {s : String} : decode bs = .ok s ↔ Spells bs s.toList := by
  rw [decode, decodeFrom_eq_ok_iff]
  constructor
  · rintro ⟨cs, hspells, rfl⟩
    simpa using hspells
  · intro h
    exact ⟨_, h, by simp⟩

/-! ## Cutting at ASCII characters -/

/-- If `a` is not in `xs` then `xs` goes into the first piece of `xs ++ ys`. -/
private theorem splitOn_append {α : Type} [DecidableEq α] {a : α} {xs : List α} (h : a ∉ xs)
    (ys : List α) : (xs ++ ys).splitOn a = (ys.splitOn a).modifyHead (xs ++ ·) := by
  induction xs with
  | nil =>
    obtain ⟨piece, pieces, hpieces⟩ := List.exists_cons_of_ne_nil (List.splitOn_ne_nil a ys)
    simp [hpieces]
  | cons x xs ih =>
    rw [List.mem_cons, not_or] at h
    have hx : (x == a) = false := beq_false_of_ne (Ne.symm h.1)
    obtain ⟨piece, pieces, hpieces⟩ := List.exists_cons_of_ne_nil (List.splitOn_ne_nil a ys)
    rw [List.cons_append, List.splitOn_cons_eq_if_modifyHead, hx, ih h.2, hpieces]
    rfl

namespace Spells

variable {bs : Bytes} {cs : List Char} {b : UInt8} {d : Char}

/-- `List.splitOn` cuts bytes and characters alike: the pieces between the ASCII bytes `b` spell the
    pieces between the characters `d`. -/
theorem splitOn (h : Spells bs cs) (hb : b.toNat < 0x80) (hd : d.toNat = b.toNat) :
    List.Forall₂ Spells (bs.splitOn b) (cs.splitOn d) := by
  induction h with
  | nil => exact .cons .nil .nil
  | @cons first others rest c cs head tail ih =>
    -- By `IsChar.eq_or_notMem`, the first character is the separator or has no part in it.
    obtain ⟨hbytes, rfl⟩ | ⟨hbytes, hc⟩ := head.eq_or_notMem hb hd
    · -- The character is where the text is cut.
      obtain ⟨rfl, rfl⟩ := List.cons.inj hbytes
      rw [List.nil_append, List.splitOn_cons_eq_if_modifyHead,
        List.splitOn_cons_eq_if_modifyHead, beq_self_eq_true, beq_self_eq_true, if_pos rfl,
        if_pos rfl]
      exact .cons .nil ih
    · -- The character belongs to the first piece.
      have hcut : (first :: (others ++ rest)).splitOn b =
          (rest.splitOn b).modifyHead (first :: others ++ ·) := splitOn_append hbytes rest
      rw [hcut, List.splitOn_cons_eq_if_modifyHead, beq_false_of_ne hc]
      generalize rest.splitOn b = pieces at ih ⊢
      generalize cs.splitOn d = texts at ih ⊢
      cases ih with
      | nil => exact .nil
      | cons hpiece hpieces => exact .cons (.cons head hpiece) hpieces

/-- An ASCII byte `b` at the end spells the last character, which is `d`. -/
theorem of_concat (h : Spells (bs ++ [b]) cs) (hb : b.toNat < 0x80) (hd : d.toNat = b.toNat) :
    ∃ cs', cs = cs' ++ [d] ∧ Spells bs cs' := by
  generalize hall : bs ++ [b] = all at h
  induction h generalizing bs with
  | nil => simp at hall
  | @cons first others rest c cs head tail ih =>
    -- The last byte belongs to the first character only if nothing comes after that.
    obtain rfl | ⟨rest', last, rfl⟩ := rest.eq_nil_or_concat
    · -- The byte belongs to the only character, and there is no other byte in it.
      cases tail
      rw [List.append_nil] at hall
      have hmem : b ∈ first :: others := by simp [← hall]
      obtain ⟨hbytes, rfl⟩ | ⟨hbytes, -⟩ := head.eq_or_notMem hb hd
      · have hnil : bs = [] := by simpa [hbytes] using hall
        exact ⟨[], rfl, hnil ▸ .nil⟩
      · exact absurd hmem hbytes
    · -- The byte belongs to the characters after the first.
      have hassoc : first :: (others ++ (rest' ++ [last])) =
          (first :: (others ++ rest')) ++ [last] := by simp
      rw [List.concat_eq_append] at ih tail
      rw [List.concat_eq_append, hassoc] at hall
      obtain ⟨rfl, hlast⟩ := List.append_inj' hall rfl
      obtain rfl := List.singleton_inj.1 hlast
      obtain ⟨cs', rfl, htail⟩ := ih rfl
      exact ⟨c :: cs', rfl, .cons head htail⟩

end Spells

end ChannelGossip.Text.Utf8
