import ChannelGossip.Proofs.RangeReplies.Parts
import Mathlib.Data.List.Chain

/-! # Parts that tile a range of blocks

Parts of ascending ids are given ranges of blocks that follow each other from the first block of a
query to its last.  A range holds the blocks of its own ids, and two ranges that follow each other
share a block exactly if that block's ids were cut apart.  Main statements:

* `Tiles`   what it means that spans cover a range
* `border`   where one part stops before another
* `tiles_spans`   the spans of ascending parts cover the range
* `map_ids_spans`   and their ids are the parts -/

namespace ChannelGossip.RangeReplies

/-- `s` starts where `r` stops, or one block earlier exactly if the last id of `r` and the first id
    of `s` share a block. -/
def Span.Follows (s r : Span) : Prop :=
  let isSplit := ∃ a ∈ r.ids.getLast?, ∃ b ∈ s.ids.head?, a.block = b.block
  (isSplit → s.first + 1 = r.stop) ∧ (¬isSplit → s.first = r.stop)

/-- A span that is not empty and holds the blocks of its ids. -/
structure Span.Holds (s : Span) : Prop where
  first_lt_stop : s.first < s.stop
  within : ∀ id ∈ s.ids, s.first ≤ id.block ∧ id.block < s.stop

/-- `Tiles stop first spans`: the spans cover the blocks from `first` up to but not including
    `stop`, each following the one before it. -/
inductive Tiles (stop : Nat) : Nat → List Span → Prop where
  | last {s : Span} : s.Holds → s.stop = stop → Tiles stop s.first [s]
  | cons {r s : Span} {spans : List Span} :
      r.Holds → r.first ≤ s.first → r.stop ≤ stop → s.Follows r → Tiles stop s.first (s :: spans) →
      Tiles stop r.first (r :: s :: spans)

namespace Tiles

variable {stop first : Nat} {spans : List Span}

/-- Spans of `Tiles` start where their range starts. -/
theorem head?_first (h : Tiles stop first spans) : spans.head?.map Span.first = some first := by
  cases h with
  | last hs hstop => rfl
  | cons hr hfirst hstop hfollows hrest => rfl

/-- Spans of `Tiles` stop where their range stops. -/
theorem getLast?_stop (h : Tiles stop first spans) : spans.getLast?.map Span.stop = some stop := by
  induction h with
  | last hs hstop => rw [List.getLast?_singleton, Option.map_some, hstop]
  | cons hr hfirst hstop hfollows hrest ih =>
    rw [List.getLast?_cons_cons]
    exact ih

/-- Each span of `Tiles` is in the relation `Follows` to the one before it. -/
theorem isChain (h : Tiles stop first spans) : spans.IsChain fun r s => s.Follows r := by
  induction h with
  | last hs hstop => exact .singleton _
  | cons hr hfirst hstop hfollows hrest ih => exact .cons_cons hfollows ih

/-- Each span of `Tiles` is one of `Holds` and lies in the range. -/
theorem of_mem (h : Tiles stop first spans) {s : Span} (hs : s ∈ spans) :
    s.Holds ∧ first ≤ s.first ∧ s.stop ≤ stop := by
  induction h with
  | last hlast hstop =>
    rw [List.mem_singleton.1 hs]
    exact ⟨hlast, Nat.le_refl _, Nat.le_of_eq hstop⟩
  | cons hr hfirst hstop hfollows hrest ih =>
    rcases List.mem_cons.1 hs with rfl | hs
    · exact ⟨hr, Nat.le_refl _, hstop⟩
    · obtain ⟨hholds, hle, hstop'⟩ := ih hs
      exact ⟨hholds, Nat.le_trans hfirst hle, hstop'⟩

end Tiles

/-- The ids of `spans` are the parts. -/
theorem map_ids_spans (stop first : Nat) (parts : List (List ShortChannelId)) :
    (spans stop first parts).map Span.ids = parts := by
  induction parts generalizing first with
  | nil => rfl
  | cons part rest ih =>
    cases rest with
    | nil => rfl
    | cons next rest => rw [spans, List.map_cons, ih]

/-- `spans` starts with a span of the first part from the first block. -/
theorem spans_eq_cons (stop first : Nat) (part : List ShortChannelId)
    (rest : List (List ShortChannelId)) :
    ∃ s spans', spans stop first (part :: rest) = s :: spans' ∧ s.first = first ∧ s.ids = part := by
  cases rest with
  | nil => exact ⟨_, _, rfl, rfl, rfl⟩
  | cons next rest => exact ⟨_, _, rfl, rfl, rfl⟩

/-! ## Borders between parts -/

/-- Where a part stops if the next one starts with the id `b`: after the block of `b` if the part
    has ids of that block too, and before it otherwise. -/
def border (part : List ShortChannelId) (b : ShortChannelId) : Nat :=
  if part.getLast?.any (·.block == b.block) then b.block + 1 else b.block

/-- The first of several spans stops at the `border`, and the next starts at its own first block. -/
theorem spans_cons_cons (stop first : Nat) (part : List ShortChannelId) (b : ShortChannelId)
    (next : List ShortChannelId) (rest : List (List ShortChannelId)) :
    spans stop first (part :: (b :: next) :: rest) =
      ⟨first, border part b, part⟩ :: spans stop b.block ((b :: next) :: rest) := rfl

section Border

variable {part next : List ShortChannelId} {a b : ShortChannelId} {first stop : Nat}

/-- The `border` is behind a block that is cut apart, so that both parts speak for it. -/
private theorem border_of_eq (ha : part.getLast? = some a) (h : a.block = b.block) :
    border part b = b.block + 1 := by
  rw [border, ha, Option.any_some, if_pos (beq_iff_eq.2 h)]

/-- The `border` is before a block that is whole, so that only the next part speaks for it. -/
private theorem border_of_ne (ha : part.getLast? = some a) (h : a.block ≠ b.block) :
    border part b = b.block := by
  rw [border, ha, Option.any_some, if_neg (by simpa using h)]

/-- The last id of an ascending part has the highest block in it. -/
theorem block_le_of_getLast? {id : ShortChannelId}
    (hsorted : part.Pairwise (·.block ≤ ·.block)) (ha : part.getLast? = some a) (hid : id ∈ part) :
    id.block ≤ a.block := by
  obtain ⟨front, rfl⟩ := List.getLast?_eq_some_iff.1 ha
  rcases List.mem_append.1 hid with h | h
  · exact (List.pairwise_append.1 hsorted).2.2 id h a List.mem_cons_self
  · rw [List.mem_singleton.1 h]

/-- The `border` lies at the end of the range at most. -/
private theorem border_le (h : b.block < stop) : border part b ≤ stop := by
  unfold border
  split
  · omega
  · omega

/-- All ids of a part lie below its `border` if by `hin` none lies above the next part. -/
private theorem holds_border (ha : part.getLast? = some a)
    (hsorted : part.Pairwise (·.block ≤ ·.block))
    (hin : ∀ id ∈ part, first ≤ id.block ∧ id.block ≤ b.block) :
    Span.Holds ⟨first, border part b, part⟩ := by
  have haIn := hin a (List.mem_of_getLast? ha)
  -- It is enough to look at the last id, which has the highest block.
  have hlast : a.block < border part b := by
    by_cases h : a.block = b.block
    · rw [border_of_eq ha h]
      omega
    · rw [border_of_ne ha h]
      omega
  constructor
  · show first < border part b
    omega
  · intro id hid
    have hidIn := (hin id hid).1
    have hidLe := block_le_of_getLast? hsorted ha hid
    show first ≤ id.block ∧ id.block < border part b
    omega

/-- The part after the `border` is in the relation `Follows` to the one before it. -/
private theorem follows_border (ha : part.getLast? = some a) {s : Span}
    (hfirst : s.first = b.block) (hids : s.ids = b :: next) :
    s.Follows ⟨first, border part b, part⟩ := by
  have hsplit : (∃ a ∈ part.getLast?, ∃ b ∈ s.ids.head?, a.block = b.block) ↔
      a.block = b.block := by
    simp [ha, hids]
  constructor
  · intro h
    show s.first + 1 = border part b
    rw [hfirst, border_of_eq ha (hsplit.1 h)]
  · intro h
    show s.first = border part b
    rw [hfirst, border_of_ne ha (mt hsplit.2 h)]

end Border

/-! ## All parts -/

/-- `spans` covers the blocks from `first` to `stop` if the parts are not empty and their ids are
    ascending and lie in these blocks. -/
theorem tiles_spans {stop first : Nat} {parts : List (List ShortChannelId)} (hparts : parts ≠ [])
    (hne : ∀ part ∈ parts, part ≠ []) (hsorted : parts.flatten.Pairwise (·.block ≤ ·.block))
    (hin : ∀ id ∈ parts.flatten, first ≤ id.block ∧ id.block < stop) :
    Tiles stop first (spans stop first parts) := by
  -- The rest of the parts starts at the block of its own first id.
  induction parts generalizing first with
  | nil => exact absurd rfl hparts
  | cons part rest ih =>
    have hpart : part ≠ [] := hne part List.mem_cons_self
    have hpartIn : ∀ id ∈ part, first ≤ id.block ∧ id.block < stop := fun id hid =>
      hin id (List.mem_append_left _ hid)
    obtain ⟨a, ha⟩ : ∃ a, part.getLast? = some a :=
      ⟨part.getLast hpart, List.getLast?_eq_some_getLast hpart⟩
    cases rest with
    | nil =>
      -- The last part speaks for all blocks that are left.
      have haIn := hpartIn a (List.mem_of_getLast? ha)
      exact .last (s := ⟨first, stop, part⟩) ⟨by show first < stop; omega, hpartIn⟩ rfl
    | cons next rest =>
      cases next with
      | nil => exact absurd rfl (hne [] (List.mem_cons_of_mem _ List.mem_cons_self))
      | cons b next =>
        rw [List.flatten_cons, List.pairwise_append] at hsorted
        obtain ⟨hpartSorted, hrestSorted, hcross⟩ := hsorted
        have hbmem : b ∈ ((b :: next) :: rest).flatten := List.mem_append_left _ List.mem_cons_self
        have hbIn := hin b (List.mem_append_right _ hbmem)
        -- The ids after the border are ascending, so that none lies before it.
        have hrestIn : ∀ id ∈ ((b :: next) :: rest).flatten,
            b.block ≤ id.block ∧ id.block < stop := by
          intro id hid
          refine ⟨?_, (hin id (List.mem_append_right _ hid)).2⟩
          rw [List.flatten_cons, List.cons_append] at hid hrestSorted
          rcases List.mem_cons.1 hid with rfl | hid
          · exact Nat.le_refl _
          · exact List.rel_of_pairwise_cons hrestSorted hid
        have hrest := ih (List.cons_ne_nil _ _) (fun p hp => hne p (List.mem_cons_of_mem _ hp))
          hrestSorted hrestIn
        obtain ⟨s, spans', hspans, hfirst, hids⟩ := spans_eq_cons stop b.block (b :: next) rest
        rw [spans_cons_cons]
        rw [hspans] at hrest ⊢
        rw [← hfirst] at hrest
        -- What is left to show is about the first two parts and the border between them.
        refine .cons (r := ⟨first, border part b, part⟩) ?_ ?_ (border_le hbIn.2) ?_ hrest
        · exact holds_border ha hpartSorted fun id hid =>
            ⟨(hpartIn id hid).1, hcross id hid b hbmem⟩
        · show first ≤ s.first
          omega
        · exact follows_border ha hfirst hids

end ChannelGossip.RangeReplies
