import ChannelGossip.Proofs.RangeReplies.Answer
import Mathlib.Data.List.DropRight

/-! # Blocks that stay whole

A part of an answer ends where a block ends, unless that block alone is too large for a part.  So
the ids of a block are cut apart only if they have to be, and if none have to be, no block is spoken
for twice.  Main statements:

* `take_firstLength`   how a part ends if ids are left for other parts
* `lt_blockSize_of_parts`   only the ids of a block that is too large are cut apart
* `Partitions`   what it means that spans cover a range exactly once
* `Tiles.partitions`   spans that share no block do
* `QueryChannelRange.replies_split_large_blocks_only`   both for every answer -/

namespace ChannelGossip

/-- How many of some ids are in a block. -/
def blockSize (ids : List ShortChannelId) (block : Nat) : Nat :=
  ids.countP fun id => id.block = block

/-- `blockSize` does not shrink when ids are added. -/
theorem blockSize_le_of_sublist {ids ids' : List ShortChannelId} (h : ids.Sublist ids')
    (block : Nat) : blockSize ids block ≤ blockSize ids' block :=
  h.countP_le

/-- `blockSize` counts all ids if all are in the block. -/
theorem blockSize_eq_length {ids : List ShortChannelId} {block : Nat}
    (h : ∀ id ∈ ids, id.block = block) : blockSize ids block = ids.length := by
  rw [blockSize, List.countP_eq_length]
  intro id hid
  exact decide_eq_true (h id hid)

namespace RangeReplies

variable {most : Nat} {ids : List ShortChannelId}

/-! ## Where a part ends -/

/-- `firstLength` takes all ids if there is room for them. -/
theorem firstLength_of_drop_eq_nil (h : ids.drop (max most 1) = []) :
    firstLength most ids = ids.length := by
  have hle : ids.length ≤ max most 1 := List.drop_eq_nil_iff.1 h
  rw [firstLength, h]
  exact congrArg List.length (List.take_of_length_le hle)

/-- The ids that fit the first part, but for those at the end that share a block with `next`. -/
def wholeBlocks (most : Nat) (ids : List ShortChannelId) (next : ShortChannelId) :
    List ShortChannelId :=
  (ids.take (max most 1)).rdropWhile (·.block == next.block)

/-- If there is no room for `next` and those behind it, `firstLength` takes `wholeBlocks`, or all
    that fit if that leaves none. -/
theorem firstLength_of_drop_eq_cons {next : ShortChannelId} {rest : List ShortChannelId}
    (h : ids.drop (max most 1) = next :: rest) :
    firstLength most ids =
      if wholeBlocks most ids next = [] then max most 1
      else (wholeBlocks most ids next).length := by
  have hlength : (ids.take (max most 1)).length = max most 1 := by
    have hnot : ¬ids.length ≤ max most 1 := by
      intro hle
      rw [List.drop_of_length_le hle] at h
      cases h
    rw [List.length_take]
    omega
  rw [firstLength, h, wholeBlocks, List.rdropWhile]
  simp only [hlength, List.isEmpty_iff, List.reverse_eq_nil_iff, List.length_reverse]

/-- All ids are `wholeBlocks`, those of the block of `next` that would have fitted, and those that
    would not. -/
theorem exists_eq_wholeBlocks_append {next : ShortChannelId} {rest : List ShortChannelId}
    (h : ids.drop (max most 1) = next :: rest) :
    ∃ given, (∀ id ∈ given, id.block = next.block) ∧
      ids = wholeBlocks most ids next ++ (given ++ next :: rest) := by
  refine ⟨(ids.take (max most 1)).rtakeWhile (·.block == next.block), fun id hid => ?_, ?_⟩
  · have hblock := List.mem_rtakeWhile_imp hid
    exact beq_iff_eq.1 hblock
  · rw [← List.append_assoc, wholeBlocks, List.rdropWhile_append_rtakeWhile, ← h,
      List.take_append_drop]

/-- The last of `wholeBlocks` is in another block than `next`. -/
theorem block_getLast_wholeBlocks_ne {next : ShortChannelId} (h : wholeBlocks most ids next ≠ []) :
    ((wholeBlocks most ids next).getLast h).block ≠ next.block := by
  have hnot := List.rdropWhile_last_not _ _ h
  exact fun heq => hnot (beq_iff_eq.2 heq)

/-- If ids are left after `firstLength`, the first part ends with an id of another block than
    `next`, or it is full and all of its ids are in the block of `next`. -/
theorem take_firstLength {next : ShortChannelId} {rest : List ShortChannelId}
    (h : ids.drop (firstLength most ids) = next :: rest) :
    (∃ last ∈ (ids.take (firstLength most ids)).getLast?, last.block ≠ next.block) ∨
      firstLength most ids = max most 1 ∧
        ∀ id ∈ ids.take (firstLength most ids), id.block = next.block := by
  cases hrest : ids.drop (max most 1) with
  | nil =>
    -- With room for all ids none would be left.
    rw [firstLength_of_drop_eq_nil hrest, List.drop_length] at h
    cases h
  | cons after others =>
    have hlength := firstLength_of_drop_eq_cons hrest
    by_cases hwhole : wholeBlocks most ids after = []
    · -- Nothing would be left, so that nothing is given back.
      rw [if_pos hwhole] at hlength
      rw [hlength, hrest] at h
      obtain ⟨rfl, rfl⟩ := List.cons.inj h
      refine .inr ⟨hlength, fun id hid => ?_⟩
      rw [hlength] at hid
      exact beq_iff_eq.1 (List.rdropWhile_eq_nil_iff.1 hwhole id hid)
    · obtain ⟨given, hgiven, hids⟩ := exists_eq_wholeBlocks_append hrest
      have hlast := block_getLast_wholeBlocks_ne hwhole
      rw [if_neg hwhole] at hlength
      rw [hlength] at h ⊢
      generalize wholeBlocks most ids after = whole at *
      rw [hids, List.drop_left] at h
      rw [hids, List.take_left]
      -- The next id is the first of those given back, if there are any.
      have hnext : next.block = after.block := by
        cases given with
        | nil => rw [(List.cons.inj h).1]
        | cons b back =>
          rw [← (List.cons.inj h).1]
          exact hgiven b List.mem_cons_self
      exact .inl ⟨whole.getLast hwhole, List.getLast?_eq_some_getLast hwhole, hnext ▸ hlast⟩

/-- A block with ids on both sides of `firstLength` has a `blockSize` that is too large for a
    part. -/
theorem lt_blockSize_of_cut (hsorted : ids.Pairwise (·.block ≤ ·.block)) {a b : ShortChannelId}
    (ha : a ∈ ids.take (firstLength most ids)) (hb : b ∈ ids.drop (firstLength most ids))
    (hblock : a.block = b.block) : max most 1 < blockSize ids a.block := by
  obtain ⟨next, rest, hrest⟩ := List.exists_cons_of_ne_nil (List.ne_nil_of_mem hb)
  rw [← List.take_append_drop (firstLength most ids) ids, List.pairwise_append] at hsorted
  obtain ⟨hpart, hafter, hcross⟩ := hsorted
  have hnext : next ∈ ids.drop (firstLength most ids) := hrest ▸ List.mem_cons_self
  -- All ids between the two are in their block.
  have hnextLe : next.block ≤ b.block := by
    rw [hrest] at hafter hb
    rcases List.mem_cons.1 hb with rfl | hb
    · exact Nat.le_refl _
    · exact List.rel_of_pairwise_cons hafter hb
  have haNext := hcross a ha next hnext
  rcases take_firstLength hrest with ⟨last, hlast, hne⟩ | ⟨hlength, hall⟩
  · -- The last id of the part is between the two in the list, so it is in their block, and so is
    -- the next one.
    have haLast := block_le_of_getLast? hpart hlast ha
    have hlastNext := hcross last (List.mem_of_getLast? hlast) next hnext
    omega
  · -- The part is full of the block, and at least one more id of it is left.
    have hsplit : blockSize ids a.block = blockSize (ids.take (firstLength most ids)) a.block +
        blockSize (ids.drop (firstLength most ids)) a.block := by
      rw [blockSize, blockSize, blockSize, ← List.countP_append, List.take_append_drop]
    have htaken : blockSize (ids.take (firstLength most ids)) a.block =
        (ids.take (firstLength most ids)).length :=
      blockSize_eq_length fun id hid => (hall id hid).trans (hall a ha).symm
    have hleft : 0 < blockSize (ids.drop (firstLength most ids)) a.block :=
      List.countP_pos_iff.2 ⟨b, hb, decide_eq_true hblock.symm⟩
    have hdrop : (ids.drop (firstLength most ids)).length = rest.length + 1 := by
      rw [hrest, List.length_cons]
    rw [List.length_drop, hlength] at hdrop
    rw [List.length_take, hlength] at htaken
    rw [hlength] at hsplit hleft
    omega

/-- Ids of one block are in different `parts` only if its `blockSize` is too large for a part. -/
theorem lt_blockSize_of_parts (hsorted : ids.Pairwise (·.block ≤ ·.block)) :
    (parts most ids).Pairwise fun part part' => ∀ a ∈ part, ∀ b ∈ part', a.block = b.block →
      max most 1 < blockSize ids a.block := by
  -- The first part is compared to all later ones, whose ids are those after it; the later parts are
  -- those of fewer ids, where a block that is too large is so in all ids.
  induction ids using parts.induct most with
  | case1 => rw [parts_nil]; exact .nil
  | case2 id ids more ih =>
    have hsub := List.drop_sublist (firstLength most (id :: ids)) (id :: ids)
    rw [parts_of_ne_nil most (List.cons_ne_nil id ids), List.pairwise_cons]
    constructor
    · intro part' hpart' a ha b hb hblock
      refine lt_blockSize_of_cut hsorted ha ?_ hblock
      rw [← flatten_parts most (List.drop _ _)]
      exact List.mem_flatten.2 ⟨part', hpart', hb⟩
    · rw [show ids.drop more = _ from drop_firstLength_cons most id ids] at ih
      refine (ih (hsorted.sublist hsub)).imp ?_
      intro part part' hparts a ha b hb hblock
      refine Nat.lt_of_lt_of_le (hparts a ha b hb hblock) ?_
      exact blockSize_le_of_sublist hsub a.block

/-! ## Blocks spoken for once -/

/-- Whether a span speaks for a block. -/
def Span.covers (s : Span) (block : Nat) : Bool := s.first ≤ block ∧ block < s.stop

/-- Spans that cover the blocks from `first` up to but not including `stop`, each of them once. -/
structure Partitions (first stop : Nat) (spans : List Span) : Prop where
  /-- The first span starts where the range starts. -/
  starts : spans.head?.map Span.first = some first
  /-- The last span stops where the range stops. -/
  ends : spans.getLast?.map Span.stop = some stop
  /-- They are back to back. -/
  meets : spans.IsChain fun r s => s.first = r.stop
  /-- No two of them share a block. -/
  disjoint : spans.Pairwise fun r s => ∀ block, ¬(r.covers block ∧ s.covers block)
  /-- One of them covers a block of the range, and none any other. -/
  once : ∀ block, spans.countP (·.covers block) = if first ≤ block ∧ block < stop then 1 else 0

/-- A single span is one of `Partitions` of its range. -/
theorem partitions_singleton (s : Span) : Partitions s.first s.stop [s] where
  starts := rfl
  ends := rfl
  meets := .singleton _
  disjoint := List.pairwise_singleton _ _
  once block := by
    rw [List.countP_singleton, Span.covers]
    simp only [decide_eq_true_eq]

/-- `Partitions` of what is behind the span `r` becomes one of all with `r` in front. -/
theorem Partitions.cons {stop : Nat} {r : Span} {spans : List Span} (hr : r.first ≤ r.stop)
    (hin : r.stop ≤ stop) (hlater : ∀ s ∈ spans, r.stop ≤ s.first)
    (h : Partitions r.stop stop spans) : Partitions r.first stop (r :: spans) where
  starts := rfl
  ends := by
    cases spans with
    | nil => cases h.starts
    | cons s spans =>
      rw [List.getLast?_cons_cons]
      exact h.ends
  meets := by
    cases spans with
    | nil => exact .singleton _
    | cons s spans => exact .cons_cons (Option.some.inj h.starts) h.meets
  disjoint := by
    rw [List.pairwise_cons]
    refine ⟨fun s hs block => ?_, h.disjoint⟩
    have hle := hlater s hs
    simp only [Span.covers, decide_eq_true_eq]
    omega
  once block := by
    rw [List.countP_cons, h.once]
    simp only [Span.covers, decide_eq_true_eq]
    -- The block is behind `r`, in it, or in neither.
    split
    · rw [if_neg (by omega), if_pos (by omega)]
    · split
      · rw [if_pos (by omega)]
      · rw [if_neg (by omega)]

/-- `Tiles` is `Partitions` if no two spans have ids of one block. -/
theorem Tiles.partitions {stop first : Nat} {spans : List Span} (h : Tiles stop first spans)
    (hapart : spans.Pairwise fun r s => ∀ a ∈ r.ids, ∀ b ∈ s.ids, a.block ≠ b.block) :
    Partitions first stop spans := by
  induction h with
  | last hs hstop =>
    rw [← hstop]
    exact partitions_singleton _
  | @cons r s spans hr hfirst hstop hfollows hrest ih =>
    rw [List.pairwise_cons] at hapart
    -- The next span starts where this one stops, as no block is cut apart between the two.
    have hmeets : s.first = r.stop := by
      refine hfollows.2 ?_
      rintro ⟨a, ha, b, hb, hblock⟩
      exact hapart.1 s List.mem_cons_self a (List.mem_of_getLast? ha) b (List.mem_of_head? hb)
        hblock
    have hpartitions : Partitions r.stop stop (s :: spans) := hmeets ▸ ih hapart.2
    refine hpartitions.cons (Nat.le_of_lt hr.first_lt_stop) hstop ?_
    intro s' hs'
    exact hmeets ▸ (hrest.of_mem hs').2.1

end RangeReplies

namespace QueryChannelRange

open RangeReplies

/-- In an answer by `replies` with ascending ids of the queried blocks, the ids of a block are in
    different parts only if there are more than `most` of them by `blockSize`.  If there is no such
    block, the parts are `Partitions` of the queried blocks: back to back, each block once. -/
theorem replies_split_large_blocks_only (q : QueryChannelRange) (ids : List ShortChannelId)
    (most : Nat) (hascending : ids.Pairwise (·.raw.toNat ≤ ·.raw.toNat)) (hpos : 1 ≤ most)
    (hmost : most ≤ 8191)
    (hwithin : ∀ id ∈ ids, q.firstBlockNum.toNat ≤ id.block ∧ id.block < q.endBlock) :
    ∃ rs, q.replies ids most = .ok rs ∧ (∀ r ∈ rs, r.ids.ids = .ok r.listed) ∧
      rs.flatMap ReplyChannelRange.listed = ids ∧
      (rs.Pairwise fun r r' => ∀ a ∈ r.listed, ∀ b ∈ r'.listed, a.block = b.block →
        most < blockSize ids a.block) ∧
      ((∀ id ∈ ids, blockSize ids id.block ≤ most) →
        Partitions q.firstBlockNum.toNat q.endBlock (rs.map ReplyChannelRange.span)) := by
  have hmax : max most 1 = most := Nat.max_eq_left hpos
  have hadmits : q.Admits ids :=
    ⟨hascending.imp fun h => ShortChannelId.block_le_block h, hwithin⟩
  by_cases hids : ids = []
  · -- No ids: the only reply speaks for all blocks.
    refine ⟨[q.emptyReply], by rw [hids, replies_nil], ?_, ?_, List.pairwise_singleton _ _, ?_⟩
    · intro r hr
      rw [List.mem_singleton.1 hr, listed_emptyReply]
      exact IdList.ids_plain []
    · rw [hids, List.flatMap_singleton, listed_emptyReply]
    · intro _
      rw [List.map_singleton, span_emptyReply]
      exact partitions_singleton ⟨q.firstBlockNum.toNat, q.endBlock, []⟩
  · have hwidth : max most 1 * ShortChannelId.width ≤ IdList.maxBody := by
      rw [hmax, ShortChannelId.width, IdList.maxBody]
      omega
    have hflatten : ((q.spansOf ids most).map Span.ids).flatten = ids := flatten_ids_spansOf ids
    -- The parts are pairwise what their spans are.
    have hsplit : (q.spansOf ids most).Pairwise fun r s => ∀ a ∈ r.ids, ∀ b ∈ s.ids,
        a.block = b.block → most < blockSize ids a.block := by
      have hparts := @lt_blockSize_of_parts most ids hadmits.ascending
      rw [hmax, ← map_ids_spans q.endBlock q.firstBlockNum.toNat (parts most ids),
        List.pairwise_map] at hparts
      exact hparts
    refine ⟨_, replies_eq_ok hwidth hids, ?_, flatMap_listed_toReply ids, ?_, ?_⟩
    · intro r hr
      obtain ⟨span, hspan, rfl⟩ := List.mem_map.1 hr
      rw [Span.listed_toReply]
      exact IdList.ids_plain span.ids
    · rw [List.pairwise_map]
      simp only [Span.listed_toReply]
      exact hsplit
    · -- No block is too large, so ids in different parts are never of one block.
      intro hsmall
      rw [hadmits.map_span hids]
      refine (hadmits.tiles hids).partitions (hsplit.imp_of_mem ?_)
      intro r s hr hs hlarge a ha b hb hblock
      have haIds : a ∈ ids := by
        rw [← hflatten]
        exact List.mem_flatten.2 ⟨r.ids, List.mem_map_of_mem hr, ha⟩
      exact Nat.not_lt.2 (hsmall a haIds) (hlarge a ha b hb hblock)

/-- With room for two ids in a part, the two of one block are not cut apart even though the first of
    them would still fit after the one id before them. -/
theorem replies_split_large_blocks_only_pairs :
    let q : QueryChannelRange := ⟨.bitcoin, 100, 100⟩
    let ids : List ShortChannelId := [110, 120, 120, 150, 199].map fun block =>
      ⟨UInt64.ofNat (block * 0x10000000000)⟩
    ∃ rs, q.replies ids 2 = .ok rs ∧ rs.flatMap ReplyChannelRange.listed = ids ∧
      Partitions 100 200 (rs.map ReplyChannelRange.span) := by
  intro q ids
  obtain ⟨rs, hreplies, -, hlisted, -, hwhole⟩ := replies_split_large_blocks_only q ids 2
    (by decide) (by decide) (by decide) (by decide)
  exact ⟨rs, hreplies, hlisted, hwhole (by decide)⟩

end QueryChannelRange

end ChannelGossip
