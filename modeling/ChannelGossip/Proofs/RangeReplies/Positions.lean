import ChannelGossip.Proofs.RangeReplies.Splitting

/-! # Cutting by positions

The ids of an answer can be cut where they are, by positions in the list: a part ends as many
positions after its start as there is room for, or before that where the block of the next id
begins.  Done like this, an id is looked up behind the end of the list if a position is wrong, and
the position after a full part may not fit a machine word.  Neither happens, whatever the ids are
and however large the parts may be, and the parts are the same.  Main statements:

* `RangeReplies.partsFrom?`   the cutting by positions, which stops where a step goes wrong
* `RangeReplies.cut?_eq`   the end of a part that starts at a position
* `RangeReplies.partsFrom?_eq`   no step goes wrong, and the parts are the same
* `QueryChannelRange.replies_safe_and_lossless`   what this means for answers with any ids -/

namespace ChannelGossip

namespace RangeReplies

variable {word most start : Nat} {ids : List ShortChannelId}

/-! ## Steps that can go wrong -/

/-- The sum of `a` and `b`, unless it does not fit the numbers below `word`. -/
def add? (word a b : Nat) : Option Nat := if a + b < word then some (a + b) else none

/-- The ids from position `start` up to but not including position `stop`, if there are any such
    positions. -/
def slice? (ids : List ShortChannelId) (start stop : Nat) : Option (List ShortChannelId) :=
  if start ≤ stop ∧ stop ≤ ids.length then some ((ids.drop start).take (stop - start)) else none

/-- `slice?` finds the ids at positions before the end of the list. -/
theorem slice?_add {taken : Nat} (h : start + taken ≤ ids.length) :
    slice? ids start (start + taken) = some ((ids.drop start).take taken) := by
  rw [slice?, if_pos ⟨Nat.le_add_right start taken, h⟩, Nat.add_sub_cancel_left]

/-- The last position up to the given one where a block begins, or `start` if the ids from there on
    are all of one block. -/
def stepBack? (ids : List ShortChannelId) (start : Nat) : Nat → Option Nat
  | 0 => some 0
  | c + 1 =>
    if start < c + 1 then do
      let next ← ids[c + 1]?
      let last ← ids[c]?
      if next.block = last.block then stepBack? ids start c else some (c + 1)
    else some (c + 1)

/-- The position where the part that starts at `start` ends. -/
def cut? (word most : Nat) (ids : List ShortChannelId) (start : Nat) : Option Nat := do
  let full ← add? word start (max most 1)
  let cut := min full ids.length
  if cut < ids.length then
    let back ← stepBack? ids start cut
    return if start < back then back else cut
  else return cut

/-- `cut?` ends a part after its start, if there is an id. -/
theorem lt_of_cut?_eq_some {cut : Nat} (hstart : start < ids.length)
    (h : cut? word most ids start = some cut) : start < cut := by
  obtain ⟨full, hfull, h⟩ := Option.bind_eq_some_iff.1 h
  have hlt : start < min full ids.length := by
    rw [add?, Option.ite_none_right_eq_some] at hfull
    obtain rfl := Option.some.inj hfull.2
    omega
  dsimp only at h
  split at h
  · obtain ⟨back, -, h⟩ := Option.bind_eq_some_iff.1 h
    -- Where stepping back leads to the start, nothing is given back.
    split at h
    · rename_i hback
      exact Option.some.inj h ▸ hback
    · exact Option.some.inj h ▸ hlt
  · exact Option.some.inj h ▸ hlt

/-- The ids from `start` on, cut into parts by `cut?` and `slice?`. -/
def partsFrom? (word most : Nat) (ids : List ShortChannelId) (start : Nat) :
    Option (List (List ShortChannelId)) :=
  if _hstart : start < ids.length then
    match _hcut : cut? word most ids start with
    | none => none
    | some cut => do
      let part ← slice? ids start cut
      return part :: (← partsFrom? word most ids cut)
  else some []
termination_by ids.length - start
decreasing_by
  have := lt_of_cut?_eq_some _hstart _hcut
  omega

/-! ## The end of a part -/

/-- `stepBack?` gives back the ids that share the block of `next`, which are those that `rdropWhile`
    drops. -/
theorem stepBack?_eq {taken : Nat} {next : ShortChannelId}
    (hnext : ids[start + taken]? = some next) :
    stepBack? ids start (start + taken) =
      some (start + (((ids.drop start).take taken).rdropWhile (·.block == next.block)).length) := by
  -- An id is compared to the one after it, which is of the block of the next one.
  -- On the number of ids that were taken.
  induction taken generalizing next with
  | zero =>
    cases start with
    | zero => rfl
    | succ c => simp [stepBack?]
  | succ taken ih =>
    obtain ⟨hlt, -⟩ := List.getElem?_eq_some_iff.1 hnext
    have hlast : ids[start + taken]? = some ids[start + taken] :=
      List.getElem?_eq_getElem (by omega)
    have htake : (ids.drop start).take (taken + 1) =
        (ids.drop start).take taken ++ [ids[start + taken]] := by
      rw [List.take_add_one, List.getElem?_drop, hlast, Option.toList_some]
    have hlength : ((ids.drop start).take taken).length = taken := by
      rw [List.length_take, List.length_drop]
      omega
    rw [← Nat.add_assoc] at hnext ⊢
    rw [stepBack?, if_pos (by omega), hnext, hlast, htake, List.rdropWhile_concat]
    show (if next.block = ids[start + taken].block then _ else _) = _
    by_cases hblock : next.block = ids[start + taken].block
    · rw [if_pos hblock, if_pos (beq_iff_eq.2 hblock.symm), ih hlast, hblock]
    · rw [if_neg hblock, if_neg (by rwa [beq_iff_eq, eq_comm]), List.length_append, hlength,
        List.length_singleton, Nat.add_assoc]

/-- `cut?` ends a part where `firstLength` does for the ids from its start on; `hroom` is for the
    addition. -/
theorem cut?_eq (hstart : start < ids.length) (hroom : start + max most 1 < word) :
    cut? word most ids start = some (start + firstLength most (ids.drop start)) := by
  have hadd : add? word start (max most 1) = some (start + max most 1) := if_pos hroom
  rw [cut?, hadd]
  show (if min (start + max most 1) ids.length < ids.length then _ else _) = _
  cases hrest : (ids.drop start).drop (max most 1) with
  | nil =>
    -- All ids from the start on fit: the part ends where the list ends.
    have hle : ids.length ≤ start + max most 1 := by
      rw [List.drop_drop, List.drop_eq_nil_iff] at hrest
      exact hrest
    rw [Nat.min_eq_right hle, if_neg (Nat.lt_irrefl _), firstLength_of_drop_eq_nil hrest,
      List.length_drop, Nat.add_sub_cancel' (Nat.le_of_lt hstart)]
    rfl
  | cons next rest =>
    have hnext : ids[start + max most 1]? = some next := by
      rw [List.drop_drop] at hrest
      rw [← List.head?_drop, hrest, List.head?_cons]
    -- There is an id after those that fit, which says how far to step back.
    obtain ⟨hlt, -⟩ := List.getElem?_eq_some_iff.1 hnext
    rw [Nat.min_eq_left (Nat.le_of_lt hlt), if_pos hlt, stepBack?_eq hnext,
      firstLength_of_drop_eq_cons hrest]
    show some (if start < start + (wholeBlocks most (ids.drop start) next).length then
      start + (wholeBlocks most (ids.drop start) next).length else start + max most 1) = _
    -- If stepping back leads to the start, the part is full all the same.
    by_cases hwhole : wholeBlocks most (ids.drop start) next = []
    · rw [if_pos hwhole, hwhole, List.length_nil, if_neg (by omega)]
    · have hpos := List.length_pos_iff.2 hwhole
      rw [if_neg hwhole, if_pos (by omega)]

/-! ## All parts -/

/-- If `firstLength` leaves ids, there was no room for them. -/
theorem lt_of_firstLength_lt (h : firstLength most ids < ids.length) :
    max most 1 < ids.length := by
  refine Nat.lt_of_not_le fun hle => ?_
  rw [firstLength_of_drop_eq_nil (List.drop_eq_nil_iff.2 hle)] at h
  exact Nat.lt_irrefl _ h

/-- `firstLength` takes no more ids than there are. -/
theorem firstLength_le_length : firstLength most ids ≤ ids.length := by
  by_cases hle : ids.length ≤ max most 1
  · exact Nat.le_of_eq (firstLength_of_drop_eq_nil (List.drop_eq_nil_iff.2 hle))
  · exact Nat.le_trans (firstLength_le most ids) (Nat.le_of_not_le hle)

/-- `partsFrom?` never fails, and its parts are `parts` of the ids from `start` on.  By `hlength`
    positions in the list are far below `word`; by `hroom` the first addition fits. -/
theorem partsFrom?_eq (hlength : 2 * ids.length ≤ word)
    (hroom : start < ids.length → start + max most 1 < word) :
    partsFrom? word most ids start = some (parts most (ids.drop start)) := by
  induction start using partsFrom?.induct word most ids with
  | case1 start hstart hcut =>
    -- The end of a part is always found.
    rw [cut?_eq hstart (hroom hstart)] at hcut
    cases hcut
  | case2 start hstart cut hcut ih =>
    have hend := cut?_eq hstart (hroom hstart)
    obtain rfl : cut = start + firstLength most (ids.drop start) :=
      Option.some.inj (hcut.symm.trans hend)
    have hne : ids.drop start ≠ [] := mt List.drop_eq_nil_iff.1 (Nat.not_le_of_lt hstart)
    have hle : firstLength most (ids.drop start) ≤ ids.length - start :=
      List.length_drop ▸ firstLength_le_length
    -- If there is another part then a part has less room than there are ids.
    have hnext : start + firstLength most (ids.drop start) < ids.length →
        start + firstLength most (ids.drop start) + max most 1 < word := by
      intro hmore
      have hlt := @lt_of_firstLength_lt most (ids.drop start) (by rw [List.length_drop]; omega)
      rw [List.length_drop] at hlt
      omega
    rw [partsFrom?, dif_pos hstart, parts_of_ne_nil most hne, List.drop_drop]
    split
    · rename_i hnone
      rw [hend] at hnone
      cases hnone
    · rename_i cut' hcut'
      obtain rfl := Option.some.inj (hend.symm.trans hcut')
      rw [slice?_add (by omega), ih hnext]
      rfl
  | case3 start hstart =>
    rw [partsFrom?, dif_neg hstart, List.drop_of_length_le (Nat.le_of_not_lt hstart), parts_nil]

/-- From the first position on, `partsFrom?` gives `parts`. -/
theorem partsFrom?_zero (hmost : most < word) (hlength : 2 * ids.length ≤ word) :
    partsFrom? word most ids 0 = some (parts most ids) := by
  refine partsFrom?_eq hlength fun hpos => ?_
  omega

end RangeReplies

/-! ## Answers with any ids -/

namespace QueryChannelRange

open RangeReplies

variable {q : QueryChannelRange} {most : Nat} {ids : List ShortChannelId}

/-- `replies` fails exactly if one of `parts` does not fit one list. -/
theorem exists_replies_eq_error_iff :
    (∃ e, q.replies ids most = .error e) ↔ ∃ part ∈ parts most ids, 8191 < part.length := by
  by_cases hne : ids = []
  · rw [hne, replies_nil, parts_nil]
    simp
  · have hspans : (q.spansOf ids most).map Span.ids = parts most ids := map_ids_spans _ _ _
    rw [replies_of_ne_nil hne, Except.exists_mapM_eq_error_iff, ← hspans]
    simp only [List.mem_map, exists_exists_and_eq_and, Span.exists_reply_eq_error_iff,
      ShortChannelId.width, IdList.maxBody]
    refine exists_congr fun span => and_congr_right fun _ => ?_
    omega

/-- What `replies` gives for any ids is `toReply` of each span. -/
theorem eq_map_toReply {rs : List ReplyChannelRange} (h : q.replies ids most = .ok rs)
    (hne : ids ≠ []) : rs = (q.spansOf ids most).map (Span.toReply q.chainHash) := by
  rw [replies_of_ne_nil hne] at h
  have hreply : ∀ span ∈ q.spansOf ids most,
      span.reply q.chainHash = .ok (span.toReply q.chainHash) := by
    intro span hspan
    refine span.reply_eq_ok q.chainHash (Nat.le_of_not_lt fun hlong => ?_)
    -- If one of them did not fit, there would be no answer.
    obtain ⟨e, herror⟩ := Except.exists_mapM_eq_error_iff.2
      ⟨span, hspan, (Span.exists_reply_eq_error_iff q.chainHash).2 hlong⟩
    rw [h] at herror
    cases herror
  exact Except.ok.inj (h.symm.trans (Except.mapM_eq_ok hreply))

/-- However the ids are ordered, and even if they are repeated or not in the queried blocks,
    `partsFrom?` cuts them by positions without going wrong: no addition of numbers below `word`
    overflows, and no position is behind the end.  They are `parts`, which are not empty, not too
    long, and the ids in their order.  `replies` fails exactly if one of them does not fit a list,
    and each reply speaks for at least one block. -/
theorem replies_safe_and_lossless (q : QueryChannelRange) (ids : List ShortChannelId)
    (most word : Nat) (hmost : most < word) (hlength : 2 * ids.length ≤ word) :
    partsFrom? word most ids 0 = some (parts most ids) ∧
    (∀ part ∈ parts most ids, 1 ≤ part.length ∧ part.length ≤ max 1 most) ∧
    (parts most ids).flatten = ids ∧
    ((∃ e, q.replies ids most = .error e) ↔ ∃ part ∈ parts most ids, 8191 < part.length) ∧
    (most ≤ 8191 → ∃ rs, q.replies ids most = .ok rs) ∧
    ∀ rs, q.replies ids most = .ok rs → ids ≠ [] →
      rs.map ReplyChannelRange.listed = parts most ids ∧ ∀ r ∈ rs, 1 ≤ r.numberOfBlocks.toNat := by
  have hparts : ∀ part ∈ parts most ids, 1 ≤ part.length ∧ part.length ≤ max 1 most := by
    intro part hpart
    obtain ⟨hne, hle⟩ := length_of_mem_parts hpart
    exact ⟨List.length_pos_iff.2 hne, Nat.max_comm most 1 ▸ hle⟩
  refine ⟨partsFrom?_zero hmost hlength, hparts, flatten_parts most ids,
    exists_replies_eq_error_iff, fun hsmall => ?_, fun rs hrs hne => ?_⟩
  · -- No part of at most `most` ids is too long for a list.
    cases hreplies : q.replies ids most with
    | ok rs => exact ⟨rs, rfl⟩
    | error e =>
      obtain ⟨part, hpart, hlong⟩ := exists_replies_eq_error_iff.1 ⟨e, hreplies⟩
      have hle := (hparts part hpart).2
      omega
  · -- A reply lists its span's ids and speaks for its blocks, or for one if there are none.
    obtain rfl := eq_map_toReply hrs hne
    refine ⟨?_, fun r hr => ?_⟩
    · rw [List.map_map]
      exact (List.map_congr_left fun span _ => span.listed_toReply q.chainHash).trans
        (map_ids_spans _ _ _)
    · obtain ⟨span, -, rfl⟩ := List.mem_map.1 hr
      exact one_le_toNat_clamp (Nat.le_max_right _ 1)

/-- Unordered and repeated ids outside the queried blocks, with room for two of them in a part and
    with as much room as a number can say. -/
theorem replies_safe_and_lossless_unordered :
    let q : QueryChannelRange := ⟨.bitcoin, 100, 0⟩
    let inBlock (block : Nat) : ShortChannelId := ⟨UInt64.ofNat (block * 0x10000000000)⟩
    let ids := [900, 100, 100, 0, 900, 100].map inBlock
    let pairs := [[900], [100, 100], [0, 900], [100]].map fun blocks => blocks.map inBlock
    partsFrom? (2 ^ 64) 2 ids 0 = some pairs ∧
    partsFrom? (2 ^ 64) (2 ^ 64 - 1) ids 0 = some [ids] ∧
    ∃ rs, q.replies ids 2 = .ok rs ∧ rs.map ReplyChannelRange.listed = pairs ∧
      ∀ r ∈ rs, 1 ≤ r.numberOfBlocks.toNat := by
  intro q inBlock ids pairs
  have hpairs : parts 2 ids = pairs := by cbv
  have hwhole : parts (2 ^ 64 - 1) ids = [ids] := by cbv
  obtain ⟨hparts, -, -, -, hanswer, hreplies⟩ :=
    replies_safe_and_lossless q ids 2 (2 ^ 64) (by decide) (by decide)
  obtain ⟨hparts', -⟩ :=
    replies_safe_and_lossless q ids (2 ^ 64 - 1) (2 ^ 64) (by decide) (by decide)
  obtain ⟨rs, hrs⟩ := hanswer (by decide)
  obtain ⟨hlisted, hblocks⟩ := hreplies rs hrs (by decide)
  exact ⟨hpairs ▸ hparts, hwhole ▸ hparts', rs, hrs, hpairs ▸ hlisted, hblocks⟩

end QueryChannelRange

end ChannelGossip
