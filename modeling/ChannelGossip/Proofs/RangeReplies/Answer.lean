import ChannelGossip.Config
import ChannelGossip.Proofs.Except
import ChannelGossip.Proofs.RangeReplies.Tiling
import ChannelGossip.Proofs.Store.Ids
import ChannelGossip.Proofs.Wire.IdList

/-! # Answers are exact

The parts of an answer to a range query list the stored channels of the queried blocks, all of them
and no other, in order, and the blocks that the parts speak for tile the range.  No block number
has to be cut down on the way.  Main statements:

* `QueryChannelRange.IsAnsweredBy`   what it means that parts answer a query
* `QueryChannelRange.Admits`   the ids that a query can be answered with, stored or not
* `QueryChannelRange.fits_of_mem_answerSpans`   the numbers of every part fit
* `QueryChannelRange.exists_replies`   every query is answered, each part in plain encoding -/

namespace ChannelGossip

namespace ReplyChannelRange

/-- The ids that a part lists. -/
def listed (r : ReplyChannelRange) : List ShortChannelId :=
  match r.ids.ids with
  | .ok ids => ids
  | .error _ => []

/-- The first block after those that a part speaks for. -/
def endBlock (r : ReplyChannelRange) : Nat := r.firstBlockNum.toNat + r.numberOfBlocks.toNat

/-- The blocks that a part speaks for with the ids that it lists. -/
def span (r : ReplyChannelRange) : RangeReplies.Span :=
  ⟨r.firstBlockNum.toNat, r.endBlock, r.listed⟩

/-- A part in the plain encoding has the ids packed into it as `listed`. -/
theorem listed_eq {r : ReplyChannelRange} {ids : List ShortChannelId} (h : r.ids = .plain ids) :
    r.listed = ids := by
  rw [listed, h, IdList.ids_plain]

end ReplyChannelRange

/-- What it means that parts of at most `most` ids, taken in order, answer a query from a store. -/
structure QueryChannelRange.IsAnsweredBy (q : QueryChannelRange) (s : Store) (most : Nat)
    (rs : List ReplyChannelRange) : Prop where
  /-- Every part's id list can be expanded. -/
  expands : ∀ r ∈ rs, r.ids.ids = .ok r.listed
  /-- The ids of all parts together ascend. -/
  ascending : (rs.flatMap ReplyChannelRange.listed).Pairwise (·.raw.toNat < ·.raw.toNat)
  /-- They are the ids of the stored channels in the queried blocks. -/
  mem_iff : ∀ id, id ∈ rs.flatMap ReplyChannelRange.listed ↔ s.channels.contains id ∧
    q.firstBlockNum.toNat ≤ id.block ∧ id.block < q.firstBlockNum.toNat + q.numberOfBlocks.toNat
  /-- No part lists too many. -/
  length_le : ∀ r ∈ rs, r.listed.length ≤ most
  /-- Every part is for the query's chain and claims to be complete. -/
  complete : ∀ r ∈ rs, r.chainHash = q.chainHash ∧ r.syncComplete = 1
  /-- The first part starts where the query starts. -/
  starts : rs.head?.map ReplyChannelRange.firstBlockNum = some q.firstBlockNum
  /-- The last part ends where the query ends. -/
  ends : rs.getLast?.map ReplyChannelRange.endBlock = some q.endBlock
  /-- Each later part starts where the one before it ends, or in the last block of that one exactly
      if the two share a block. -/
  follows : (rs.map ReplyChannelRange.span).IsChain fun r s => s.Follows r
  /-- Every part speaks for the blocks of its own ids. -/
  within : ∀ r ∈ rs, ∀ id ∈ r.listed, r.firstBlockNum.toNat ≤ id.block ∧ id.block < r.endBlock

namespace RangeReplies

/-! ## Numbers that fit -/

/-- `clamp` does not change a number of 32 bits. -/
theorem toNat_clamp {n : Nat} (h : n < UInt32.size) : (clamp n).toNat = n := by
  have hmin : min n (UInt32.size - 1) = n := by omega
  rw [clamp, hmin, UInt32.toNat_ofNat_of_lt' h]

/-- `clamp` cuts no number down to zero. -/
theorem one_le_toNat_clamp {n : Nat} (h : 1 ≤ n) : 1 ≤ (clamp n).toNat := by
  have hlt : min n (UInt32.size - 1) < UInt32.size := by
    rw [UInt32.size]
    omega
  rw [clamp, UInt32.toNat_ofNat_of_lt' hlt, UInt32.size]
  omega

/-- A span of which neither the first block nor the number of blocks is changed by `clamp`. -/
structure Span.Fits (s : Span) : Prop where
  first_lt : s.first < UInt32.size
  count_lt : max (s.stop - s.first) 1 < UInt32.size

/-- The part that a span makes, however many ids it has. -/
def Span.toReply (chain : ChainHash) (s : Span) : ReplyChannelRange :=
  ⟨chain, clamp s.first, clamp (max (s.stop - s.first) 1), 1, .plain s.ids⟩

@[simp] theorem Span.listed_toReply (chain : ChainHash) (s : Span) :
    (s.toReply chain).listed = s.ids :=
  ReplyChannelRange.listed_eq rfl

/-- As many ids as `replyIdLimit` allows fit one list. -/
theorem mul_width_le {ids : List ShortChannelId} (h : ids.length ≤ replyIdLimit) :
    ids.length * ShortChannelId.width ≤ IdList.maxBody := by
  rw [replyIdLimit] at h
  rw [ShortChannelId.width, IdList.maxBody]
  omega

/-- `Span.reply` makes a part of a span with no more ids than fit one list. -/
theorem Span.reply_eq_ok {s : Span} (chain : ChainHash)
    (h : s.ids.length * ShortChannelId.width ≤ IdList.maxBody) :
    s.reply chain = .ok (s.toReply chain) := by
  rw [Span.reply, ReplyChannelRange.create, IdList.ofIds_eq_ok h]
  rfl

/-- `Span.reply` fails exactly for a span with more ids than fit one list. -/
theorem Span.exists_reply_eq_error_iff {s : Span} (chain : ChainHash) :
    (∃ e, s.reply chain = .error e) ↔ IdList.maxBody < s.ids.length * ShortChannelId.width := by
  rw [← IdList.exists_ofIds_eq_error_iff]
  simp only [Span.reply, ReplyChannelRange.create, Except.map_eq_error_iff]

/-- A part speaks for the blocks of the span that it is made from by `toReply`, if `hfits`. -/
theorem Span.span_toReply {s : Span} (chain : ChainHash) (hholds : s.Holds) (hfits : s.Fits) :
    (s.toReply chain).span = s := by
  have hfirst : (clamp s.first).toNat = s.first := toNat_clamp hfits.first_lt
  -- Neither number is cut down, and the span is not empty.
  have hcount : (clamp (max (s.stop - s.first) 1)).toNat = s.stop - s.first := by
    have h := hholds.first_lt_stop
    rw [toNat_clamp hfits.count_lt]
    omega
  have hend : (s.toReply chain).endBlock = s.stop := by
    have h := hholds.first_lt_stop
    show (clamp s.first).toNat + (clamp (max (s.stop - s.first) 1)).toNat = s.stop
    omega
  rw [ReplyChannelRange.span, hend, listed_toReply]
  show (⟨(clamp s.first).toNat, s.stop, s.ids⟩ : Span) = s
  rw [hfirst]

end RangeReplies

namespace QueryChannelRange

open RangeReplies

variable (q : QueryChannelRange) (s : Store)

/-- The ids that answer a query. -/
def knownIds : List ShortChannelId := s.idsInBlocks q.firstBlockNum.toNat q.endBlock

/-- The spans of the parts of an answer. -/
def answerSpans (most : Nat) : List Span :=
  spans q.endBlock q.firstBlockNum.toNat (parts most (q.knownIds s))

/-- The part that says that there is nothing in the queried blocks. -/
def emptyReply : ReplyChannelRange :=
  ⟨q.chainHash, q.firstBlockNum, q.numberOfBlocks, 1, .plain []⟩

@[simp] theorem listed_emptyReply : q.emptyReply.listed = [] := ReplyChannelRange.listed_eq rfl

variable {q s} {most : Nat}

/-! ## Ids in the queried blocks -/

/-- Ids that a query can be answered with: their blocks ascend, and the query asks for them. -/
structure Admits (q : QueryChannelRange) (ids : List ShortChannelId) : Prop where
  ascending : ids.Pairwise (·.block ≤ ·.block)
  within : ∀ id ∈ ids, q.firstBlockNum.toNat ≤ id.block ∧ id.block < q.endBlock

/-- The spans of the parts of an answer with the given ids. -/
def spansOf (q : QueryChannelRange) (ids : List ShortChannelId) (most : Nat) : List Span :=
  spans q.endBlock q.firstBlockNum.toNat (parts most ids)

/-- The ids of `spansOf` are the given ones. -/
theorem flatten_ids_spansOf (ids : List ShortChannelId) :
    ((q.spansOf ids most).map Span.ids).flatten = ids := by
  rw [spansOf, map_ids_spans, flatten_parts]

/-- A span of `spansOf` has ids, and not too many. -/
theorem ids_of_mem_spansOf {ids : List ShortChannelId} {span : Span}
    (h : span ∈ q.spansOf ids most) : span.ids ≠ [] ∧ span.ids.length ≤ max most 1 := by
  have hids : span.ids ∈ (q.spansOf ids most).map Span.ids := List.mem_map_of_mem h
  rw [spansOf, map_ids_spans] at hids
  exact length_of_mem_parts hids

/-- `replies` without any ids gives `emptyReply` alone. -/
theorem replies_nil : q.replies [] most = .ok [q.emptyReply] := by
  rw [replies, parts_nil]
  rfl

/-- The parts list the given ids, of which none is lost on the way through `spansOf`. -/
theorem flatMap_listed_toReply (ids : List ShortChannelId) :
    ((q.spansOf ids most).map (Span.toReply q.chainHash)).flatMap ReplyChannelRange.listed
      = ids := by
  rw [List.flatMap_map]
  simp only [Span.listed_toReply]
  exact flatten_ids_spansOf ids

/-- `replies` with any ids makes its parts span by span. -/
theorem replies_of_ne_nil {ids : List ShortChannelId} (hne : ids ≠ []) :
    q.replies ids most = (q.spansOf ids most).mapM (Span.reply q.chainHash) := by
  rw [replies]
  split
  · rename_i hnil
    exact absurd (parts_eq_nil_iff.1 hnil) hne
  · rfl

/-- `replies` gives `toReply` of each span, if by `hmost` a part fits one list. -/
theorem replies_eq_ok {ids : List ShortChannelId}
    (hmost : max most 1 * ShortChannelId.width ≤ IdList.maxBody) (hne : ids ≠ []) :
    q.replies ids most = .ok ((q.spansOf ids most).map (Span.toReply q.chainHash)) := by
  rw [replies_of_ne_nil hne]
  refine Except.mapM_eq_ok fun span hspan => ?_
  have hlength := (ids_of_mem_spansOf hspan).2
  exact span.reply_eq_ok q.chainHash
    (Nat.le_trans (Nat.mul_le_mul_right ShortChannelId.width hlength) hmost)

/-- `emptyReply` speaks for all blocks of its query. -/
theorem span_emptyReply :
    q.emptyReply.span = ⟨q.firstBlockNum.toNat, q.endBlock, []⟩ := by
  rw [ReplyChannelRange.span, listed_emptyReply]
  rfl

namespace Admits

variable {ids : List ShortChannelId}

/-- The spans of ids that `Admits` allows are `Tiles` of the queried blocks. -/
theorem tiles (h : q.Admits ids) (hne : ids ≠ []) :
    Tiles q.endBlock q.firstBlockNum.toNat (q.spansOf ids most) := by
  have hparts : parts most ids ≠ [] := mt parts_eq_nil_iff.1 hne
  refine tiles_spans hparts (fun part hpart => (length_of_mem_parts hpart).1) ?_ ?_
  · rw [flatten_parts]
    exact h.ascending
  · rw [flatten_parts]
    exact h.within

/-- No number of a span is changed by `clamp`, whatever the query asks for. -/
theorem fits (h : q.Admits ids) {span : Span} (hspan : span ∈ q.spansOf ids most) : span.Fits := by
  have hids : span.ids ≠ [] := (ids_of_mem_spansOf hspan).1
  have hne : ids ≠ [] := by
    rintro rfl
    rw [spansOf, parts_nil] at hspan
    cases hspan
  obtain ⟨hholds, hfirst, hstop⟩ := (h.tiles hne).of_mem hspan
  -- A span starts no later than the block of an id in it.
  obtain ⟨id, hid⟩ := List.exists_mem_of_ne_nil _ hids
  have hblock := id.block_lt
  have hwithin := (hholds.within id hid).1
  have hcount := q.numberOfBlocks.toNat_lt
  have hendBlock : q.endBlock = q.firstBlockNum.toNat + q.numberOfBlocks.toNat := rfl
  have hsize : UInt32.size = 4294967296 := rfl
  -- Both numbers are bounded by the block of that id and the number of blocks asked for.
  constructor
  · omega
  · omega

/-- The parts speak for the blocks of the spans that they are made from. -/
theorem map_span (h : q.Admits ids) (hne : ids ≠ []) :
    ((q.spansOf ids most).map (Span.toReply q.chainHash)).map ReplyChannelRange.span
      = q.spansOf ids most := by
  rw [List.map_map]
  refine (List.map_congr_left fun span hspan => ?_).trans (List.map_id _)
  exact span.span_toReply q.chainHash ((h.tiles hne).of_mem hspan).1 (h.fits hspan)

end Admits

/-! ## Stored ids -/

/-- `knownIds` is ascending and in the queried blocks. -/
theorem admits_knownIds : q.Admits (q.knownIds s) where
  ascending := (s.idsInBlocks_ascending _ _).imp fun hlt =>
    ShortChannelId.block_le_block (Nat.le_of_lt hlt)
  within _ hid := (Store.mem_idsInBlocks.1 hid).2

/-- No number of a span of `answerSpans` is changed by `clamp`, whatever the query asks for. -/
theorem fits_of_mem_answerSpans {span : Span} (h : span ∈ q.answerSpans s most) : span.Fits :=
  admits_knownIds.fits h

/-- `knownIds` has the stored ids of the queried blocks. -/
theorem mem_knownIds {id : ShortChannelId} :
    id ∈ q.knownIds s ↔ s.channels.contains id ∧ q.firstBlockNum.toNat ≤ id.block ∧
      id.block < q.firstBlockNum.toNat + q.numberOfBlocks.toNat :=
  Store.mem_idsInBlocks

/-- Complete parts answer a query if they list its `knownIds` and are `Tiles` of its blocks. -/
theorem isAnsweredBy_of_tiles {rs : List ReplyChannelRange}
    (hexpands : ∀ r ∈ rs, r.ids.ids = .ok r.listed ∧ r.listed.length ≤ most)
    (hcomplete : ∀ r ∈ rs, r.chainHash = q.chainHash ∧ r.syncComplete = 1)
    (hlisted : rs.flatMap ReplyChannelRange.listed = q.knownIds s)
    (htiles : Tiles q.endBlock q.firstBlockNum.toNat (rs.map ReplyChannelRange.span)) :
    q.IsAnsweredBy s most rs where
  expands r hr := (hexpands r hr).1
  ascending := by
    rw [hlisted]
    exact s.idsInBlocks_ascending _ _
  mem_iff id := by
    rw [hlisted]
    exact mem_knownIds
  length_le r hr := (hexpands r hr).2
  complete := hcomplete
  -- First and last block are those of the spans; the rest is said by the tiling.
  starts := by
    have hfirst := htiles.head?_first
    rw [List.head?_map, Option.map_map, Option.map_eq_some_iff] at hfirst
    obtain ⟨r, hr, hfirst⟩ := hfirst
    rw [hr, Option.map_some, UInt32.toNat_inj.1 hfirst]
  ends := by
    have hstop := htiles.getLast?_stop
    rw [List.getLast?_map, Option.map_map] at hstop
    exact hstop
  follows := htiles.isChain
  within r hr := (htiles.of_mem (List.mem_map_of_mem hr)).1.within

/-- The parts made of `spansOf` answer a query that has `knownIds`. -/
theorem isAnsweredBy_spansOf (hpos : 1 ≤ most) (h : q.knownIds s ≠ []) :
    q.IsAnsweredBy s most
      ((q.spansOf (q.knownIds s) most).map (Span.toReply q.chainHash)) := by
  have hadmits : q.Admits (q.knownIds s) := admits_knownIds
  refine isAnsweredBy_of_tiles ?_ ?_ ?_ ((hadmits.map_span h).symm ▸ hadmits.tiles h)
  · -- A part takes an id even without room for it, but here there is room.
    intro r hr
    obtain ⟨span, hspan, rfl⟩ := List.mem_map.1 hr
    have hlength := (ids_of_mem_spansOf hspan).2
    rw [Span.listed_toReply]
    exact ⟨IdList.ids_plain span.ids, by omega⟩
  · -- Chain and flag are the same in each part that `toReply` makes.
    intro r hr
    obtain ⟨span, hspan, rfl⟩ := List.mem_map.1 hr
    exact ⟨rfl, rfl⟩
  · exact flatMap_listed_toReply _

/-- `emptyReply` answers a query that has no `knownIds`. -/
theorem isAnsweredBy_emptyReply (h : q.knownIds s = []) : q.IsAnsweredBy s most [q.emptyReply] := by
  have hlisted : [q.emptyReply].flatMap ReplyChannelRange.listed = [] := by simp
  constructor
  · intro r hr
    rw [List.mem_singleton.1 hr, listed_emptyReply]
    exact IdList.ids_plain []
  · rw [hlisted]
    exact .nil
  · intro id
    rw [hlisted, ← h]
    exact mem_knownIds
  · intro r hr
    rw [List.mem_singleton.1 hr, listed_emptyReply]
    exact Nat.zero_le _
  · intro r hr
    rw [List.mem_singleton.1 hr]
    exact ⟨rfl, rfl⟩
  · rfl
  · rfl
  · exact .singleton _
  · intro r hr id hid
    rw [List.mem_singleton.1 hr, listed_emptyReply] at hid
    cases hid

/-- `replies` answers every query with its `knownIds`, each part in the plain encoding. -/
theorem exists_replies (q : QueryChannelRange) (s : Store) (hpos : 1 ≤ most)
    (hmost : most ≤ replyIdLimit) :
    ∃ rs, q.replies (q.knownIds s) most = .ok rs ∧ q.IsAnsweredBy s most rs ∧
      ∀ r ∈ rs, r.ids = .plain r.listed := by
  have hwidth : max most 1 * ShortChannelId.width ≤ IdList.maxBody := by
    rw [replyIdLimit] at hmost
    rw [ShortChannelId.width, IdList.maxBody]
    omega
  by_cases h : q.knownIds s = []
  · -- Nothing is known in these blocks, which the only part says.
    refine ⟨_, by rw [h, replies_nil], isAnsweredBy_emptyReply h, fun r hr => ?_⟩
    rw [List.mem_singleton.1 hr, listed_emptyReply]
    rfl
  · refine ⟨_, replies_eq_ok hwidth h, isAnsweredBy_spansOf hpos h, fun r hr => ?_⟩
    obtain ⟨span, hspan, rfl⟩ := List.mem_map.1 hr
    rw [Span.listed_toReply]
    rfl

end QueryChannelRange

end ChannelGossip
