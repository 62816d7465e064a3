import ChannelGossip.Contents.Query

/-! # Answers to range queries

The ids that answer a range query are cut into parts of limited size, and each part says which
blocks it speaks for.  The parts follow each other without gaps.  A part ends before a block that
would be split, unless that block alone is too large; then the parts that share a block both speak
for it. -/

namespace ChannelGossip

namespace RangeReplies

/-- How many of the given ids go into the first part, if it may hold `most` of them (or one, if
    `most` is zero). -/
def firstLength (most : Nat) (ids : List ShortChannelId) : Nat :=
  let head := ids.take (max most 1)
  match ids.drop (max most 1) with
  | [] => head.length
  | next :: _ =>
    -- The ids at the end that share a block with the next id are left to the next part.
    let whole := head.reverse.dropWhile (·.block == next.block)
    if whole.isEmpty then head.length else whole.length

/-- The ids cut into parts. -/
def parts (most : Nat) : List ShortChannelId → List (List ShortChannelId)
  | [] => []
  | id :: ids =>
    let more := firstLength most (id :: ids) - 1
    (id :: ids.take more) :: parts most (ids.drop more)
termination_by ids => ids.length
decreasing_by simp only [List.length_drop, List.length_cons]; omega

/-- Some ids and the blocks that they answer for, from `first` up to but not including `stop`. -/
structure Span where
  first : Nat
  stop : Nat
  ids : List ShortChannelId
deriving Repr, DecidableEq

/-- The blocks that each part answers for, from block `first` up to but not including `stop`. -/
def spans (stop : Nat) : Nat → List (List ShortChannelId) → List Span
  | _, [] => []
  | first, [ids] => [⟨first, stop, ids⟩]
  | first, ids :: next :: rest =>
    let border := (next.head?.map ShortChannelId.block).getD stop
    -- Both parts speak for a block that is split between them.
    let shared := ids.getLast?.any (·.block == border)
    ⟨first, if shared then border + 1 else border, ids⟩ :: spans stop border (next :: rest)

/-- A number cut down to 32 bits if need be. -/
def clamp (n : Nat) : UInt32 := .ofNat (min n (UInt32.size - 1))

/-- The part of an answer that a span makes; it speaks for one block at least. -/
def Span.reply (chain : ChainHash) (s : Span) : Except Error ReplyChannelRange :=
  ReplyChannelRange.create chain (clamp s.first) (clamp (max (s.stop - s.first) 1)) true s.ids

end RangeReplies

/-- The answer to a range query with the given ids, in parts of at most `most` ids. -/
def QueryChannelRange.replies (q : QueryChannelRange) (ids : List ShortChannelId) (most : Nat) :
    Except Error (List ReplyChannelRange) :=
  match RangeReplies.parts most ids with
  | [] => do
    return [← ReplyChannelRange.create q.chainHash q.firstBlockNum q.numberOfBlocks true []]
  | parts =>
    (RangeReplies.spans q.endBlock q.firstBlockNum.toNat parts).mapM
      (RangeReplies.Span.reply q.chainHash)

end ChannelGossip
