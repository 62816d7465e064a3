import ChannelGossip.Message

/-! # Outboxes

The messages that wait to be written to a peer.  An outbox has room for a limited number of them
and a reader who takes the oldest first.  Sending waits for room, that is, the reader takes as many
as are in the way; offering does not wait, and what finds no room is dropped.  Once the reader is
gone the outbox is closed. -/

namespace ChannelGossip

/-- The messages on their way to a peer.  `taken` are those that the reader took to make room and
    has not yet written, the newest first; `queue` are those that still wait, the oldest first. -/
structure Outbox where
  capacity : Nat
  taken : List Message
  queue : List Message
  isOpen : Bool
  capacity_pos : 0 < capacity
  length_le : queue.length ≤ capacity
deriving Repr

namespace Outbox

/-- An open outbox with room for the given number of messages, at least one. -/
def create (capacity : Nat) : Outbox where
  capacity := max capacity 1
  taken := []
  queue := []
  isOpen := true
  capacity_pos := by omega
  length_le := by simp

/-- How many messages find room. -/
def room (o : Outbox) : Nat := o.capacity - o.queue.length

/-- The messages that an offer of the given ones queues: as many as find room. -/
def accepted (o : Outbox) (ms : List Message) : List Message :=
  if o.isOpen then ms.take o.room else []

/-- An offer queues no more than there is room for. -/
theorem length_accepted_le (o : Outbox) (ms : List Message) : (o.accepted ms).length ≤ o.room := by
  unfold accepted
  split
  · rw [List.length_take]
    exact Nat.min_le_left _ _
  · exact Nat.zero_le _

/-- Queues the messages that find room and drops the others. -/
def offer (o : Outbox) (ms : List Message) : Outbox where
  capacity := o.capacity
  taken := o.taken
  queue := o.queue ++ o.accepted ms
  isOpen := o.isOpen
  capacity_pos := o.capacity_pos
  length_le := by
    have h := o.length_accepted_le ms
    have := o.length_le
    simp only [room, List.length_append] at *
    omega

/-- Queues all messages, the reader taking the oldest ones that are in the way. -/
def append (o : Outbox) (ms : List Message) : Outbox :=
  -- What stays is the newest messages, as many as the queue holds.
  let all := o.queue ++ ms
  let excess := all.length - o.capacity
  { capacity := o.capacity
    taken := (all.take excess).reverse ++ o.taken
    queue := all.drop excess
    isOpen := o.isOpen
    capacity_pos := o.capacity_pos
    length_le := by simp only [List.length_drop]; omega }

/-- Sends all messages, which fails only if there are any and nobody reads them. -/
def send? (o : Outbox) (ms : List Message) : Option Outbox :=
  if ms.isEmpty then some o else if o.isOpen then some (o.append ms) else none

/-- What the reader gets: everything on its way, the oldest first. -/
def contents (o : Outbox) : List Message := o.taken.reverse ++ o.queue

/-- The outbox after the reader has got up to `count` messages, the oldest first. -/
def read (o : Outbox) (count : Nat) : Outbox where
  capacity := o.capacity
  taken := (o.taken.reverse.drop count).reverse
  -- Those in the queue are newer than those that were taken out of it.
  queue := o.queue.drop (count - o.taken.length)
  isOpen := o.isOpen
  capacity_pos := o.capacity_pos
  length_le := by
    have := o.length_le
    rw [List.length_drop]
    omega

/-- What is left after `read` is `contents` without its first `count` messages. -/
theorem contents_read (o : Outbox) (count : Nat) :
    (o.read count).contents = o.contents.drop count := by
  rw [contents, contents, read, List.reverse_reverse, List.drop_append, List.length_reverse]

/-- The outbox after the reader has got everything. -/
def drained (o : Outbox) : Outbox := o.read o.contents.length

/-- The outbox after the reader is gone; the queue is lost. -/
def closed (o : Outbox) : Outbox := { o with queue := [], isOpen := false, length_le := by simp }

end Outbox

end ChannelGossip
