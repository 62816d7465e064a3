import ChannelGossip.Bytes
import ChannelGossip.Bytes.Number
import ChannelGossip.Text.Unprintable
import ChannelGossip.Text.Combining
import ChannelGossip.Text.Quoted
import ChannelGossip.Text.Hex
import ChannelGossip.Text.Utf8
import ChannelGossip.Text.Blank
import ChannelGossip.Text.Numeral
import ChannelGossip.Text.Json
import ChannelGossip.Wire.Field
import ChannelGossip.Wire.Kind
import ChannelGossip.Wire.MessageKind
import ChannelGossip.Wire.Layout
import ChannelGossip.Error
import ChannelGossip.Wire.FixedBytes
import ChannelGossip.Wire.ShortChannelId
import ChannelGossip.Wire.VarBytes
import ChannelGossip.Wire.IdList
import ChannelGossip.Wire.Value
import ChannelGossip.Wire.Value.Text
import ChannelGossip.Message
import ChannelGossip.Message.Text
import ChannelGossip.Contents.Basic
import ChannelGossip.Contents.Connection
import ChannelGossip.NetAddress
import ChannelGossip.Contents.Announcement
import ChannelGossip.Contents.Query
import ChannelGossip.Yaml.Cursor
import ChannelGossip.Yaml.Scalar
import ChannelGossip.Yaml.Tree
import ChannelGossip.Config
import ChannelGossip.Config.Read
import ChannelGossip.Table
import ChannelGossip.FrameLimits
import ChannelGossip.RangeReplies
import ChannelGossip.Metrics
import ChannelGossip.Store
import ChannelGossip.Outbox
import ChannelGossip.Session
import ChannelGossip.Service
import ChannelGossip.Node
import ChannelGossip.Replay
import ChannelGossip.Command
import ChannelGossip.Main
import ChannelGossip.Proofs.Except
import ChannelGossip.Proofs.Wire.Reading
import ChannelGossip.Proofs.Message.Framing
import ChannelGossip.Proofs.Contents
import ChannelGossip.Proofs.Message.Obtainable
import ChannelGossip.Proofs.Wire.IdList
import ChannelGossip.Proofs.RangeReplies.Parts
import ChannelGossip.Proofs.RangeReplies.Tiling
import ChannelGossip.Proofs.RangeReplies.Answer
import ChannelGossip.Proofs.RangeReplies.Splitting
import ChannelGossip.Proofs.Node.Delivery
import ChannelGossip.Proofs.Store.Filing
import ChannelGossip.Proofs.Store.Holds
import ChannelGossip.Proofs.Node.Dispatch
import ChannelGossip.Proofs.Node.Queries
import ChannelGossip.Proofs.Node.Run
import ChannelGossip.Proofs.Store.Copy
import ChannelGossip.Proofs.Node.Receive
import ChannelGossip.Proofs.Node.Sync
import ChannelGossip.Proofs.Store.History
import ChannelGossip.Proofs.Node.History
import ChannelGossip.Proofs.Wire.Grammar
import ChannelGossip.Proofs.Message.Grammar
import ChannelGossip.Proofs.Wire.Extension
import ChannelGossip.Proofs.Message.Extension
import ChannelGossip.Proofs.Message.Slots
import ChannelGossip.Proofs.Node.Log
import ChannelGossip.Proofs.Store.Introduction
import ChannelGossip.Proofs.Store.About
import ChannelGossip.Proofs.Node.IdQueries
import ChannelGossip.Proofs.NetAddress
import ChannelGossip.Proofs.Node.Reaction
import ChannelGossip.Proofs.Node.Refusal
import ChannelGossip.Proofs.Store.Matching
import ChannelGossip.Proofs.Node.Provenance
import ChannelGossip.Proofs.Node.Sessions
import ChannelGossip.Proofs.Node.News
import ChannelGossip.Proofs.Node.Introduction
import ChannelGossip.Proofs.Store.Keeping
import ChannelGossip.Proofs.Node.Absorption
import ChannelGossip.Proofs.Node.Filter
import ChannelGossip.Proofs.Node.ValidFrames
import ChannelGossip.Proofs.Contents.Typed
import ChannelGossip.Proofs.Text.Utf8
import ChannelGossip.Proofs.Metrics
import ChannelGossip.Proofs.Node.Counting
import ChannelGossip.Proofs.Node.Relay
import ChannelGossip.Proofs.Text.Delimited
import ChannelGossip.Proofs.Text.Hex
import ChannelGossip.Proofs.Text.Json
import ChannelGossip.Proofs.Replay.Lines
import ChannelGossip.Proofs.Replay.Frames
import ChannelGossip.Proofs.Replay.Advance
import ChannelGossip.Proofs.Replay.Run
import ChannelGossip.Proofs.Replay.Accounts
import ChannelGossip.Proofs.Replay.Determined
import ChannelGossip.Proofs.Text.Numeral
import ChannelGossip.Proofs.Wire.ShortChannelId
import ChannelGossip.Proofs.Wire.VarBytes
import ChannelGossip.Proofs.Contents.Addresses
import ChannelGossip.Proofs.Store.Places
import ChannelGossip.Proofs.Store.Backlog
import ChannelGossip.Proofs.RangeReplies.Positions
import ChannelGossip.Proofs.Wire.Json
import ChannelGossip.Proofs.Message.Json
import ChannelGossip.Proofs.Metrics.Labels
import ChannelGossip.Proofs.Table
import ChannelGossip.Proofs.Metrics.Counter
import ChannelGossip.Proofs.Metrics.Histogram
import ChannelGossip.Proofs.Metrics.Run
import ChannelGossip.Proofs.Metrics.Series
import ChannelGossip.Proofs.Text.Lossy
