import CatalogFeeds.Members
import CatalogFeeds.Record.Channel
/-!
Lists of channels and how they are merged.

Merging puts lists behind each other and keeps the first channel of each id. A channel without
an id is never a duplicate.
-/

namespace CatalogFeeds

/-- Channels together with the payload they were read from; a merged list has none. -/
structure ChannelBatch where
  channels : List Channel
  raw : ByteArray := .empty

/-- What merging has come to: the channels that are kept, and the place among them of each id. -/
structure Merging where
  kept : List Channel := []
  places : List (String × Nat) := []

namespace Merging

/-- Adds a channel, unless one of its id has a place already. -/
def add (merging : Merging) (channel : Channel) : Merging :=
  let id := channel.origin.id
  if id.isEmpty then { merging with kept := merging.kept ++ [channel] }
  else match Members.get? id merging.places with
    | some _ => merging
    | none =>
      { kept := merging.kept ++ [channel]
        places := Members.insert id merging.kept.length merging.places }

/-- Adds the channels of a list. -/
def addAll (merging : Merging) (list : ChannelBatch) : Merging :=
  list.channels.foldl add merging

end Merging

/-- Merges lists of channels. -/
def ChannelBatch.merge (lists : List ChannelBatch) : ChannelBatch :=
  { channels := (lists.foldl Merging.addAll {}).kept }

end CatalogFeeds
