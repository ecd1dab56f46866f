import CatalogFeeds.Feed.Xml
import CatalogFeeds.Record.Episode
import CatalogFeeds.Settings.Basic
/-!
Feeds.

A feed shows a channel and its episodes. Fields that are empty are left out, except where feed
readers expect them. A channel without a title has no feed, and dates outside the years 0 to 9999
cannot be written.
-/

namespace CatalogFeeds.Feed

open CatalogFeeds.Text CatalogFeeds.Time

/-- Why a feed cannot be written. -/
inductive FeedError where
  | noTitle (id : String)
  | unwritableDate
  deriving DecidableEq, Repr

/-- The phrase that reports an error. -/
def FeedError.message : FeedError → String
  | noTitle id => "channel '" ++ id ++ "' has no title"
  | unwritableDate => "date outside the years 0 to 9999"

/-! ### Parts of a feed -/

/-- The hours, minutes and seconds of a duration. -/
def durationText (seconds : Nat) : String :=
  String.ofList (digits (seconds / 3600) ++ ':' :: paddedDigits 2 (seconds / 60 % 60) ++
    ':' :: paddedDigits 2 (seconds % 60))

/-- The text of a date. -/
def dateText (instant : Instant) : Except FeedError String :=
  match instant.mailText? with
  | some text => .ok text
  | none => .error .unwritableDate

/-- The answer to a question. -/
def flagWord (flag : Bool) : String :=
  if flag then "yes" else "no"

/-- The first text that is not empty, of two. -/
def orElse (text fallback : String) : String :=
  if text.isEmpty then fallback else text

/-- An element with a text. -/
def textElement (name text : String) : Xml :=
  .leaf name [] text

/-- An element with a text that is not empty. -/
def textElement? (name text : String) : List Xml :=
  if text.isEmpty then [] else [textElement name text]

/-- An element with a date, if there is one. -/
def dateElement? (name : String) : Option Instant → Except FeedError (List Xml)
  | none => .ok []
  | some instant => (dateText instant).map fun text => [textElement name text]

/-- An element that refers to a picture, if there is one. -/
def pictureElement? (url : String) : List Xml :=
  if url.isEmpty then [] else [.empty "itunes:image" [("href", url)]]

/-! ### Episodes -/

/-- The length that stands for a number of seconds, as far as 64 bits hold it. -/
def enclosureLength (seconds : Option Nat) : Nat :=
  min (seconds.getD 0 * 1000) (Number.wordLimit - 1)

/-- The link to the sound of an episode. -/
def soundElements (episode : Episode) : List Xml :=
  if episode.audioUrl.isEmpty then []
  else [
    textElement "link" episode.audioUrl,
    .empty "enclosure" [
      ("url", episode.audioUrl),
      ("type", "audio/mpeg"),
      ("length", toString (enclosureLength episode.durationSeconds))]]

/-- The identifier of an episode. -/
def guidElement? (id : String) : List Xml :=
  if id.isEmpty then [] else [.leaf "guid" [("isPermaLink", "false")] id]

/-- The element of an episode. -/
def episodeElement (episode : Episode) : Except FeedError Xml := do
  let published ← dateElement? "pubDate" episode.publishedAt
  return .parent "item" [] ([
      textElement "title" episode.title,
      textElement "description" episode.description] ++
    guidElement? episode.id ++ soundElements episode ++
    episode.durationSeconds.elim [] (fun n => [textElement "itunes:duration" (durationText n)]) ++
    published ++ pictureElement? episode.imageUrl)

/-! ### Channels -/

/-- The names that elements and attributes of feeds are qualified with. -/
def namespaces : List (String × String) := [
  ("xmlns:atom", "http://www.w3.org/2005/Atom"),
  ("xmlns:itunes", "http://www.itunes.com/dtds/podcast-1.0.dtd"),
  ("xmlns:itunesu", "http://www.itunesu.com/feed"),
  ("xmlns:googleplay", "http://www.google.com/schemas/play-podcasts/1.0")]

/-- The picture of a channel, which goes by the title of the channel unless it has its own. -/
def imageElements (channel : Channel) : List Xml :=
  let image := channel.image
  if image.url.isEmpty then []
  else pictureElement? image.url ++ [.parent "image" [] ([
      textElement "url" image.url,
      textElement "title" (orElse image.title channel.title)] ++
    textElement? "link" image.link)]

/-- The elements of a channel in front of its episodes. -/
def channelElements (settings : FeedSettings) (channel : Channel) :
    Except FeedError (List Xml) := do
  let lastAired ← dateElement? "lastBuildDate" channel.origin.lastAired
  return [
      textElement "title" channel.title,
      textElement "description" channel.description,
      textElement "language" (orElse channel.language settings.language)] ++
    textElement? "link" channel.link ++
    textElement? "copyright" channel.copyright ++
    [textElement "itunes:author" (orElse channel.author settings.ownerName)] ++
    textElement? "itunes:summary" channel.summary ++
    textElement? "itunes:subtitle" channel.subtitle ++
    textElement? "itunes:keywords" channel.keywords ++
    [textElement "itunes:explicit" (flagWord channel.explicit),
      textElement "itunes:locked" (flagWord channel.locked)] ++
    lastAired ++
    [.parent "itunes:owner" [] [textElement "itunes:name" settings.ownerName]] ++
    channel.category.map (fun category => .empty "itunes:category" [("text", category.text)]) ++
    imageElements channel

/-- The element tree of a feed. -/
def tree (settings : FeedSettings) (channel : Channel) (episodes : List Episode) :
    Except FeedError Xml := do
  if isBlankText channel.title then throw (.noTitle channel.origin.id)
  let elements ← channelElements settings channel
  let items ← episodes.mapM episodeElement
  return .parent "rss" (("version", "2.0") :: namespaces) [.parent "channel" [] (elements ++ items)]

/-- The text of a feed. -/
def render (settings : FeedSettings) (channel : Channel) (episodes : List Episode) :
    Except FeedError String :=
  (tree settings channel episodes).map Xml.document

end CatalogFeeds.Feed
