import CatalogFeeds.Feed.Basic
import CatalogFeeds.Source.Roster
/-!
Feed files.

Publishing writes a feed for every merged channel into a directory, in a file named for the title
of the channel. A channel whose episodes or feed cannot be had is reported and left out; what
ends the whole run is a file that cannot be written, or a date that has no written form.
-/

namespace CatalogFeeds

open CatalogFeeds.Feed

/-- What ends a command. -/
inductive PublishError where
  | endpoint (error : EndpointError)
  | notFound (resource id : String)
  | feed (error : FeedError)
  | io (cause : OsError)
  deriving DecidableEq

namespace PublishError

/-- The sentence that reports an error. -/
def message : PublishError → String
  | endpoint error => "API error: " ++ error.message
  | notFound resource id => "Not found: " ++ resource ++ " with id " ++ id
  | feed error => "RSS error: " ++ error.message
  | io cause => "I/O error: " ++ cause.message

/-- Whether an error ends the whole program, and not only the feed it arises in. -/
def isFatal : PublishError → Bool
  | feed .unwritableDate => true
  | _ => false

end PublishError

/-- Actions on a session that may fail with a publishing error. -/
abbrev PublishM := ExceptT PublishError (StateM Session)

/-- What a run has written, and the channels it has left out. -/
structure FolderReport where
  written : List String := []
  failed : List (String × PublishError) := []
  summary : Roundup := {}

/-- Where feeds are written, and what they say. -/
structure FeedFolder where
  settings : FeedSettings
  directory : String

namespace FeedFolder

/-- The path of the file of a channel. A title whose file is already taken is told apart by the
id of the channel. -/
def filePathFor (folder : FeedFolder) (channel : Channel) (taken : List String) : String :=
  let stem := Segment.safeName channel.title false
  let path := FilePath.join folder.directory (stem ++ ".xml")
  let id := channel.origin.id
  if !taken.contains path || id.isEmpty then path
  else FilePath.join folder.directory (stem ++ "-" ++ Segment.safeName id false ++ ".xml")

/-- An action on endpoints as part of a command. -/
def lift {α : Type} (action : RunM α) : PublishM α :=
  ExceptT.adapt .endpoint action

/-- The feed of a channel with the episodes that its source lists. -/
def feedOf (folder : FeedFolder) (around : Surroundings) (source : Source) (channel : Channel) :
    PublishM String := do
  let episodes ← lift (source.episodesOf around channel.origin.id)
  match render folder.settings channel episodes.records with
  | .ok feed => return feed
  | .error error => throw (.feed error)

/-- The feed of one channel of a source. -/
def feedById (folder : FeedFolder) (around : Surroundings) (roster : Roster)
    (sourceName id : String) : PublishM String := do
  let some source := roster.source? sourceName | throw (.notFound "source" sourceName)
  let collected ← source.collect around
  let channels := collected.lists.flatMap (·.channels)
  let some channel := channels.find? (·.origin.id == id) | throw (.notFound "channel" id)
  folder.feedOf around source channel

/-- The feed of a merged channel. -/
def mergedFeed (folder : FeedFolder) (around : Surroundings) (roster : Roster)
    (channel : Channel) : PublishM String := do
  if channel.origin.id.isEmpty then throw (.notFound "channel id" channel.title)
  let some source := roster.source? channel.origin.source
    | throw (.notFound "source" channel.origin.source)
  folder.feedOf around source channel

/-- Writes a file. -/
def writeFile (around : Surroundings) (path content : String) : PublishM Unit := do
  let session ← get
  match session.files.writeFile around.now content.toUTF8 (FilePath.place path) with
  | .ok files => set { session with files }
  | .error cause => throw (.io cause)

/-- Makes a directory, with those around it. -/
def makeDirectory (around : Surroundings) (path : String) : PublishM Unit := do
  let session ← get
  let (files, failed) := session.files.makeDirectories around.now (FilePath.place path)
  set { session with files }
  match failed with
  | none => return
  | some cause => throw (.io cause)

/-- An action with its failure as a result. -/
def attempt {α : Type} (action : PublishM α) : PublishM (Except PublishError α) :=
  ExceptT.mk (Except.ok <$> action.run)

/-- Writes the feed of a channel and adds to the report. -/
def publish (folder : FeedFolder) (around : Surroundings) (roster : Roster)
    (report : FolderReport) (channel : Channel) : PublishM FolderReport := do
  match ← attempt (folder.mergedFeed around roster channel) with
  | .ok feed =>
    let path := folder.filePathFor channel report.written
    writeFile around path feed
    return { report with written := report.written ++ [path] }
  | .error error =>
    if error.isFatal then throw error
    return { report with failed := report.failed ++ [(channel.title, error)] }

/-- Writes a feed for every merged channel. -/
def publishAll (folder : FeedFolder) (around : Surroundings) (roster : Roster) :
    PublishM FolderReport := do
  makeDirectory around folder.directory
  let (channels, summary) ← roster.gather around
  channels.channels.foldlM (folder.publish around roster) { summary }

end FeedFolder

end CatalogFeeds
