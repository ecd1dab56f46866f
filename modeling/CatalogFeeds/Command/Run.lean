import CatalogFeeds.Command.Arguments
import CatalogFeeds.Feed.Folder
import CatalogFeeds.Json.Printer
import CatalogFeeds.Settings.File
/-!
Running the program.

A run loads the settings, makes the cache and the sources, and carries out one command on them.
`Command.run` takes the arguments, the files of the working directory, who answers requests and
the time, and gives what is printed, the exit code and the files afterwards.
-/

namespace CatalogFeeds.Command

open CatalogFeeds.Time

/-! ### Failures -/

/-- Why a run fails. -/
inductive Failure where
  | settings (error : SettingsFileError)
  | cache (error : StoreError)
  | endpoint (error : EndpointError)
  | app (error : PublishError)
  | unknownSource (name : String)

/-- The messages of the errors behind the error of an endpoint. -/
def endpointCauses : EndpointError → List String
  | .url error => [error.message]
  | .resolve error => [error.message]
  | _ => []

namespace Failure

/-- The sentence that reports a failure. -/
def message : Failure → String
  | settings error => error.message
  | cache error => error.message
  | endpoint error => error.message
  | app error => error.message
  | unknownSource name => "unknown source '" ++ name ++ "'"

/-- The messages of the errors behind a failure, each the cause of the one before. -/
def causes : Failure → List String
  | endpoint error => endpointCauses error
  | app (.endpoint error) => error.message :: endpointCauses error
  | app (.io cause) => [cause.message]
  | _ => []

/-- Whether a failure is one that no message is made for. -/
def isFatal : Failure → Bool
  | app error => error.isFatal
  | _ => false

/-- The text of a cause: its number when there are several, and all its lines indented. -/
def causeText (numbered : Bool) (number : Nat) (message : String) : String :=
  let margin := if numbered then "       " else "    "
  let start := if numbered then "    " ++ toString number ++ ": " else margin
  "\n" ++ start ++ ("\n" ++ margin).intercalate (message.splitOn "\n")

/-- The text about a failure and its causes. -/
def report (failure : Failure) : String :=
  let causes := failure.causes
  let listed := causes.zipIdx.map fun (message, number) =>
    causeText (causes.length > 1) number message
  "Error: " ++ failure.message ++
    (if causes.isEmpty then "" else "\n\nCaused by:" ++ String.join listed) ++ "\n"

end Failure

/-! ### Commands -/

/-- Actions on a session that may fail. -/
abbrev CommandM := ExceptT Failure (StateM Session)

/-- What a command works with. -/
structure Workplace where
  settings : Settings
  roster : Roster
  around : Surroundings

/-- A character that the text of a header may hold. -/
def isHeaderChar (c : Char) : Bool :=
  c == '\t' || (0x20 ≤ c.toNat && c.toNat != 0x7F)

/-- Checks that requests can be made. -/
def checkHttp (settings : HttpSettings) : Except Failure Unit :=
  if settings.userAgent.toList.all isHeaderChar then .ok ()
  else .error (.endpoint (.configuration "Failed to create HTTP client: builder error"))

/-- Makes the cache and the sources that settings ask for. -/
def prepare (settings : Settings) (transport : Transport) (now : Instant) :
    Except Failure Workplace := do
  checkHttp settings.http
  let cache ← (PayloadStore.make settings.cache.directory).mapError .cache
  let sources ← (Source.makeAll settings .builtin).mapError .endpoint
  return { settings, roster := ⟨sources⟩, around := { transport, cache := some cache, now } }

/-- The source of a name. -/
def findSource (workplace : Workplace) (name : String) : CommandM Source :=
  match workplace.roster.source? name with
  | some source => return source
  | none => throw (.unknownSource name)

/-- Records as they are printed. -/
def printed (records : List Json) : String :=
  (Json.array records).pretty ++ "\n"

/-- Lists the merged channels of all sources. -/
def listChannels (workplace : Workplace) : CommandM String := do
  let (channels, _) ← workplace.roster.gather workplace.around
  return printed (channels.channels.map (·.toJson))

/-- Lists the episodes of a channel. -/
def episodesOf (workplace : Workplace) (sourceName id : String) : CommandM String := do
  let source ← findSource workplace sourceName
  let run ← ExceptT.adapt .endpoint (source.episodesOf workplace.around id)
  return printed (run.records.map (·.toJson))

/-- Searches the titles of a source. -/
def search (workplace : Workplace) (sourceName text : String) : CommandM String := do
  let source ← findSource workplace sourceName
  let found ← ExceptT.adapt .endpoint (source.titlesMatching workplace.around text)
  return printed (found.channels.map (·.toJson))

/-- Gives the feed of a channel. -/
def printFeed (workplace : Workplace) (sourceName id : String) : CommandM String :=
  let feeds := workplace.settings.feeds
  let folder : FeedFolder := ⟨feeds, feeds.outputDirectory⟩
  ExceptT.adapt .app (folder.feedById workplace.around workplace.roster sourceName id)

/-- Writes the feeds of all channels. -/
def writeFeeds (workplace : Workplace) (directory : String) : CommandM String := do
  let folder : FeedFolder := ⟨workplace.settings.feeds, directory⟩
  let report ← ExceptT.adapt .app (folder.publishAll workplace.around workplace.roster)
  return toString report.written.length ++ " feeds written to " ++ directory ++ "\n"

/-- Carries out a command. -/
def perform (workplace : Workplace) (invocation : Invocation) : CommandM String :=
  let first := invocation.operand 0
  let second := invocation.operand 1
  if invocation.form == channelsForm then listChannels workplace
  else if invocation.form == episodesForm then episodesOf workplace first second
  else if invocation.form == feedForm then printFeed workplace first second
  else if invocation.form == searchForm then search workplace first second
  else writeFeeds workplace
    (invocation.outputDirectory?.getD workplace.settings.feeds.outputDirectory)

/-! ### The whole program -/

/-- What a run leaves behind. -/
structure Outcome where
  code : Nat
  output : String := ""
  complaint : String := ""
  files : FileTree

/-- The outcome of a run that fails. -/
def failed (failure : Failure) (files : FileTree) : Outcome :=
  if failure.isFatal then { code := 101, complaint := failure.message ++ "\n", files }
  else { code := 1, complaint := failure.report, files }

/-- The settings with what the arguments say instead. -/
def adjust (invocation : Invocation) (settings : Settings) : Settings :=
  let directory := invocation.cacheDirectory?.getD settings.cache.directory
  { settings with cache := { settings.cache with directory } }

/-- Runs the command of arguments that fit. -/
def execute (invocation : Invocation) (files : FileTree) (transport : Transport) (now : Instant) :
    Outcome :=
  match Settings.load now files invocation.settingsPath with
  | (.error error, files) => failed (.settings error) files
  | (.ok settings, files) =>
    match prepare (adjust invocation settings) transport now with
    | .error failure => failed failure files
    | .ok workplace =>
      match (perform workplace invocation).run { files } with
      | (.ok output, session) => { code := 0, output, files := session.files }
      | (.error failure, session) => failed failure session.files

/-- Runs the program. -/
def run (arguments : List String) (files : FileTree) (transport : Transport) (now : Instant) :
    Outcome :=
  match readArguments arguments with
  | .ok invocation => execute invocation files transport now
  | .error (.help topic) => { code := 0, output := topic.text, files }
  | .error .version => { code := 0, output := programName ++ " " ++ programVersion ++ "\n", files }
  | .error .misuse => { code := 2, complaint := Topic.program.usage, files }

end CatalogFeeds.Command
