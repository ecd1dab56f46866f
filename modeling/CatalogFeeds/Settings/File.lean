import CatalogFeeds.Files.Path
import CatalogFeeds.Files.Tree
import CatalogFeeds.Settings.Basic
import CatalogFeeds.Toml.Parser
/-!
Settings files.

Settings are kept in a TOML file. Where there is no such file, one that spells out the defaults
is written. `Settings.load` gives valid settings or the reason why there are none.
-/

namespace CatalogFeeds

open CatalogFeeds.Time

/-- Why settings cannot be had from a file. -/
inductive SettingsFileError where
  | io (cause : OsError)
  | notText
  | malformed
  | shape (error : ShapeError)
  | invalid (error : SettingsError)

/-- The sentence that reports an error. -/
def SettingsFileError.message : SettingsFileError → String
  | io cause => cause.message
  | notText => "stream did not contain valid UTF-8"
  | malformed => "TOML parse error"
  | shape error => error.message .toml
  | invalid error => error.message

namespace Settings

/-! ### Reading -/

/-- Reads and checks the content of a settings file. -/
def readFile (content : ByteArray) : Except SettingsFileError Settings := do
  let some text := String.fromUTF8? content | throw .notText
  let some value := Toml.parse? text | throw .malformed
  let settings ← (read value).mapError .shape
  settings.validate.mapError .invalid
  return settings

/-! ### The file of defaults -/

/-- A table of strings in a settings file. -/
def tableText (name : String) (entries : List (String × String)) : String :=
  "[" ++ name ++ "]\n" ++ String.join (entries.map fun (key, text) =>
    key ++ " = \"" ++ text ++ "\"\n")

/-- The settings file that spells out the defaults. -/
def defaultText : String :=
  let settings : Settings := {}
  let cache := settings.cache
  let http := settings.http
  let feeds := settings.feeds
  "sources = []\n\n" ++ "\n".intercalate [
    tableText "cache" [("directory", cache.directory), ("ttl", cache.ttl.text)],
    tableText "http" ([("connect_timeout", http.connectTimeout.text)] ++
      http.requestTimeout.elim [] (fun timeout => [("request_timeout", timeout.text)]) ++
      [("user_agent", http.userAgent)]),
    tableText "rss" [
      ("language", feeds.language),
      ("owner_name", feeds.ownerName),
      ("output_directory", feeds.outputDirectory)]]

/-- Writes the file of defaults, with the directories it needs. -/
def writeDefaults (now : Instant) (files : FileTree) (place : List String) :
    Except SettingsFileError Settings × FileTree :=
  match files.makeDirectories now place.dropLast with
  | (files, some cause) => (.error (.io cause), files)
  | (files, none) =>
    match files.writeFile now defaultText.toUTF8 place with
    | .error cause => (.error (.io cause), files)
    | .ok files => (.ok {}, files)

/-- Loads settings from a file; where there is none, the defaults are written to it. -/
def load (now : Instant) (files : FileTree) (path : String) :
    Except SettingsFileError Settings × FileTree :=
  let place := FilePath.place path
  match files.find place with
  | .ok (.file content _) => (readFile content, files)
  | .ok (.directory ..) => (.error (.io .isADirectory), files)
  | .error _ => writeDefaults now files place

end Settings

end CatalogFeeds
