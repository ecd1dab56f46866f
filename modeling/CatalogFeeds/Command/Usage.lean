/-!
The commands of the program, what they take, and the help about them.

The program has options of its own, which stand in front of the name of a command, and every
command has options and operands. The help on a command lists them in columns, as wide as the
longest of their left sides.
-/

namespace CatalogFeeds.Command

/-- An option that takes a value. The value of an option for paths must not be empty. -/
structure OptionForm where
  short : Option Char := none
  long : String
  valueName : String
  about : String
  fallback : Option String := none
  isPath : Bool := false
  deriving DecidableEq, Repr

/-- A command with its options and the names of its operands. -/
structure CommandForm where
  name : String
  about : String
  options : List OptionForm := []
  operands : List String := []
  deriving DecidableEq, Repr

/-! ### What there is -/

/-- The name of the program. -/
def programName : String := "audio-mirror"

/-- The version of the program. -/
def programVersion : String := "0.1.0"

/-- What the program does. -/
def programAbout : String :=
  "Mirrors podcast and audiobook catalogues from JSON APIs into RSS feeds"

/-- The option for the path of the settings file. -/
def settingsOption : OptionForm where
  short := some 'c'
  long := "config"
  valueName := "CONFIG"
  about := "Configuration file path"
  fallback := some "config.toml"
  isPath := true

/-- The option for the directory of the cache. -/
def cacheOption : OptionForm where
  long := "cache-dir"
  valueName := "DIR"
  about := "Cache directory (overrides config file)"
  isPath := true

/-- The option for how much is logged. -/
def logOption : OptionForm where
  short := some 'v'
  long := "log-level"
  valueName := "LOG_LEVEL"
  about := "Log level"
  fallback := some "info"

/-- The options of the program. -/
def programOptions : List OptionForm := [settingsOption, cacheOption, logOption]

/-- The command that lists channels. -/
def channelsForm : CommandForm where
  name := "channels"
  about := "List the merged channels of every enabled source"

/-- The command that lists episodes. -/
def episodesForm : CommandForm where
  name := "episodes"
  about := "List the episodes of one channel"
  operands := ["SOURCE", "ID"]

/-- The command that prints a feed. -/
def feedForm : CommandForm where
  name := "rss"
  about := "Write the RSS feed of one channel to stdout"
  operands := ["SOURCE", "ID"]

/-- The option for the directory that feeds are written to. -/
def outputOption : OptionForm where
  short := some 'o'
  long := "output"
  valueName := "DIR"
  about := "Output directory (overrides `[rss] output_directory`)"
  isPath := true

/-- The command that writes all feeds. -/
def feedsForm : CommandForm where
  name := "mirror"
  about := "Write a feed file for every channel of every enabled source"
  options := [outputOption]

/-- The command that searches titles. -/
def searchForm : CommandForm where
  name := "search"
  about := "Search one source for titles"
  operands := ["SOURCE", "QUERY"]

/-- The commands of the program. -/
def commandForms : List CommandForm :=
  [channelsForm, episodesForm, feedForm, feedsForm, searchForm]

/-- The name of the command that gives help. -/
def helpName : String := "help"

/-- What the command that gives help does. -/
def helpAbout : String := "Print this message or the help of the given subcommand(s)"

/-! ### Help -/

/-- A line with a left side, filled up to the given width, and a right side. -/
def row (width : Nat) (entry : String × String) : String :=
  "  " ++ entry.1 ++ String.ofList (List.replicate (width - entry.1.length) ' ') ++ "  " ++
    entry.2 ++ "\n"

/-- A titled list of lines in columns, behind an empty line; nothing if there are no lines. -/
def rows (title : String) (entries : List (String × String)) : String :=
  let width := (entries.map (·.1.length)).foldl max 0
  if entries.isEmpty then "" else "\n" ++ title ++ ":\n" ++ String.join (entries.map (row width))

namespace OptionForm

/-- How an option is written. -/
def leftSide (option : OptionForm) : String :=
  option.short.elim "    " (fun c => "-" ++ c.toString ++ ", ") ++
    "--" ++ option.long ++ " <" ++ option.valueName ++ ">"

/-- What an option is about, with the value it has when it is not given. -/
def rightSide (option : OptionForm) : String :=
  option.about ++ option.fallback.elim "" fun value => " [default: " ++ value ++ "]"

end OptionForm

/-- The lines about options, among which the one for help is never missing. -/
def optionRows (options : List OptionForm) : List (String × String) :=
  options.map (fun option => (option.leftSide, option.rightSide)) ++
    [("-h, --help", "Print help")]

/-- What help is about: the program, a command, or the command that gives help. -/
inductive Topic where
  | program
  | command (form : CommandForm)
  | help
  deriving DecidableEq, Repr

namespace Topic

/-- The line that shows how a command is called. -/
def usage : Topic → String
  | program => "Usage: " ++ programName ++ " [OPTIONS] <COMMAND>\n"
  | command form =>
    "Usage: " ++ programName ++ " " ++ form.name ++
      (if form.options.isEmpty then "" else " [OPTIONS]") ++
      String.join (form.operands.map fun operand => " <" ++ operand ++ ">") ++ "\n"
  | help => "Usage: " ++ programName ++ " " ++ helpName ++ " [COMMAND]...\n"

/-- The help on a topic. -/
def text (topic : Topic) : String :=
  match topic with
  | program =>
    programAbout ++ "\n\n" ++ topic.usage ++
      rows "Commands" (commandForms.map (fun form => (form.name, form.about)) ++
        [(helpName, helpAbout)]) ++
      rows "Options" (optionRows programOptions ++ [("-V, --version", "Print version")])
  | command form =>
    form.about ++ "\n\n" ++ topic.usage ++
      rows "Arguments" (form.operands.map fun operand => ("<" ++ operand ++ ">", "")) ++
      rows "Options" (optionRows form.options)
  | help =>
    helpAbout ++ "\n\n" ++ topic.usage ++
      rows "Arguments" [("[COMMAND]...", "Print help for the subcommand(s)")]

end Topic

end CatalogFeeds.Command
