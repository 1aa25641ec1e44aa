import CardSearch.Log.Document
import CardSearch.Log.Timestamp
/-!
Which records are written, and how. The root logger has a level and the handlers that write; other
loggers may have a level of their own, and those without one take that of the nearest logger above
them by the dots of their names.
-/
namespace CardSearch.Log

inductive Style where
  | json
  | text
deriving Repr, DecidableEq

def Record.line (style : Style) (time : Timestamp) (context : Context) (record : Record) :
    Except DocumentFault String :=
  match style with
  | .json => record.document time.documentText context
  | .text =>
    match record.message with
    | .error fault => .error (.template fault)
    | .ok message =>
      .ok (time.lineText ++ " " ++ record.level.name ++ " [" ++ record.logger ++ "] " ++ message ++
        match record.raised with
        | some raised => "\n" ++ Document.raisedText raised
        | none => "")

structure Configuration where
  rootLevel : Level
  handlers : List Style
  /-- The levels that loggers other than the root were given, the latest first. -/
  levels : List (String × Level)
deriving Repr, DecidableEq

/-- Names in capitals that name a setting of the logging system other than a level. -/
inductive LevelFault where
  | textFormat
  | styleTable
deriving Repr, DecidableEq

namespace LevelFault

def textFormatShown : String := "%(levelname)s:%(name)s:%(message)s"

def styleTableShown : String :=
  "\x7b'%': (<class 'logging.PercentStyle'>, '%(levelname)s:%(name)s:%(message)s'), '\x7b': (<class " ++
    "'logging.StrFormatStyle'>, '\x7blevelname\x7d:\x7bname\x7d:\x7bmessage\x7d'), '$': (<class " ++
    "'logging.StringTemplateStyle'>, '$\x7blevelname\x7d:$\x7bname\x7d:$\x7bmessage\x7d')\x7d"

def message : LevelFault → String
  | textFormat => "Unknown level: " ++ Value.quotedString textFormatShown
  | styleTable => "Level not an integer or a valid string: " ++ styleTableShown

def kind : LevelFault → String
  | textFormat => "ValueError"
  | styleTable => "TypeError"

end LevelFault

/-- The level that a configured name stands for, in letters of any case. Names of nothing stand for
`info`. -/
def Level.resolve (name : String) : Except LevelFault Level :=
  match Level.inCapitals name with
  | "BASIC_FORMAT" => .error .textFormat
  | "_STYLES" => .error .styleTable
  | capitals => .ok ((Level.ofName? capitals).getD .info)

namespace Configuration

def initial : Configuration := ⟨.warning, [], []⟩

def isRoot (logger : String) : Bool := logger == "" || logger == "root"

def setLevel (logger : String) (level : Level) (configuration : Configuration) : Configuration :=
  if isRoot logger then { configuration with rootLevel := level }
  else { configuration with levels := (logger, level) :: configuration.levels }

def setLevels : List (String × String) → Configuration → Configuration × Option LevelFault
  | [], configuration => (configuration, none)
  | (logger, name) :: others, configuration =>
    match Level.resolve name with
    | .error fault => (configuration, some fault)
    | .ok level => setLevels others (configuration.setLevel logger level)

/-- Configures the root level, one handler, and the levels of some loggers, in this order; what was
done before a fault stays. -/
def configure (level : String) (style : Style) (levels : List (String × String))
    (configuration : Configuration) : Configuration × Option LevelFault :=
  match Level.resolve level with
  | .error fault => (configuration, some fault)
  | .ok root => setLevels levels { configuration with rootLevel := root, handlers := [style] }

def ownLevel (logger : String) (configuration : Configuration) : Level :=
  if isRoot logger then configuration.rootLevel
  else ((configuration.levels.find? (·.1 == logger)).map (·.2)).getD .notSet

/-- The loggers above a logger with these name parts, the nearest first, itself included. -/
def lineage (parts : List String) : List String :=
  (List.range parts.length).reverse.map fun n => ".".intercalate (parts.take (n + 1))

def effectiveLevel (logger : String) (configuration : Configuration) : Level :=
  if isRoot logger then configuration.rootLevel
  else
    ((lineage (logger.splitOn ".")).map (configuration.ownLevel ·) |>.find? (· != .notSet)).getD
      configuration.rootLevel

def writes (record : Record) (configuration : Configuration) : Bool :=
  (configuration.effectiveLevel record.logger).rank ≤ record.level.rank

end Configuration

end CardSearch.Log
