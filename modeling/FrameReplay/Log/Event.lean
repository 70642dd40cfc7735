import FrameReplay.Json.Printer
import FrameReplay.Log.Config

/-!
# Log events

What a log says: a level, the part of the program that says it, a message, and named values. Events
are values; writing them is left to whoever holds the stream.
-/

namespace FrameReplay

/-- Parts of the program that log. -/
inductive LogTarget where
  | commands
  | runner
  | control
  | engine
  | generator
  | imix
  deriving DecidableEq, Repr

/-- The name that filters and readers of a log know a part by. -/
def LogTarget.name : LogTarget → String
  | .commands => "pktforge"
  | .runner => "pktforge::runner"
  | .control => "pktforge_dataplane::control"
  | .engine => "pktforge_dataplane::core"
  | .generator => "pktforge_generator"
  | .imix => "pktforge_generator::imix"

structure LogEvent where
  level : LogLevel
  target : LogTarget
  message : String
  values : List (String × Node)

namespace LogEvent

/-- The names of everything that an event carries. -/
def fieldNames (event : LogEvent) : List String := "message" :: event.values.map Prod.fst

/-- The message and the values as one record. -/
def fields (event : LogEvent) : Node :=
  .record ((.text "message", .text event.message) ::
    event.values.map fun (name, value) => (.text name, value))

/-- The level in capital letters. -/
def levelText (event : LogEvent) : String := event.level.name.toUpper

/-- The event as a line of JSON. -/
def jsonLine (event : LogEvent) : String :=
  Json.compact (.record [
    (.text "level", .text event.levelText),
    (.text "fields", event.fields),
    (.text "target", .text event.target.name)])

/-- The event as a line of text, in colour unless that is not wanted. -/
def textLine (noColor : Bool) (event : LogEvent) : String :=
  let level := if noColor then event.levelText else "\x1b[1m" ++ event.levelText ++ "\x1b[0m"
  let values := event.values.map fun (name, value) => " " ++ name ++ "=" ++ Json.scalar value
  level ++ " " ++ event.target.name ++ ": " ++ event.message ++ String.join values

/-- The line for an event in the form that a logger asks for. -/
def line (logger : LoggerConfig) (event : LogEvent) : String :=
  if logger.json then event.jsonLine else event.textLine logger.noColor

end LogEvent

end FrameReplay
