/-
What the program does with its arguments, as far as it can go without a
network: it reads its settings and starts to serve, or tries to reach a relay
and fails. The outside world is a value: the file system, the log setting, and
whether the user interrupts a program that serves.
-/
import StreamMux.CommandLine.Arguments
import StreamMux.CommandLine.Filter
import StreamMux.Config.Document

namespace StreamMux.CommandLine

structure Surroundings where
  /-- The contents of a file, if it can be read. -/
  file : String → Option ByteArray
  /-- The setting of the log filter. -/
  logSetting : Option String
  /-- Whether the user interrupts the program once it serves. -/
  interrupted : Bool

/-- Whether a step of a path stays where it is. -/
def staysPut (step : String) : Bool := step = "" || step = "."

/-- Reading in a directory that holds at most one file. A path there may go
through the directory itself any number of times. Elsewhere only the null
device is known; it reads as empty. -/
def directory (name : String) (content : Option ByteArray) (path : String) : Option ByteArray :=
  match path.splitOn "/" with
  | "" :: steps =>
    if staysPut (steps.getLastD "") then none
    else if steps.filter (!staysPut ·) = ["dev", "null"] then some .empty
    else none
  | steps => if steps.dropLast.all staysPut && steps.getLast? = some name then content else none

/-- How the program ends. -/
structure Ending where
  exitCode : Nat
  /-- Lines of the log, without time. -/
  log : List String
  /-- The error on which it stops. -/
  error : Option String
  /-- What was behind the error, where it is told. -/
  cause : Option String
deriving DecidableEq, Repr

def program : String := "wsmux_echo"

/-- The line of a report, if the filter shows it. -/
def logLine (f : Filter) (level : Level) (text : String) (fields : List (String × String)) :
    List String :=
  if f.shows program level then
    [" ".intercalate
      ([s!"{level.name} {program}:", text] ++ fields.map fun (name, value) => s!"{name}={value}")]
  else []

/-- Why settings could not be had, with what is behind it. -/
abbrev SettingsFailure := String × Option ConfigError

def loadConfig (s : Surroundings) : Option String → Except SettingsFailure Config
  | none => .ok .default
  | some path =>
    match (s.file path).bind String.fromUTF8? with
    | none => .error (s!"reading {path}", none)
    | some text =>
      match Config.ofDocument text with
      | .ok config => .ok config
      | .error e => .error (s!"invalid config {path}", some e)

/-- Listening, or why it does not come to it. -/
def serve (s : Surroundings) (f : Filter) (log : List String) (listen : Address) : Ending :=
  if !listen.isLocal then ⟨1, log, some s!"binding {listen.text}", none⟩
  else
    let serving := logLine f .info "wsmux-echo serving" [("addr", listen.text)]
    let stopping :=
      if s.interrupted then
        logLine f .info "received SIGINT, shutting down" [] ++
          logLine f .info "wsmux-echo stopped" []
      else []
    ⟨0, log ++ serving ++ stopping, none, none⟩

def run (s : Surroundings) (args : List String) : Ending :=
  match readArguments args with
  | .help => ⟨0, [], none, none⟩
  | .invalid => ⟨2, [], none, none⟩
  | .run path command =>
    match loadConfig s path with
    | .error (text, cause) => ⟨1, [], some text, cause.map (·.message)⟩
    | .ok config =>
      let f := Filter.ofSetting s.logSetting
      let log := logLine f .debug "session settings loaded"
        [("initial_window", s!"{config.initialWindow}"),
         ("max_frame_payload", s!"{config.maxFramePayload}")]
      match command with
      | .serve listen => serve s f log listen
      | .load options => ⟨1, log, some s!"connecting to {options.url}", none⟩

end StreamMux.CommandLine
