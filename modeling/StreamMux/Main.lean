/-
The program. It has no network of its own: it reads its settings, says what it
would listen on or that it could not reach the relay, and, serving, takes the
end of standard input for the user's interrupt. What it prints and how it ends
is what `CommandLine.run` says.
-/
import StreamMux.CommandLine.Program

namespace StreamMux.CommandLine

def usage : String :=
  "Usage: [--config FILE] serve [--listen ADDRESS]\n" ++
  "       [--config FILE] load [--url URL] [--streams N] [--size N] [--timeout N]"

/-- The contents of a file, if it can be read. -/
def contents? (path : String) : IO (Option ByteArray) := do
  try return some (← IO.FS.readBinFile path) catch _ => return none

/-- The surroundings, with no file but the one the arguments name. -/
def surroundings (request : Request) : IO Surroundings := do
  let content ← match request with
    | .run (some path) _ => contents? path
    | _ => pure none
  let logSetting ← IO.getEnv "STREAMMUX_LOG"
  return { file := fun _ => content, logSetting, interrupted := false }

/-- Reads standard input to its end. -/
partial def awaitEnd (input : IO.FS.Stream) : IO Unit := do
  if (← input.getLine) ≠ "" then awaitEnd input

end StreamMux.CommandLine

open StreamMux.CommandLine in
def main (args : List String) : IO UInt32 := do
  let request := readArguments args
  let s ← surroundings request
  let started := run s args
  started.log.forM IO.println
  match started.error, request with
  | some text, _ =>
    IO.eprintln s!"Error: {text}"
    started.cause.forM fun cause => IO.eprintln s!"\nCaused by:\n    {cause}"
  | none, .run _ _ =>
    awaitEnd (← IO.getStdin)
    let stopped := run { s with interrupted := true } args
    (stopped.log.drop started.log.length).forM IO.println
  | none, .help => IO.println usage
  | none, .invalid => IO.eprintln usage
  return started.exitCode.toUInt32
