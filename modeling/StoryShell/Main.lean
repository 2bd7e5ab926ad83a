/-
The program: reads the command line and the file of a world, and connects a shell with standard
input, standard output and, for the log, standard error.
-/
import StoryShell.Launch

set_option autoImplicit false

namespace StoryShell.Program

/-- A short reminder of the command line. -/
def usage : String :=
  "usage: vfshell [-h] [--world WORLD] [--world-file WORLD_FILE] [--unlock-all]\n"
    ++ "               [--log-level LEVEL] [play|worlds]\n"

/-- What keeps a file from being read, as far as it is told apart. The system names the path when it
finds a file where a directory should be, and names none when the whole is a directory. -/
def faultOf : IO.Error → FileFault
  | .inappropriateType (some _) .. => .belowFile
  | .inappropriateType none .. => .isDirectory
  | .invalidArgument .. => .nameTooLong
  | _ => .missing

/-- Reads the file of a world. -/
def readFile (path : String) : IO (Except FileFault (List UInt8)) := do
  if path.toList.contains '\x00' then return .error .nullCharacter
  try
    let bytes ← IO.FS.readBinFile path
    return .ok bytes.toList
  catch error => return .error (faultOf error)

/-- Writes out events. -/
def write (level : Log.Level) (events : List Event) : IO Unit := do
  let out ← IO.getStdout
  let err ← IO.getStderr
  for event in events do
    out.putStr event.written
    err.putStr (event.noted level)
  out.flush
  err.flush

/-- The next input; a line comes without its line feed. -/
def nextInput : IO Input := do
  let raw ← (← IO.getStdin).getLine
  if raw.isEmpty then return .endOfInput
  return .line (Console.dropLineFeed raw)

/-- Feeds a shell until it ends, and gives its exit code. -/
partial def serve (level : Log.Level) (shell : Shell) : IO UInt32 := do
  if let some code := shell.exitCode? then return code
  let (shell, events) := shell.receive (← nextInput)
  write level events
  serve level shell

/-- Does what a command line asks for. -/
def run (invocation : Invocation) : IO UInt32 := do
  match invocation.activity with
  | .worlds =>
    World.bundledIds.forM fun id => IO.println id
    return 0
  | .play =>
    let contents ← match invocation.path? with
      | none => pure (.error .missing)
      | some path => readFile path
    match invocation.start contents with
    | .ok (shell, events) =>
      write invocation.logLevel events
      serve invocation.logLevel shell
    | .error error =>
      if error.isReported then IO.println (loadFailure error)
      else IO.eprintln "The world has values of the wrong shape."
      return 1

end StoryShell.Program

/-- The program. -/
def main (arguments : List String) : IO UInt32 :=
  match StoryShell.Arguments.read StoryShell.World.bundled.id arguments with
  | .run invocation => StoryShell.Program.run invocation
  | .help => do
    IO.print StoryShell.Program.usage
    return 0
  | .misuse => do
    IO.eprint StoryShell.Program.usage
    return 2
  | .noLogLevel => do
    IO.eprintln "The level of the log has no value."
    return 1
