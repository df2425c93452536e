/-
# The program on the command line

Reads the environment and the file, and writes what the run says.
-/
import AlertReceivers.CommandLine.Run

namespace AlertReceivers

/-- Why the system does not read a file. -/
def FileError.ofSystem : IO.Error → FileError
  | .noFileOrDirectory .. => .absent
  | .inappropriateType _ 20 _ => .notDirectory
  | .inappropriateType _ 21 _ => .directory
  | .invalidArgument _ 36 _ => .tooLong
  | e => .other (toString e)

/-- The octets of a file. -/
def readOctets (path : String) : IO (Except FileError ByteArray) := do
  try
    let octets ← IO.FS.readBinFile path
    return .ok octets
  catch e => return .error (.ofSystem e)

end AlertReceivers

open AlertReceivers in
/-- Runs the program and gives its exit code. -/
def main (arguments : List String) : IO UInt32 := do
  let logFormat ← IO.getEnv "LOG_FORMAT"
  let filter ← IO.getEnv "RUST_LOG"
  let octets ← match Options.parse arguments logFormat with
    | .ok o => readOctets o.config
    | .error _ => pure (.error .absent)
  let transcript := run arguments ⟨logFormat, filter⟩ fun _ => octets
  for line in transcript.log do
    IO.eprintln line
  IO.print transcript.output
  return transcript.exitCode.toUInt32
