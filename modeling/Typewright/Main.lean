/-
The program: commands on the files of the machine.

Everything is decided elsewhere; here the machine is made a host and what is said is printed. Pages
cannot be fetched.
-/
import Typewright.CommandLine.Run
import Std.Time.Zoned

namespace Typewright.Machine

/-- The obstacle of an error of the machine. -/
def obstacle : IO.Error → Files.Obstacle
  | .noFileOrDirectory .. => .missing
  | .alreadyExists _ code reason =>
    if code == 17 then .exists else .other code.toNat reason
  | .permissionDenied .. => .denied
  | .inappropriateType _ code reason =>
    if code == 20 then .notDirectory else if code == 21 then .isDirectory
    else .other code.toNat reason
  | .resourceBusy .. => .busy
  | .invalidArgument _ code reason =>
    if code == 36 then .nameTooLong else .other code.toNat reason
  | e => .other 5 (toString e)

/-- Does some work that may meet an obstacle at a path. -/
def attempt {α : Type} (path : Files.Path) (work : IO α) : IO (Except Files.Failure α) := do
  try return .ok (← work)
  catch e => return .error (.error ⟨obstacle e, path⟩)

/-- Writes a file by way of a draft beside it. -/
def replaceFile (path : Files.Path) (content : List UInt8) : IO Unit := do
  let draft := path.parent.join ["." ++ path.name ++ ".draft.tmp"]
  IO.FS.writeBinFile draft.text ⟨content.toArray⟩
  try IO.FS.rename draft.text path.text
  catch e =>
    IO.FS.removeFile draft.text
    throw e

/-- The machine as a host that shows some of the notices. -/
@[reducible] def host (shows : Notice → Bool) : Host IO where
  read path := attempt path do return (← IO.FS.readBinFile path.text).toList
  write path content := do
    match ← attempt path.parent (IO.FS.createDirAll path.parent.text) with
    | .ok () => attempt path (replaceFile path content)
    | .error f => return .error f
  fetch _ := return .unreachable "no connection to the network"
  note n := do if shows n then IO.eprintln n.message

/-- The stamp of a day. -/
def stamp : IO String := do
  let today ← Std.Time.PlainDate.now
  let number (width : Nat) (n : Int) : String := String.ofList (Number.padded width n.toNat)
  return "[" ++ number 4 today.year.toInt ++ "-" ++ number 2 today.month.toInt ++ "-" ++
    number 2 today.day.toInt ++ "] "

end Typewright.Machine

open Typewright in
/-- Runs the command that the arguments give. -/
def main (arguments : List String) : IO UInt32 := do
  match CommandLine.Command.ofArguments? arguments with
  | none =>
    IO.eprintln "Usage: validgen COMMAND [OPTIONS]"
    return 2
  | some command =>
    let ending ← @CommandLine.Command.run IO _ (Machine.host command.shows) command
    let stamp ← Machine.stamp
    for s in ending.said do
      (s.outputText? stamp).forM fun text => IO.println text
      (s.errorText? stamp).forM fun text => IO.eprintln text
    (ending.stopped).forM fun f => IO.eprintln f.message
    return ending.code.toUInt32
