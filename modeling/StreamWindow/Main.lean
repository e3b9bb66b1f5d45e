import Std.Time.Format
import StreamWindow.CommandLine.Session

/-! The program on the real file system. -/

namespace StreamWindow

def FileError.ofSystem (error : IO.Error) : FileError :=
  match error with
  | .noFileOrDirectory _ _ _ => .notFound
  | .alreadyExists _ _ _ => .alreadyExists
  | .inappropriateType _ code _ =>
      if code = 20 then .notADirectory else if code = 21 then .isADirectory
      else .other (toString error)
  | _ => .other (toString error)

def attempt {α : Type} (action : IO α) : IO (Except FileError α) := do
  match ← action.toBaseIO with
  | .ok value => return .ok value
  | .error error => return .error (FileError.ofSystem error)

def readFile (path : String) : IO (Except FileError String) := do
  match ← attempt (IO.FS.readBinFile path) with
  | .error cause => return .error cause
  | .ok content =>
      match String.fromUTF8? content with
      | some text => return .ok text
      | none => return .error .notUnicode

def presentTime : IO String := do
  let now ← Std.Time.Timestamp.now
  let seconds := Std.Time.DateTime.toISO8601String
    (Std.Time.DateTime.ofTimestampWithZone now .UTC)
  let micros := toString (now.toNanosecondsSinceUnixEpoch.val.toNat / 1000 % 1000000)
  let padded := String.ofList (List.replicate (6 - micros.length) '0') ++ micros
  return s!"{seconds.dropEnd 1}.{padded}Z"

instance : FileHost IO where
  workingDirectory := return (← IO.currentDir).toString
  resolve path := attempt do
    let _ ← IO.FS.Handle.mk path .read
    return (← IO.FS.realPath path).toString
  isFile path := do
    match ← attempt (IO.FS.readBinFile path) with
    | .ok _ => return true
    | .error _ => return false
  readText := readFile
  createDirectories path := attempt (IO.FS.createDirAll path)
  openFile path := do
    match ← attempt (IO.FS.Handle.mk path .append) with
    | .ok _ => return true
    | .error _ => return false
  append path text := do
    let handle ← IO.FS.Handle.mk path .append
    handle.putStr text
  timestamp := presentTime

end StreamWindow

open StreamWindow StreamWindow.CommandLine

def main (arguments : List String) : IO UInt32 := do
  let names := ["RUST_LOG", "NO_COLOR", "CLICOLOR_FORCE"]
  let values ← names.mapM fun name => return (name, ← IO.getEnv name)
  let environment : Environment := fun name => (values.lookup name).join
  let outcome ← (CommandLine.run arguments environment : IO Outcome)
  (← IO.getStdout).putStr outcome.output
  (← IO.getStderr).putStr outcome.errors
  return outcome.exitCode.toUInt32
