/-! Paths, and what the program asks of the file system it runs on. -/

namespace StreamWindow

inductive FileError
  | notFound | alreadyExists | notADirectory | isADirectory | nameTooLong | nulInName | notUnicode
  | other (message : String)
  deriving DecidableEq, Repr

def FileError.message : FileError → String
  | notFound => "No such file or directory (os error 2)"
  | alreadyExists => "File exists (os error 17)"
  | notADirectory => "Not a directory (os error 20)"
  | isADirectory => "Is a directory (os error 21)"
  | nameTooLong => "File name too long (os error 36)"
  | nulInName => "file name contained an unexpected NUL byte"
  | notUnicode => "stream did not contain valid UTF-8"
  | other message => message

namespace Path

def isAbsolute (path : String) : Bool :=
  path.toList.head? == some '/'

def join (directory path : String) : String :=
  if isAbsolute path then path
  else if directory.toList.getLast? == some '/' then directory ++ path
  else directory ++ "/" ++ path

def leadsNowhere (name : String) : Bool :=
  name = "" || name = "."

def trimmed (names : List String) : List String :=
  (names.reverse.dropWhile leadsNowhere).reverse

def names (path : String) : List String :=
  trimmed (path.splitOn "/")

def parent? (path : String) : Option String :=
  let names := names path
  if names.isEmpty then none
  else
    let above := trimmed names.dropLast
    some (if above.isEmpty && isAbsolute path then "/" else "/".intercalate above)

def fileName? (path : String) : Option String :=
  (names path).getLast?.filter (· != "..")

end Path

class FileHost (m : Type → Type) where
  workingDirectory : m String
  resolve : String → m (Except FileError String)
  isFile : String → m Bool
  readText : String → m (Except FileError String)
  createDirectories : String → m (Except FileError Unit)
  openFile : String → m Bool
  append : String → String → m Unit
  timestamp : m String

end StreamWindow
