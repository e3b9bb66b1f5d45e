import StreamWindow.Text.Digits

/-! Layout and strings of a TOML document. -/

namespace StreamWindow.Toml

def isBlankChar (char : Char) : Bool :=
  char == ' ' || char == '\t'

def isTextChar (char : Char) : Bool :=
  char == '\t' || (0x20 ≤ char.toNat && char.toNat != 0x7F)

def skipBlanks (source : List Char) : List Char :=
  source.dropWhile isBlankChar

def newline? : List Char → Option (List Char)
  | '\n' :: rest => some rest
  | '\r' :: '\n' :: rest => some rest
  | _ => none

def skipComment : List Char → List Char
  | '#' :: rest => rest.dropWhile isTextChar
  | source => source

def lineEnd? (source : List Char) : Option (List Char) :=
  match skipComment (skipBlanks source) with
  | [] => some []
  | rest => newline? rest

/-- Skips blanks, comments and line ends; the text may start in the middle of a comment. -/
def skipLayout (inComment : Bool) : List Char → List Char
  | [] => []
  | '\n' :: rest => skipLayout false rest
  | '\r' :: '\n' :: rest => skipLayout false rest
  | char :: rest =>
      if inComment then if isTextChar char then skipLayout true rest else char :: rest
      else if isBlankChar char then skipLayout false rest
      else if char = '#' then skipLayout true rest
      else char :: rest

def skipAll (source : List Char) : List Char :=
  skipLayout false source

def codePoint? (width : Nat) (source : List Char) : Option (Char × List Char) := do
  let digits := source.take width
  guard (digits.length = width)
  return (← Text.coded? digits, source.drop width)

def escape? : List Char → Option (Char × List Char)
  | 'b' :: rest => some ('\x08', rest)
  | 't' :: rest => some ('\t', rest)
  | 'n' :: rest => some ('\n', rest)
  | 'f' :: rest => some ('\x0c', rest)
  | 'r' :: rest => some ('\r', rest)
  | 'e' :: rest => some ('\x1b', rest)
  | '"' :: rest => some ('"', rest)
  | '\\' :: rest => some ('\\', rest)
  | 'x' :: rest => codePoint? 2 rest
  | 'u' :: rest => codePoint? 4 rest
  | 'U' :: rest => codePoint? 8 rest
  | _ => none

def skipBlankLines : List Char → List Char
  | '\r' :: '\n' :: rest => skipBlankLines rest
  | char :: rest => if isBlankChar char || char == '\n' then skipBlankLines rest else char :: rest
  | [] => []

/-- A backslash at the end of a line takes the line end and all layout after it away. -/
def joinLines? (source : List Char) : Option (List Char) :=
  (newline? (skipBlanks source)).map skipBlankLines

structure Quoting where
  quote : Char
  escapes : Bool
  multiline : Bool

def Quoting.basic : Quoting := ⟨'"', true, false⟩

def Quoting.literal : Quoting := ⟨'\'', false, false⟩

def lineBody? (quoting : Quoting) : Nat → List Char → List Char → Option (List Char × List Char)
  | 0, _, _ => none
  | _ + 1, _, [] => none
  | count + 1, done, char :: rest =>
      if char = quoting.quote then some (done.reverse, rest)
      else if quoting.escapes && char = '\\' then do
        let (escaped, rest) ← escape? rest
        lineBody? quoting count (escaped :: done) rest
      else if isTextChar char then lineBody? quoting count (char :: done) rest
      else none

/-- The body of a string of several lines, which keep their ends as they are. Up to two quotes
may stand before the closing ones. -/
def linesBody? (quoting : Quoting) : Nat → List Char → List Char → Option (List Char × List Char)
  | 0, _, _ => none
  | _ + 1, _, [] => none
  | count + 1, done, char :: rest =>
      if char = quoting.quote then
        let quotes := ((char :: rest).takeWhile (· = quoting.quote)).length
        if quotes < 3 then linesBody? quoting count (char :: done) rest
        else
          let inner := min (quotes - 3) 2
          some ((List.replicate inner char ++ done).reverse, (char :: rest).drop (inner + 3))
      else if quoting.escapes && char = '\\' then
        match joinLines? rest with
        | some next => linesBody? quoting count done next
        | none => do
            let (escaped, rest) ← escape? rest
            linesBody? quoting count (escaped :: done) rest
      else if isTextChar char || char = '\n' then
        linesBody? quoting count (char :: done) rest
      else
        match char :: rest with
        | '\r' :: '\n' :: next => linesBody? quoting count ('\n' :: '\r' :: done) next
        | _ => none

def lineString? (quoting : Quoting) (source : List Char) : Option (List Char × List Char) :=
  match source with
  | char :: rest =>
      if char = quoting.quote then
        lineBody? quoting ((rest.takeWhile (· != '\n')).length + 1) [] rest
      else none
  | [] => none

def linesString? (quoting : Quoting) (source : List Char) : Option (List Char × List Char) :=
  if source.take 3 = List.replicate 3 quoting.quote then
    let body := (newline? (source.drop 3)).getD (source.drop 3)
    linesBody? quoting (body.length + 1) [] body
  else none

def string? (source : List Char) : Option (List Char × List Char) :=
  linesString? .basic source <|> linesString? .literal source <|>
    lineString? .basic source <|> lineString? .literal source

end StreamWindow.Toml
