import StreamWindow.Toml.Scalar
import StreamWindow.Toml.Strings
import StreamWindow.Toml.Table

/-! Reading a TOML document into the map that it describes, and finding the parts of that map in
the document again. -/

namespace StreamWindow.Toml

open Text (Region)

def deepest : Nat := 80

def isBareKeyChar (char : Char) : Bool :=
  char.isAlphanum || char == '_' || char == '-'

def simpleKey? (source : List Char) : Option (Key × List Char) :=
  let bare := source.takeWhile isBareKeyChar
  let ending := source.dropWhile isBareKeyChar
  if bare.isEmpty then
    (lineString? .basic source <|> lineString? .literal source).map fun (name, rest) =>
      (⟨String.ofList name, ⟨source, rest⟩⟩, rest)
  else some (⟨String.ofList bare, ⟨source, ending⟩⟩, ending)

def keyParts? : Nat → List Char → Option (List Key × List Char)
  | 0, _ => none
  | count + 1, source => do
      let (first, rest) ← simpleKey? (skipBlanks source)
      match skipBlanks rest with
      | '.' :: rest => do
          let (parts, rest) ← keyParts? count rest
          return (first :: parts, rest)
      | rest => return ([first], rest)

def key? (source : List Char) : Option ((List Key × Key) × List Char) := do
  let (parts, rest) ← keyParts? deepest source
  let key ← parts.getLast?
  return ((parts.dropLast, key), rest)

mutual

/-- Reads a value in which arrays and inline tables nest at most as deep as given. The count
bounds the steps. -/
def value? : Nat → Nat → List Char → Option (Node × List Char)
  | 0, _, _ => none
  | count + 1, depth, source =>
      match source with
      | '[' :: rest => do
          guard (0 < depth)
          let (items, rest) ← items? count (depth - 1) (skipAll rest)
          return (.array ⟨source, rest⟩ items, rest)
      | '\x7b' :: rest => do
          guard (0 < depth)
          let (entries, rest) ← members? count (depth - 1) [] (skipAll rest)
          return (.table ⟨source, rest⟩ .inline entries, rest)
      | _ => do
          let quoted := (string? source).map fun (text, rest) =>
            (Data.text (String.ofList text), rest)
          let (data, rest) ← quoted.or (readScalar? source)
          return (.leaf ⟨source, rest⟩ data, rest)

def items? : Nat → Nat → List Char → Option (List Node × List Char)
  | 0, _, _ => none
  | count + 1, depth, source =>
      match source with
      | ']' :: rest => some ([], rest)
      | _ => do
          let (first, rest) ← value? count depth source
          match skipAll rest with
          | ',' :: rest => do
              let (items, rest) ← items? count depth (skipAll rest)
              return (first :: items, rest)
          | ']' :: rest => return ([first], rest)
          | _ => none

def members? : Nat → Nat → Entries → List Char → Option (Entries × List Char)
  | 0, _, _, _ => none
  | count + 1, depth, entries, source =>
      match source with
      | '\x7d' :: rest => some (entries, rest)
      | _ => do
          let ((path, key), rest) ← key? source
          let rest ← mark? '=' (skipAll rest)
          let (value, rest) ← value? count depth (skipAll rest)
          let entries ← assign path key value entries
          match skipAll rest with
          | ',' :: rest => members? count depth entries (skipAll rest)
          | '\x7d' :: rest => return (entries, rest)
          | _ => none

end

structure Progress where
  entries : Entries := []
  current : List Key := []

def expression? (count : Nat) (progress : Progress) (source : List Char) :
    Option (Progress × List Char) :=
  let source := skipBlanks source
  match source with
  | '[' :: '[' :: rest => do
      let ((path, key), rest) ← key? rest
      let rest ← mark? ']' rest >>= mark? ']'
      return (⟨← appendTable ⟨source, rest⟩ path key progress.entries, path ++ [key]⟩, rest)
  | '[' :: rest => do
      let ((path, key), rest) ← key? rest
      let rest ← mark? ']' rest
      return (⟨← openTable ⟨source, rest⟩ path key progress.entries, path ++ [key]⟩, rest)
  | _ =>
      match skipComment source with
      | [] => some (progress, [])
      | next =>
          if (newline? next).isSome then some (progress, next)
          else do
            let ((path, key), rest) ← key? next
            let rest ← mark? '=' rest
            let (value, rest) ← value? count deepest (skipBlanks rest)
            let entries ← inCurrent (assign path key value) progress.current progress.entries
            return ({ progress with entries }, rest)

def lines? (count : Nat) : Nat → Progress → List Char → Option Progress
  | _, progress, [] => some progress
  | 0, _, _ => none
  | more + 1, progress, source => do
      let (progress, rest) ← expression? count progress source
      lines? count more progress (← lineEnd? rest)

structure Document where
  source : List Char
  entries : Entries

def document? (text : String) : Option Document :=
  let source := text.toList
  let body := if source.head? = some '\ufeff' then source.tail else source
  let size := body.length + 1
  (lines? (2 * size) size {} body).map fun progress => ⟨source, progress.entries⟩

namespace Document

def data (document : Document) : List (String × Data) :=
  byName (entriesToData document.entries)

def regionAt? (atKey : Bool) : List Data.Step → Entries → List Node → Option Region
  | [], _, _ => none
  | .entry name :: path, entries, _ => do
      let (key, node) ← entries.find? fun entry => entry.1.name = name
      if path.isEmpty then return if atKey then key.region else node.region
      else regionAt? atKey path node.entries node.items
  | .item index :: path, _, items => do
      let node ← items[index]?
      if path.isEmpty then return node.region
      else regionAt? atKey path node.entries node.items

def excerpt (document : Document) (place : Data.Place) : String :=
  match regionAt? place.atKey place.path document.entries [] with
  | some region => region.excerpt document.source "TOML parse error"
  | none => ""

end Document

end StreamWindow.Toml
