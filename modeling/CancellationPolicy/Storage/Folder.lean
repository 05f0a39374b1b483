import CancellationPolicy.Storage.Path

/-! # Folders

A folder holds files and folders at places. It answers a request as a file system
does: a request that cannot be met has a cause (`Storage.Error`).
-/

namespace CancellationPolicy.Storage

/-! ### Causes -/

/-- Why a request cannot be met. -/
inductive Error where
  /-- There is no file or folder. -/
  | missing
  /-- There is one already. -/
  | present
  /-- Something on the way is no folder. -/
  | notFolder
  /-- A folder stands where a file is asked for. -/
  | isFolder
  /-- A segment or the whole path is too long. -/
  | nameTooLong
  /-- The path holds a null character. -/
  | nullInName
  /-- The content of the file is no text. -/
  | notText
  /-- Another cause. -/
  | other (text : String)
  deriving DecidableEq, Repr

/-- What is said of a cause. -/
def Error.message : Error → String
  | missing => "No such file or directory (os error 2)"
  | present => "File exists (os error 17)"
  | notFolder => "Not a directory (os error 20)"
  | isFolder => "Is a directory (os error 21)"
  | nameTooLong => "File name too long (os error 36)"
  | nullInName => "file name contained an unexpected NUL byte"
  | notText => "stream did not contain valid UTF-8"
  | other text => text

/-! ### Contents -/

/-- What stands at a place. -/
inductive Entry where
  /-- A folder. -/
  | folder
  /-- A file with its content, if that is a text. -/
  | file (content : Option String)
  deriving DecidableEq, Repr

/-- A folder: the text by which it is named from outside, and what is in it, each
place given by the names of the folders around it and its own. -/
structure Folder where
  /-- The path of the folder itself. -/
  root : String
  /-- What is at its places. -/
  entries : List (List String × Entry)
  deriving DecidableEq, Repr

namespace Folder

/-- What stands at a place. -/
def entry? (f : Folder) (place : List String) : Option Entry :=
  if place = [] then some .folder else (f.entries.find? (·.1 = place)).map Prod.snd

/-- Puts something at a place. -/
def put (f : Folder) (place : List String) (e : Entry) : Folder :=
  { f with entries := f.entries.filter (·.1 ≠ place) ++ [(place, e)] }

/-- The proper and non-empty initial parts of a place. -/
def around : List String → List (List String)
  | [] => []
  | [_] => []
  | s :: t :: rest => [s] :: (around (t :: rest)).map (s :: ·)

/-- A folder with files at the given paths. -/
def ofFiles (root : String) (files : List (String × Option String)) : Folder :=
  files.foldl (fun f file =>
    let place := (Path.ofText file.1).segments
    let f := (around place).foldl (fun f p => f.put p .folder) f
    f.put place (.file file.2)) ⟨root, []⟩

/-! ### Places -/

/-- The greatest length of a segment in bytes. -/
def maxSegment : Nat := 255

/-- The length in bytes that a path must not reach. -/
def pathBound : Nat := 4096

/-- The folder that segments lead to from a folder. -/
def walk? (f : Folder) : (place : List String) → List String → Except Error (List String)
  | place, [] => .ok place
  | place, s :: rest =>
    if Path.isHere s then f.walk? place rest
    else if Path.isAround s then f.walk? place.dropLast rest
    else if maxSegment < s.utf8ByteSize then .error .nameTooLong
    else
      match f.entry? (place ++ [s]) with
      | none => .error .missing
      | some .folder => f.walk? (place ++ [s]) rest
      | some (.file _) => .error .notFolder

/-- A place that a path leads to. -/
inductive Target where
  /-- A folder, by a path whose last segment is not its name. -/
  | folder
  /-- A name in a folder, followed by a slash or not. -/
  | named (place : List String) (endsInSlash : Bool)

/-- The path without the path of the folder itself in front; none if it leads
outside. -/
def inside? (f : Folder) (path : String) : Option String :=
  let cs := path.toList
  let root := f.root.toList
  if path = f.root ∨ (root ++ ['/']).isPrefixOf cs then some (String.ofList (cs.drop root.length))
  else if cs.head? = some '/' then none
  else some path

/-- The place that a path leads to. What is outside of the folder is missing. -/
def locate (f : Folder) (path : String) : Except Error Target :=
  if path.toList.contains '\x00' then .error .nullInName
  else if path = "" then .error .missing
  else if pathBound ≤ path.utf8ByteSize then .error .nameTooLong
  else
    match f.inside? path with
    | none => .error .missing
    | some inner =>
      let p := Path.ofText inner
      match p.segments.getLast? with
      | none => .ok .folder
      | some s =>
        match f.walk? [] p.segments.dropLast with
        | .error e => .error e
        | .ok place =>
          if Path.isHere s || Path.isAround s then .ok .folder
          else if maxSegment < s.utf8ByteSize then .error .nameTooLong
          else .ok (.named (place ++ [s]) p.endsInSlash)

/-! ### Requests -/

/-- The content of a file. -/
def read (f : Folder) (path : String) : Except Error String :=
  match f.locate path with
  | .error e => .error e
  | .ok .folder => .error .isFolder
  | .ok (.named place slash) =>
    match f.entry? place with
    | none => .error .missing
    | some .folder => .error .isFolder
    | some (.file content) =>
      if slash then .error .notFolder
      else
        match content with
        | some text => .ok text
        | none => .error .notText

/-- Whether there is something at a path. -/
def holds (f : Folder) (path : String) : Bool :=
  match f.locate path with
  | .error _ => false
  | .ok .folder => true
  | .ok (.named place slash) =>
    match f.entry? place with
    | none => false
    | some .folder => true
    | some (.file _) => !slash

/-- Sets the content of a file. -/
def write (f : Folder) (path text : String) : Except Error Folder :=
  match f.locate path with
  | .error e => .error e
  | .ok .folder => .error .isFolder
  | .ok (.named place slash) =>
    if slash || f.entry? place == some .folder then .error .isFolder
    else .ok (f.put place (.file (some text)))

/-- Makes one folder. -/
def makeFolder (f : Folder) (path : String) : Except Error Folder :=
  match f.locate path with
  | .error e => .error e
  | .ok .folder => .error .present
  | .ok (.named place _) =>
    if (f.entry? place).isSome then .error .present else .ok (f.put place .folder)

/-- Whether there is a folder at a path. -/
def holdsFolder (f : Folder) (path : String) : Bool :=
  match f.locate path with
  | .error _ => false
  | .ok .folder => true
  | .ok (.named place _) => f.entry? place == some .folder

/-- Makes the first of some folders, each of which is in the next one, and those of
the others that are missing. -/
def makeAll (f : Folder) : List String → Except Error Folder
  | [] => .ok f
  | path :: around =>
    match f.makeFolder path with
    | .ok f => .ok f
    | .error .missing =>
      match f.makeAll around with
      | .error e => .error e
      | .ok f =>
        match f.makeFolder path with
        | .ok f => .ok f
        | .error e => if f.holdsFolder path then .ok f else .error e
    | .error e => if f.holdsFolder path then .ok f else .error e

/-- The paths of the folders around a path, the innermost first. -/
def foldersAround (path : String) : List String :=
  let start := if path.toList.head? = some '/' then "/" else ""
  (around (Path.ofText path).steps).reverse.map fun ss => start ++ "/".intercalate ss

/-- Makes the folders around a path that are missing. -/
def makeFoldersAround (f : Folder) (path : String) : Except Error Folder :=
  f.makeAll (foldersAround path)

end Folder

end CancellationPolicy.Storage
