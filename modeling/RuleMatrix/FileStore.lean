import RuleMatrix.Text.Pieces

/-!
Paths and the names in them are bytes, which need not be text. Walking a path checks that each step
starts in a directory, so a file name followed by a slash is refused.
-/
set_option autoImplicit false

namespace RuleMatrix

-- The one of the two in the libraries that is there without further imports.
instance (priority := 2000) decideBytes : DecidableEq ByteArray := ByteArray.instDecidableEq

inductive FileError where
  | notFound
  | notDirectory
  | isDirectory
  | nameTooLong
  | nulInName
  | notText
deriving DecidableEq

def FileError.message : FileError → String
  | .notFound => "No such file or directory (os error 2)"
  | .notDirectory => "Not a directory (os error 20)"
  | .isDirectory => "Is a directory (os error 21)"
  | .nameTooLong => "File name too long (os error 36)"
  | .nulInName => "file name contained an unexpected NUL byte"
  | .notText => "stream did not contain valid UTF-8"

abbrev Location := List ByteArray

inductive Entry where
  | directory
  | file (content : ByteArray)

structure FileStore where
  workingDirectory : Location
  entries : List (Location × Entry)

namespace FileStore

def entry? (store : FileStore) (place : Location) : Option Entry :=
  match place with
  | [] => some .directory
  | place => store.entries.lookup place

def setEntry (place : Location) (entry : Entry) :
    List (Location × Entry) → List (Location × Entry)
  | [] => [(place, entry)]
  | (known, old) :: rest =>
      if known = place then (known, entry) :: rest else (known, old) :: setEntry place entry rest

def set (store : FileStore) (place : Location) (entry : Entry) : FileStore :=
  { store with entries := setEntry place entry store.entries }

def slash : UInt8 := '/'.toUInt8

def pieces (path : ByteArray) : List ByteArray :=
  (Text.piecesOf slash path.data.toList).map fun name => ⟨name.toArray⟩

def names (path : ByteArray) : Except FileError (List ByteArray) :=
  if path.data.toList.contains 0 then .error .nulInName
  else if path.isEmpty then .error .notFound
  else if 4096 ≤ path.size then .error .nameTooLong
  else .ok (pieces path)

def isAbsolute (path : ByteArray) : Bool := [slash].isPrefixOf path.data.toList

def start (store : FileStore) (path : ByteArray) : Location :=
  if isAbsolute path then [] else store.workingDirectory

def step (here : Location) (name : ByteArray) : Location :=
  if name = "".toUTF8 ∨ name = ".".toUTF8 then here
  else if name = "..".toUTF8 then here.dropLast
  else here ++ [name]

def checkDirectory (store : FileStore) (here : Location) : Except FileError Unit :=
  match store.entry? here with
  | some .directory => .ok ()
  | some (.file _) => .error .notDirectory
  | none => .error .notFound

def walk (store : FileStore) (here : Location) : List ByteArray → Except FileError Location
  | [] => .ok here
  | name :: rest => do
      store.checkDirectory here
      if 255 < name.size then .error .nameTooLong
      else walk store (step here name) rest

def find (store : FileStore) (path : ByteArray) : Except FileError Entry := do
  let place ← store.walk (store.start path) (← names path)
  match store.entry? place with
  | some entry => .ok entry
  | none => .error .notFound

def read (store : FileStore) (path : ByteArray) : Except FileError ByteArray := do
  match ← store.find path with
  | .file content => .ok content
  | .directory => .error .isDirectory

def readText (store : FileStore) (path : ByteArray) : Except FileError String := do
  let content ← store.read path
  match String.fromUTF8? content with
  | some text => .ok text
  | none => .error .notText

def dropSlashes (names : List ByteArray) : List ByteArray :=
  (names.reverse.dropWhile (· = "".toUTF8)).reverse

-- Where a file may be created or added to. A name that can only be a directory's is refused once
-- the way to it is found.
def target (store : FileStore) (path : ByteArray) : Except FileError Location := do
  let given ← names path
  let significant := dropSlashes given
  let parent ← store.walk (store.start path) significant.dropLast
  store.checkDirectory parent
  match significant.getLast? with
  | none => .error .isDirectory
  | some name =>
      if significant.length < given.length || name = ".".toUTF8 || name = "..".toUTF8 then
        .error .isDirectory
      else if 255 < name.size then .error .nameTooLong
      else .ok (parent ++ [name])

def append (store : FileStore) (path content : ByteArray) :
    Except FileError FileStore := do
  let place ← store.target path
  match store.entry? place with
  | some .directory => .error .isDirectory
  | some (.file old) => .ok (store.set place (.file (old ++ content)))
  | none => .ok (store.set place (.file content))

-- The path from the root: a relative one is put behind the working directory unchanged.
def absolute (store : FileStore) (path : ByteArray) : ByteArray :=
  if isAbsolute path then path
  else store.workingDirectory.foldr (fun name behind => "/".toUTF8 ++ name ++ behind)
    ("/".toUTF8 ++ path)

def addDirectory (store : FileStore) (place : Location) : FileStore :=
  (List.range place.length).foldl
    (fun made count => made.set (place.take (count + 1)) .directory) store

def inDirectory (path : ByteArray) : FileStore :=
  let place := (pieces path).foldl step []
  addDirectory ⟨place, []⟩ place

def locate (store : FileStore) (path : ByteArray) : Location :=
  (pieces path).foldl step (store.start path)

def withDirectory (store : FileStore) (path : ByteArray) : FileStore :=
  store.addDirectory (store.locate path)

def withFile (store : FileStore) (path content : ByteArray) : FileStore :=
  let place := store.locate path
  (store.addDirectory place.dropLast).set place (.file content)

end FileStore

end RuleMatrix
