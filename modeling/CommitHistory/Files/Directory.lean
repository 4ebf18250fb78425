/-
# A directory of files

A program names files from its working directory or, by an absolute path, from the
root. A path is followed name by name; two dots lead upwards, and a file in the middle
of a path is no directory. How far the working directory lies below the root is not
known, so a file that both can name is found only by the one that it is kept under.

## Main definitions

* `Files.Place` — where a path leads.
* `Files.Directory` — the files around a working directory.
* `Files.Directory.look` — what a path leads to.
* `Files.Directory.nearest?` — the file with a name that lies nearest above.
* `Files.Directory.read`, `Files.Directory.write` — contents, or the system's reason
  why there are none.
-/

import CommitHistory.Files.Path
import CommitHistory.Text.Utf8

namespace CommitHistory.Files

open Text

/-- Why the system refuses to follow, read or write a path. -/
inductive Refusal where
  | missing
  | notADirectory
  | isADirectory
  | denied
  | tooLong
  /-- The path holds the null character, so that the system cannot even be asked. -/
  | notAPath
deriving DecidableEq, Repr

/-- The wording of the system. -/
def Refusal.message : Refusal → String
  | .missing => "No such file or directory (os error 2)"
  | .notADirectory => "Not a directory (os error 20)"
  | .isADirectory => "Is a directory (os error 21)"
  | .denied => "Permission denied (os error 13)"
  | .tooLong => "File name too long (os error 36)"
  | .notAPath => "file name contained an unexpected NUL byte"

/-- A file with its bytes, or a directory. -/
inductive Entry where
  | file (bytes : List UInt8)
  | directory
deriving DecidableEq, Repr

/-- The name that leads upwards. -/
def upwards : List Char := ['.', '.']

/-- Where names are followed from: the root, or so many steps above the working directory. -/
inductive Base where
  | root
  | above (steps : Nat)
deriving DecidableEq, Repr

/-- The names that stand for a base. No name in a path is empty, so the empty one is left for the
root. -/
def Base.names : Base → List (List Char)
  | .root => [[]]
  | .above steps => List.replicate steps upwards

/-- A place: downwards from a base through names. -/
structure Place where
  base : Base
  names : List (List Char)
deriving DecidableEq, Repr

namespace Place

/-- The working directory itself. -/
def here : Place := ⟨.above 0, []⟩

/-- All names that lead to a place. -/
def route (place : Place) : List (List Char) := place.base.names ++ place.names

/-- One step from a directory. The root has nothing above it. -/
def next (place : Place) (name : List Char) : Place :=
  if name = upwards then
    match place with
    | ⟨.root, []⟩ => place
    | ⟨.above steps, []⟩ => ⟨.above (steps + 1), []⟩
    | ⟨base, names⟩ => ⟨base, names.dropLast⟩
  else { place with names := place.names ++ [name] }

/-- Where a path begins that is followed from a place. -/
def origin (start : Place) (path : String) : Place :=
  if isAbsolute path then ⟨.root, []⟩ else start

/-- The place that a path leads to if there are directories all the way. -/
def ofPath (path : String) : Place := (parts path).foldl next (here.origin path)

end Place

/-- The files around a working directory, each under the names that lead to it. Of two entries
for the same names the later one, which stands first, counts. -/
structure Directory where
  entries : List (List (List Char) × Entry)
deriving DecidableEq, Repr

namespace Directory

/-- The directory without files. -/
def empty : Directory := ⟨[]⟩

/-- What there is under names. A directory exists as soon as something below it does. -/
def under? (files : Directory) (names : List (List Char)) : Option Entry :=
  (files.entries.lookup names).or <|
    if files.entries.any fun entry => names.isPrefixOf entry.1 then some .directory else none

/-- What there is at a place. The bases are directories. -/
def at? (files : Directory) (place : Place) : Option Entry :=
  if place.names.isEmpty then some .directory else files.under? place.route

/-- How many bytes a name may have. -/
def nameLimit : Nat := 255

/-- How many bytes a path may have. -/
def pathLimit : Nat := 4095

/-- How many bytes a text has. -/
def sizeOf (text : List Char) : Nat := (Utf8.encode text).length

/-- Follows names from a place. Every place on the way must be a directory. -/
def follow (files : Directory) : Place → List (List Char) → Except Refusal Place
  | place, [] => .ok place
  | place, name :: rest =>
    match files.at? place with
    | none => .error .missing
    | some (.file _) => .error .notADirectory
    | some .directory =>
      if nameLimit < sizeOf name then .error .tooLong
      else files.follow (place.next name) rest

/-- Whether a path can only be a directory: it ends in a slash or in a dot. -/
def wantsDirectory (path : String) : Bool :=
  match (splitOn '/' path.toList).getLast? with
  | some [] => true
  | some ['.'] => true
  | _ => false

/-- The place that a path leads to from a directory, which need not exist. An absolute path is
followed from the root. -/
def placeFrom (files : Directory) (start : Place) (path : String) : Except Refusal Place :=
  if path.isEmpty then .error .missing
  else if path.toList.contains '\x00' then .error .notAPath
  else if pathLimit < sizeOf path.toList then .error .tooLong
  else files.follow (start.origin path) (parts path)

/-- What a path leads to from a directory. -/
def lookFrom (files : Directory) (start : Place) (path : String) : Except Refusal Entry := do
  let place ← files.placeFrom start path
  match files.at? place with
  | none => .error .missing
  | some .directory => .ok .directory
  | some (.file bytes) => if wantsDirectory path then .error .notADirectory else .ok (.file bytes)

/-- What a path leads to. -/
def look (files : Directory) (path : String) : Except Refusal Entry :=
  files.lookFrom .here path

/-- Whether a path leads to something. -/
def exists? (files : Directory) (path : String) : Bool := (files.look path).isOk

/-- The bytes of the file that a path leads to. -/
def read (files : Directory) (path : String) : Except Refusal (List UInt8) := do
  match ← files.look path with
  | .directory => .error .isADirectory
  | .file bytes => .ok bytes

/-- The bytes of the file with a name so many steps above the working directory. -/
def fileAbove? (files : Directory) (name : List Char) (steps : Nat) : Option (List UInt8) :=
  match files.at? ⟨.above steps, [name]⟩ with
  | some (.file bytes) => some bytes
  | _ => none

/-- How far up entries may be: an entry is not further up than it has names. -/
def reach (files : Directory) : Nat := (files.entries.map (·.1.length)).max?.getD 0

/-- The bytes of the file with a name in the working directory or, if it has none, in the nearest
directory above that has one. -/
def nearest? (files : Directory) (name : List Char) : Option (List UInt8) := do
  let steps ← (List.range (files.reach + 1)).find? fun steps => (files.fileAbove? name steps).isSome
  files.fileAbove? name steps

/-- Puts an entry under names. -/
def put (files : Directory) (names : List (List Char)) (entry : Entry) : Directory :=
  ⟨(names, entry) :: files.entries⟩

/-- The directory with a file in which a path's file has the given bytes. A file can be made only
in a directory that exists. -/
def write (files : Directory) (path : String) (bytes : List UInt8) : Except Refusal Directory := do
  let place ← files.placeFrom .here path
  match files.at? place with
  | some .directory => .error .isADirectory
  | some (.file _) =>
    if wantsDirectory path then .error .notADirectory
    else .ok (files.put place.route (.file bytes))
  | none =>
    match files.at? { place with names := place.names.dropLast } with
    | none => .error .missing
    | some (.file _) => .error .notADirectory
    | some .directory =>
      if wantsDirectory path then .error .isADirectory
      else .ok (files.put place.route (.file bytes))

end Directory

end CommitHistory.Files
