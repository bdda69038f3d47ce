import ShardFleet.Failure

/-!
# Files

Files are kept by their paths. A name is a path from the working directory, or from the root if
it begins with a slash: empty parts and single dots lead nowhere else, and two dots lead one
level up. Some directories are there everywhere, and one file, the empty one at `/dev/null`;
whatever is written to it is gone.
-/

namespace ShardFleet

/-- The parts that lead from the root to a place. -/
abbrev Path := List String

structure Files where
  contents : List (Path × List Char) := []

namespace Files

/-- The path of the working directory. No part of a name is empty, so no other path leads there. -/
def home : Path := ["tmp", ""]

/-- The directories below the root that are there everywhere. -/
def rootDirectories : List String :=
  ["bin", "boot", "dev", "etc", "home", "lib", "media", "mnt", "opt", "proc", "root", "run", "sbin",
    "srv", "sys", "tmp", "usr", "var"]

def isDirectory (path : Path) : Bool :=
  path == home ||
    match path with
    | [] => true
    | [part] => rootDirectories.contains part
    | _ => false

/-- The path of the file that is empty everywhere. -/
def emptyFile : Path := ["dev", "null"]

/-- The characters of the file at a path. -/
def contentAt? (files : Files) (path : Path) : Option (List Char) :=
  if path = emptyFile then some [] else files.contents.lookup path

/-- The parts of a path, split at every slash; there is always at least one. -/
def splitSlashes : List Char → List (List Char)
  | [] => [[]]
  | char :: rest =>
      match splitSlashes rest with
      | [] => [[char]]
      | part :: parts => if char = '/' then [] :: part :: parts else (char :: part) :: parts

def partsOf (name : String) : List String := (splitSlashes name.toList).map String.ofList

/-- Whether a part leads nowhere else. -/
def isIdle (part : String) : Bool := part == "" || part == "."

/-- The most octets that one part of a path can have. -/
def partLimit : Nat := 255

/-- The most octets that a whole path can have. -/
def pathLimit : Nat := 4095

/-- How many octets a name has. -/
def size (name : String) : Nat := (Text.nameOctets name).length

/-- Follows the parts of a path from a place on; `missing` is the failure if one of them leads to
nothing. Only a directory can be left. -/
def follow (files : Files) (missing : Failure) : List String → Path → Except Failure Path
  | [], path => .ok path
  | part :: rest, path =>
      if !isDirectory path then .error (.fileUnreadable .notDirectory)
      else if isIdle part then files.follow missing rest path
      else if part = ".." then files.follow missing rest path.dropLast
      else if partLimit < size part then .error (.fileUnreadable .nameTooLong)
      else
        let next := path ++ [part]
        if isDirectory next || (files.contentAt? next).isSome then files.follow missing rest next
        else .error missing

/-- Where a name leads from. -/
def origin (name : String) : Path := if name.startsWith "/" then [] else home

def hasNull (text : String) : Bool := text.toList.contains (Char.ofNat 0)

/-- A name as it is stored, if it can be the name of anything. -/
def usable (name : String) : Except Failure String :=
  match Text.storedName? name with
  | .error halves => .error (.unencodable halves)
  | .ok stored => if hasNull stored then .error .embeddedNull else .ok stored

/-- A name as it is stored, if a file can be opened by it. -/
def openable (name : String) : Except Failure String := do
  let stored ← usable name
  if stored.isEmpty then throw (.fileMissing name)
  if pathLimit < size stored then throw (.fileUnreadable .nameTooLong)
  return stored

/-- The characters of the file that a name leads to. -/
def read (files : Files) (name : String) : Except Failure (List Char) := do
  let stored ← openable name
  let path ← files.follow (.fileMissing name) (partsOf stored) (origin stored)
  match files.contentAt? path with
  | some chars => return chars
  | none => throw (.fileUnreadable .isDirectory)

/-- The least number that is too large for an open file. -/
def numberBound : Int := Nat.pow 2 31

/-- The characters of the file that a value names. A number in range would name a file that is open
already, but no file is. -/
def readNamed (files : Files) : Value → Except Failure (List Char)
  | .text name => files.read name
  | .bool _ => .error (.fileUnreadable .notOpen)
  | .int number =>
      if number < -numberBound || numberBound ≤ number then .error .wrongKind
      else if number < 0 then .error .negativeFileNumber
      else .error (.fileUnreadable .notOpen)
  | _ => .error .wrongKind

/-- Whether a name leads to something once the parts that lead nowhere are left out of it. -/
def holds (files : Files) (name : String) : Except Failure Bool :=
  match usable name with
  | .error _ => .ok false
  | .ok stored =>
      let parts := (partsOf stored).filter (!isIdle ·)
      let shown := (if stored.startsWith "/" then "/" else "") ++ String.intercalate "/" parts
      if pathLimit < size shown then .error (.fileUnreadable .nameTooLong)
      else
        match files.follow (.fileMissing name) parts (origin stored) with
        | .ok _ => .ok true
        | .error (.fileUnreadable .nameTooLong) => .error (.fileUnreadable .nameTooLong)
        | .error _ => .ok false

/-- The path of the file that a name stands for, whether it is there or not. The directory that it
is in has to be there, and it cannot be a directory itself. -/
def target (files : Files) (name : String) : Except Failure Path := do
  let stored ← openable name
  let parts := partsOf stored
  let named := (parts.reverse.dropWhile (· == "")).reverse
  let directory ← files.follow (.fileMissing name) named.dropLast (origin stored)
  if !isDirectory directory then throw (.fileUnreadable .notDirectory)
  let part := named.getLast?.getD ""
  if named.length < parts.length || isIdle part || part = ".." then
    throw (.fileUnreadable .isDirectory)
  if partLimit < size part then throw (.fileUnreadable .nameTooLong)
  let path := directory ++ [part]
  if isDirectory path then throw (.fileUnreadable .isDirectory)
  return path

/-- Writes a file. A text that cannot be stored leaves it empty. -/
def write (files : Files) (name text : String) : Except Failure Unit × Files :=
  match files.target name with
  | .error failure => (.error failure, files)
  | .ok path =>
      let put (chars : List Char) : Files :=
        { files with contents := (path, chars) :: files.contents }
      match Text.stored? text with
      | .ok chars => (.ok (), put chars)
      | .error halves => (.error (.unencodable halves), put [])

end Files

end ShardFleet
