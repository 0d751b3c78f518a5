import DocLedger.Engine.Child
import DocLedger.Index.Reader

/-!
# Files

A host has a tree of files and a directory in which the program works.  A path
is looked up part by part, from the root or from a directory.
-/

namespace DocLedger.Host

open Engine (Bytes)

/-- What lies at a place in the tree. -/
inductive Entry
  | directory
  | file (bytes : Bytes) (executable : Bool)
  | index (db : Index.Database)
deriving Repr

abbrev Place := List String

/-- The files of a host. -/
structure Files where
  home : Place
  entries : List (Place × Entry)
deriving Repr

/-- What the look-up of a path finds. -/
inductive Found
  | missing
  /-- A part of the path that is followed by another one is no directory. -/
  | blocked
  | entry (place : Place) (e : Entry)
deriving Repr

/-- The parts of a path: empty ones and single dots name no part. -/
def parts (path : String) : List String :=
  ((path.toList.splitOn '/').map String.ofList).filter fun part => part != "" && part != "."

def isAbsolute (path : String) : Bool := path.startsWith "/"

/-- The directory above is named by two dots; any other part names what lies in
the directory. -/
def enterPart (place : Place) (part : String) : Place :=
  if part == ".." then place.dropLast else place ++ [part]

/-- The place that a path names from a directory, without a look at the files. -/
def placeOf (start : Place) (path : String) : Place :=
  (parts path).foldl enterPart (if isAbsolute path then [] else start)

namespace Files

/-- What lies at a place.  A directory is there when something lies in it. -/
def get? (files : Files) (place : Place) : Option Entry :=
  match files.entries.find? fun entry => entry.1 == place with
  | some (_, e) => some e
  | none =>
    if place.isPrefixOf files.home || files.entries.any fun entry => place.isPrefixOf entry.1
    then some .directory else none

/-- Follow the parts of a path from a directory. -/
def walk (files : Files) (place : Place) : List String → Found
  | [] =>
    match files.get? place with
    | some e => .entry place e
    | none => .missing
  | part :: rest =>
    match files.get? place with
    | some .directory =>
      files.walk (enterPart place part) rest
    | some _ => .blocked
    | none => .missing

/-- Look up a path from a directory.  A path that ends in a slash has to name a
directory. -/
def find (files : Files) (base : Place) (path : String) : Found :=
  if path == "" then .missing
  else
    match files.walk (if isAbsolute path then [] else base) (parts path) with
    | .entry place .directory => .entry place .directory
    | .entry place e => if path.endsWith "/" then .blocked else .entry place e
    | other => other

/-- A path as it is shown: without empty parts and single dots. -/
def normalPath (path : String) : String :=
  let body := Text.joined "/" (parts path)
  if isAbsolute path then "/" ++ body else if body == "" then "." else body

def read (files : Files) (path : String) : Except Fault Bytes :=
  if path.contains (Char.ofNat 0) then .error .nulByte
  else
    match files.find files.home path with
    | .missing => .error (.os (.notFound path))
    | .blocked => .error (.os (.notDirectory path))
    | .entry _ .directory => .error (.os (.directory path))
    | .entry _ (.file bytes _) => .ok bytes
    | .entry _ (.index _) => .ok []

def index (files : Files) (path : String) : Index.Contents :=
  match files.find files.home path with
  | .entry _ (.index db) => .file (.database db)
  | .entry _ .directory => .directory
  | .entry _ (.file bytes _) => .file (if bytes.isEmpty then .database ⟨[]⟩ else .notDatabase)
  | _ => .missing

end Files

end DocLedger.Host
