import Fulltext.Fault
import Fulltext.Path

namespace Fulltext.Log

/-- A place as the names that lead to it from the working directory. A place outside it starts with
the root `/` or with a step up. -/
abbrev Location := List String

/-- Directories and files that have been made, and the text in each file. -/
structure FileTree where
  dirs : List Location := []
  files : List (Location × String) := []
  deriving DecidableEq, Repr

/-- Longest name of a file or a directory, in bytes. -/
def nameLimit : Nat := 255

/-- Longest path, in bytes. -/
def pathLimit : Nat := 4095

namespace Location

/-- One step up; above the working directory and above the root every step up counts. -/
def up (l : Location) : Location :=
  match l.getLast? with
  | none => [".."]
  | some ".." => l ++ [".."]
  | some "/" => l
  | some _ => l.dropLast

def down (l : Location) (part : String) : Location := if part = ".." then l.up else l ++ [part]

/-- The place that a path names if every name on it is taken for a directory. -/
def ofPath (p : Path) : Location :=
  p.parts.foldl down (if p.slashes = 0 then [] else ["/"])

end Location

namespace FileTree

/-- The working directory, the root and what is above the working directory are always there. -/
def isDir (t : FileTree) (l : Location) : Bool :=
  l == ["/"] || l.all (· == "..") || t.dirs.contains l

def isFile (t : FileTree) (l : Location) : Bool := t.files.any (·.1 == l)

/-- One name of a path that goes on below it. -/
def enter (t : FileTree) (l : Location) (part : String) : Except FileFault Location :=
  let m := l.down part
  if part = ".." then .ok m
  else if nameLimit < part.utf8ByteSize then .error .nameTooLong
  else if t.isDir m then .ok m
  else if t.isFile m then .error .notADirectory
  else .error .missing

def enterAll (t : FileTree) (l : Location) : List String → Except FileFault Location
  | [] => .ok l
  | part :: parts => do t.enterAll (← t.enter l part) parts

def start (p : Path) : Location := if p.slashes = 0 then [] else ["/"]

/-- Make one directory whose parent is there. -/
def makeDir (t : FileTree) (p : Path) : Except FileFault FileTree := do
  if p.text.toList.contains '\x00' then throw .nulInPath
  if pathLimit < p.text.utf8ByteSize then throw .nameTooLong
  match p.parts.getLast? with
  | none => throw .occupied
  | some name =>
    let parent ← t.enterAll (start p) p.parts.dropLast
    let l := parent.down name
    if name = ".." then throw .occupied
    if nameLimit < name.utf8ByteSize then throw .nameTooLong
    if t.isDir l || t.isFile l then throw .occupied
    return { t with dirs := t.dirs ++ [l] }

/-- A place that is there already will do if it is a directory. -/
def makeDirOrKeep (t : FileTree) (p : Path) : Except FileFault FileTree :=
  match t.makeDir p with
  | .error .nulInPath => .error .nulInPath
  | .error f =>
    match t.enterAll (start p) p.parts with
    | .ok _ => .ok t
    | .error _ => .error f
  | .ok t => .ok t

/-- Make a directory and the missing ones above it, given the names from the last to the first. What
has been made stays made if a later one cannot be. -/
def makeDirs (t : FileTree) (slashes : Nat) : List String → Except FileFault Unit × FileTree
  | [] =>
    match t.makeDirOrKeep ⟨slashes, []⟩ with
    | .ok t' => (.ok (), t')
    | .error f => (.error f, t)
  | name :: above =>
    let p : Path := ⟨slashes, (name :: above).reverse⟩
    let again := fun (t : FileTree) =>
      match t.makeDirOrKeep p with
      | .ok t' => ((.ok () : Except FileFault Unit), t')
      | .error f => (.error f, t)
    match t.makeDir p with
    | .error .missing =>
      match t.makeDirs slashes above with
      | (.ok (), t) => again t
      | (.error f, t) => (.error f, t)
    | _ => again t

/-- Open a file for appending; one that is not there is made empty. Steps up are taken as written,
before any name is looked up. -/
def openFile (t : FileTree) (p : Path) : Except FileFault (Location × FileTree) := do
  let l := Location.ofPath p
  if p.text.toList.contains '\x00' then throw .nulInPath
  if pathLimit < p.text.utf8ByteSize then throw .nameTooLong
  match l.getLast? with
  | none => throw .isADirectory
  | some name =>
    let _ ← t.enterAll (start p) (l.dropLast.drop (start p).length)
    if nameLimit < name.utf8ByteSize then throw .nameTooLong
    if t.isDir l then throw .isADirectory
    if t.isFile l then return (l, t)
    return (l, { t with files := t.files ++ [(l, "")] })

def append (t : FileTree) (l : Location) (text : String) : FileTree :=
  { t with files := t.files.map fun f => if f.1 = l then (f.1, f.2 ++ text) else f }

def contents? (t : FileTree) (l : Location) : Option String :=
  (t.files.find? (·.1 == l)).map (·.2)

end FileTree

end Fulltext.Log
