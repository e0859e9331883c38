/-
Files by their paths. A file system answers a path with the bytes of a file or with the reason why it
does not; `FileTree` is one that is held in memory.
-/
import MultiCluster.Text.Cut
import MultiCluster.Text.Utf8
namespace MultiCluster

/-- Why a file cannot be read. -/
inductive ReadFault where
  | missing
  | notDirectory
  | isDirectory
  | nameTooLong
  | nulInPath
  | notText
  /-- Any other reason, in the words of the operating system. -/
  | other (message : String)
  deriving DecidableEq

def ReadFault.message : ReadFault → String
  | .missing => "No such file or directory (os error 2)"
  | .notDirectory => "Not a directory (os error 20)"
  | .isDirectory => "Is a directory (os error 21)"
  | .nameTooLong => "File name too long (os error 36)"
  | .nulInPath => "file name contained an unexpected NUL byte"
  | .notText => "stream did not contain valid UTF-8"
  | .other message => message

abbrev Bytes := List UInt8

/-- A file system, as it answers paths. -/
structure Files where
  read : String → Except ReadFault Bytes

namespace Files

/-- The text of a file, whose bytes have to be well-formed. -/
def readText (fs : Files) (path : String) : Except ReadFault String := do
  match Text.decode? (← fs.read path) with
  | some text => return text
  | none => throw .notText

/-- Something is there under the path. -/
def contains (fs : Files) (path : String) : Bool :=
  match fs.read path with
  | .ok _ => true
  | .error .isDirectory => true
  | .error _ => false

end Files

/-- Files in memory, each under the names of its directories and its own. -/
structure FileTree where
  entries : List (List String × Bytes)

namespace FileTree

inductive Node where
  | file (bytes : Bytes)
  | directory
  | nothing

def names (path : String) : List String := (Text.split '/' path.toList).map String.ofList

/-- The names that count: neither empty nor the directory itself. -/
def ofList (files : List (String × Bytes)) : FileTree :=
  ⟨files.map fun f => ((names f.1).filter fun n => n ≠ "" && n ≠ ".", f.2)⟩

def node (t : FileTree) (place : List String) : Node :=
  match t.entries.find? fun e => e.1 == place with
  | some e => .file e.2
  | none =>
    if place.isEmpty || t.entries.any fun e => place.isPrefixOf e.1 then .directory else .nothing

/-- Walks the names of a path from a place. -/
def walk (t : FileTree) (place : List String) : List String → Except ReadFault Bytes
  | [] =>
    match t.node place with
    | .file bytes => .ok bytes
    | .directory => .error .isDirectory
    | .nothing => .error .missing
  | n :: r =>
    match t.node place with
    | .nothing => .error .missing
    | .file _ => .error .notDirectory
    | .directory =>
      if n = "" ∨ n = "." then walk t place r
      else if n = ".." then walk t place.dropLast r
      else if n.utf8ByteSize > 255 then .error .nameTooLong
      else walk t (place ++ [n]) r

def read (t : FileTree) (path : String) : Except ReadFault Bytes :=
  if '\x00' ∈ path.toList then .error .nulInPath
  else if path.isEmpty ∨ path.startsWith "/" then .error .missing
  else if path.utf8ByteSize > 4095 then .error .nameTooLong
  else t.walk [] (names path)

def files (t : FileTree) : Files := ⟨t.read⟩

end FileTree

end MultiCluster
