/-
# Directories

A directory holds files and directories under paths. A path is looked up part by
part: what stands before the last part must be a directory, and so must the last
part if a slash or a dot follows it. A path that starts with a slash is looked up
among what every system has. Of what lies above a directory only directories are
known.

Key definitions: `Directory`, `Directory.Found`, `Directory.find`,
`Directory.walk`, `Directory.system`, `Directory.read`.
-/
import AlertReceivers.File.Error

namespace AlertReceivers

/-- What stands under a name: the octets of a file, or nothing for a directory. -/
abbrev FileContent := Option ByteArray

/-- A directory, by the paths of what it holds. -/
abbrev Directory := List (List String × FileContent)

namespace Directory

/-- The parts of a path between slashes. -/
def parts (path : String) : List String := path.splitOn "/"

/-- What a path leads to. -/
inductive Found where
  | file (octets : ByteArray)
  | directory
  | nothing

/-- What stands under the parts of a path. A directory is there as well when
something is in it. -/
def find (d : Directory) (path : List String) : Found :=
  match d.lookup path with
  | some (some octets) => .file octets
  | some none => .directory
  | none => if path = [] ∨ d.any (fun e => path.isPrefixOf e.1) then .directory else .nothing

/-- Whether a part of a path stays where it is. -/
def stays (part : String) : Bool := part == "" || part == "."

/-- What a path that leads out of a directory finds: directories further up, and nothing else. -/
def outside (rest : List String) : FileError :=
  if rest.all fun part => stays part || part == ".." then .directory else .absent

/-- How many octets a part of a path can have. -/
def longestPart : Nat := 255

/-- How many octets a path can have. -/
def longestPath : Nat := 4095

/-- Follows the parts of a path, from the directory with the path `here`. Nothing is
above the topmost directory but itself. -/
def walk (d : Directory) (topmost : Bool) (here : List String) :
    List String → Except FileError (List String)
  | [] => .ok here
  | part :: rest =>
    match d.find here with
    | .nothing => .error .absent
    | .file _ => .error .notDirectory
    | .directory =>
      if stays part then d.walk topmost here rest
      else if part = ".." then
        if here = [] ∧ !topmost then .error (outside rest)
        else d.walk topmost here.dropLast rest
      else if longestPart < part.utf8ByteSize then .error .tooLong
      else d.walk topmost (here ++ [part]) rest

/-- What every system has: some directories, and a file that is always empty. -/
def system : Directory :=
  (["dev", "null"], some .empty) ::
    ["bin", "etc", "home", "lib", "proc", "root", "sys", "tmp", "usr", "var"].map fun name =>
      ([name], none)

/-- The octets of the file under a path. -/
def read (d : Directory) (path : String) : Except FileError ByteArray :=
  if path.toList.contains '\x00' then .error .zeroInName
  else if path = "" then .error .absent
  else if longestPath < path.utf8ByteSize then .error .tooLong
  else
    let topmost := path.startsWith "/"
    let d := if topmost then system else d
    match d.walk topmost [] (parts path) with
    | .error e => .error e
    | .ok here =>
      match d.find here with
      | .file octets => .ok octets
      | .directory => .error .directory
      | .nothing => .error .absent

end Directory
end AlertReceivers
