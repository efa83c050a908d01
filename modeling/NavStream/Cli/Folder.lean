/-!
# What the name of a file leads to

The name of a file is a path: names divided by slashes, of which all but the last must be those of
folders. A point stands for the folder itself and two points for the one around it.

* `Resource` — what a path leads to;
* `Folder` — the files below a folder;
* `Folder.resource` — what a path leads to from a folder.
-/

namespace NavStream.Cli

/-- What the name of a file leads to. -/
inductive Resource where
  /-- A file with its bytes. -/
  | file (bytes : List UInt8)
  /-- Something that can be opened and not be read. -/
  | unreadable (reason : String)
  /-- Something that cannot be opened. -/
  | unavailable (reason : String)
deriving DecidableEq, Repr

namespace Resource

/-- A name that leads nowhere. -/
def missing : Resource := unavailable "No such file or directory (os error 2)"

/-- A name that leads to a directory. -/
def directory : Resource := unreadable "Is a directory (os error 21)"

/-- A name that leads on from a file. -/
def notDirectory : Resource := unavailable "Not a directory (os error 20)"

/-- A name that no file can have. -/
def nameTooLong : Resource := unavailable "File name too long (os error 36)"

end Resource

/-- Files, each with the names that lead to it from a folder. -/
abbrev Folder := List (List String × List UInt8)

namespace Folder

/-- Whether a name on a path stands for the folder that it is met in. -/
def staysHere (name : String) : Bool := name = "" || name = "."

/-- The names on a path. -/
def names (path : String) : List String := path.splitOn "/"

/-- The folder with files of given paths. Of two files with one path the later one is there. -/
def ofFiles (files : List (String × List UInt8)) : Folder :=
  files.reverse.map fun (path, bytes) => ((names path).filter (!staysHere ·), bytes)

/-- The number of bytes that a single name may have. -/
def longestName : Nat := 255

/-- The number of bytes that a path may have. -/
def longestPath : Nat := 4095

/-- What names lead to from outside of the folder, of which only the directories are known. -/
def resourceOutside (names : List String) : Resource :=
  if names.all fun name => staysHere name || name = ".." then .directory else .missing

/-- What names lead to from the folder that the names in `inside` lead to. -/
def resourceFrom (folder : Folder) (inside : List String) : List String → Resource
  | [] => .directory
  | name :: rest =>
    if staysHere name then resourceFrom folder inside rest
    else if name = ".." then
      if inside.isEmpty then resourceOutside rest else resourceFrom folder inside.dropLast rest
    else if longestName < name.utf8ByteSize then .nameTooLong
    else
      let inside := inside ++ [name]
      match folder.lookup inside with
      | some bytes => if rest.isEmpty then .file bytes else .notDirectory
      | none =>
        if folder.any fun (names, _) => inside.isPrefixOf names then
          resourceFrom folder inside rest
        else .missing

/-- What a path leads to from a folder. -/
def resource (folder : Folder) (path : String) : Resource :=
  if path.isEmpty then .missing
  else if longestPath < path.utf8ByteSize then .nameTooLong
  else if path.startsWith "/" then resourceOutside (names path)
  else resourceFrom folder [] (names path)

end Folder

end NavStream.Cli
