import Tunnel.Error.Basic
import Tunnel.Text.Basic

/-!
# A directory held in memory

Paths start at a directory that holds files only.  Around it there are other
directories, of which nothing more is known than the usual ones below the root
and the streams among the devices.  A path is followed part by part: what is
no directory has nothing below it, and a part that is too long is never found.
A path that ends in a slash leads to a directory or nowhere.
-/

namespace Tunnel.Rehearsal

/-- The octets that a path, and one part of it, may have at most. -/
def pathLimit : Nat := 4095
def partLimit : Nat := 255

/-- A directory that a path can go through. -/
inductive Folder
  /-- The directory where paths start. -/
  | home
  | root
  /-- A directory below the root. -/
  | system (name : String)
  | elsewhere
deriving DecidableEq

/-- The names of directories below the root. -/
def systemFolders : List String :=
  ["bin", "boot", "dev", "etc", "home", "lib", "media", "mnt", "opt", "proc",
    "root", "run", "sbin", "srv", "sys", "tmp", "usr", "var"]

/-- A device that is opened like a file. -/
inductive SpecialFile
  | null
  | input
  | output
deriving DecidableEq

/-- The devices by their names. -/
def specialFiles : List (String × SpecialFile) :=
  [("null", .null), ("stdin", .input), ("stdout", .output)]

/-- What a part of a path is in its directory. -/
inductive Entry
  | folder (folder : Folder)
  | special (file : SpecialFile)
  | file (name : String)
  /-- Nothing, which may become the file of that name. -/
  | missing (name : String)
  | refused (errno : Int)
deriving DecidableEq

/-- What a whole path leads to. -/
inductive Place
  | folder
  | special (file : SpecialFile)
  | file (name : String)
  | nowhere (fault : IoFault)
deriving DecidableEq

namespace Folder

/-- The directory that holds a directory. -/
def parent : Folder → Folder
  | home | elsewhere => elsewhere
  | root | system _ => root

/-- The name that a file of the directory goes by. -/
def nameOf (part : String) : Folder → String
  | home => part
  | root => "/" ++ part
  | system name => "/" ++ name ++ "/" ++ part
  | elsewhere => "../" ++ part

/-- What a part is, where `isFile` knows the files by their names. -/
def look (isFile : String → Bool) (folder : Folder) (part : String) :
    Entry :=
  let name := folder.nameOf part
  if part = "." then .folder folder
  else if part = ".." then .folder folder.parent
  else if partLimit < part.utf8ByteSize then .refused Errno.nameTooLong
  else if folder = root && systemFolders.contains part then
    .folder (system part)
  else
    match if folder = system "dev" then specialFiles.lookup part else none with
    | some file => .special file
    | none => if isFile name then .file name else .missing name

end Folder

/-- How the end of a path is used. -/
structure Purpose where
  /-- What is missing is made. -/
  creates : Bool
  /-- The path ends in a slash. -/
  slash : Bool

/-- Follow the parts of a path. -/
def walk (isFile : String → Bool) (purpose : Purpose) (folder : Folder) :
    List String → Place
  | [] => .folder
  | [part] =>
      if purpose.creates && purpose.slash then
        .nowhere (.system Errno.isDirectory)
      else
        match folder.look isFile part with
        | .folder _ => .folder
        | .refused errno => .nowhere (.system errno)
        | .missing name =>
            if purpose.creates then .file name
            else .nowhere (.system Errno.noEntry)
        | .file name =>
            if purpose.slash then .nowhere (.system Errno.notDirectory)
            else .file name
        | .special file =>
            if purpose.slash then .nowhere (.system Errno.notDirectory)
            else .special file
  | part :: next :: rest =>
      match folder.look isFile part with
      | .folder folder => walk isFile purpose folder (next :: rest)
      | .refused errno => .nowhere (.system errno)
      | .missing _ => .nowhere (.system Errno.noEntry)
      | .file _ | .special _ => .nowhere (.system Errno.notDirectory)

/-- Follow a path, in which empty parts lead nowhere else. -/
def follow (isFile : String → Bool) (creates : Bool) (path : String) :
    Place :=
  let parts := (Text.split '/' path.toList).map String.ofList
  let slash := parts.getLast? = some ""
  let start := if path.startsWith "/" then Folder.root else Folder.home
  if path.contains '\x00' then
    .nowhere (.other "file name contained an unexpected NUL byte")
  else if pathLimit < path.utf8ByteSize then
    .nowhere (.system Errno.nameTooLong)
  else walk isFile { creates, slash } start (parts.filter (· ≠ ""))

end Tunnel.Rehearsal
