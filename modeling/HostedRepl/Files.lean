/-
The files of a system.

A place is a list of names from the root down. A path leads from the root or the working directory
to a place, one name after the other, and every name but the last has to lead to a directory.

* `Node`, `Files`: what is at a place, and all places with the working directory.
* `FileFault`: why a file could not be used.
* `Disk`: how a disk takes a file that is written.
* `Files.locate`: the place a path leads to.
* `Files.read`, `readText`, `write`, `overwrite`, `remove`: the operations on files.
* `Files.workspace`: a fresh working directory.
-/
import HostedRepl.Path
import HostedRepl.Table
import HostedRepl.Wire.Bytes

namespace HostedRepl

/-- A device without content: it forgets what it is given, or refuses it for want of space. -/
inductive Device where
  | null
  | full
  deriving DecidableEq, Repr

/-- What is at a place. -/
inductive Node where
  | file (content : Wire.Bytes)
  | directory
  | device (d : Device)

/-- Why a file could not be used. -/
inductive FileFault where
  | missing
  | notADirectory
  | directory
  | nameTooLong
  | noSpace
  | nulCharacter
  /-- The content is not UTF-8. -/
  | notText
  | denied
  | readOnly
  | inputOutput
  | tooLarge
  | overQuota
  deriving DecidableEq, Repr

/-- The wording of a fault. -/
def FileFault.message : FileFault → String
  | missing => "No such file or directory (os error 2)"
  | notADirectory => "Not a directory (os error 20)"
  | directory => "Is a directory (os error 21)"
  | nameTooLong => "File name too long (os error 36)"
  | noSpace => "No space left on device (os error 28)"
  | nulCharacter => "file name contained an unexpected NUL byte"
  | notText => "stream did not contain valid UTF-8"
  | denied => "Permission denied (os error 13)"
  | readOnly => "Read-only file system (os error 30)"
  | inputOutput => "Input/output error (os error 5)"
  | tooLarge => "File too large (os error 27)"
  | overQuota => "Disk quota exceeded (os error 122)"

/-- How a disk takes a file that is written. -/
inductive Disk where
  /-- It takes all bytes. -/
  | sound
  /-- It does not let the file be opened. -/
  | refusing (fault : FileFault)
  /-- It lets the file be made or emptied, and then takes so many bytes and no more. -/
  | failing (room : Nat) (fault : FileFault)
  deriving DecidableEq, Repr

/-- What a disk makes of a content that is written, and whether all of it has been. A file that is
not opened gets no new content. -/
def Disk.take : Disk → Wire.Bytes → Except FileFault Unit × Option Wire.Bytes
  | sound, content => (.ok (), some content)
  | refusing fault, _ => (.error fault, none)
  | failing room fault, content =>
    (if content.length ≤ room then .ok () else .error fault, some (content.take room))

/-- A place, by the names from the root down. -/
abbrev Place := List String

/-- The places that have something, and the working directory. -/
structure Files where
  nodes : Table Node
  directory : Place

namespace Files

/-- The text that tells a place apart; no name has a slash. -/
def key (place : Place) : String := "/".intercalate place

/-- What is at a place. -/
def at? (fs : Files) (place : Place) : Option Node := fs.nodes.find? (key place)

/-- Put something at a place. -/
def put (fs : Files) (place : Place) (node : Node) : Files :=
  { fs with nodes := fs.nodes.set (key place) node }

/-- Take away what is at a place. -/
def clear (fs : Files) (place : Place) : Files := { fs with nodes := fs.nodes.erase (key place) }

/-! ### Paths -/

/-- The most bytes of a name. -/
def nameLimit : Nat := 255

/-- The most bytes of a path. -/
def pathLimit : Nat := 4095

/-- Where a path begins. -/
def origin (fs : Files) (path : String) : Place :=
  if Path.isAbsolute path then [] else fs.directory

/-- The path can only lead to a directory. -/
def demandsDirectory (path : String) : Bool := path.endsWith "/"

/-- Where a name leads to from a place; the directory above the root is the root. -/
def descend (place : Place) (name : String) : Place :=
  if name = "." then place else if name = ".." then place.dropLast else place ++ [name]

/-- Follow one name, which has to be looked up in a directory. -/
def step (fs : Files) (place : Place) (name : String) : Except FileFault Place :=
  match fs.at? place with
  | some .directory =>
    if nameLimit < name.utf8ByteSize then .error .nameTooLong else .ok (descend place name)
  | some _ => .error .notADirectory
  | none => .error .missing

/-- Follow names from a place. -/
def follow (fs : Files) (place : Place) (names : List String) : Except FileFault Place :=
  names.foldlM fs.step place

/-- Why a path leads nowhere, whatever there is. -/
def pathFault? (path : String) : Option FileFault :=
  if path.contains '\x00' then some .nulCharacter
  else if path = "" then some .missing
  else if pathLimit < path.utf8ByteSize then some .nameTooLong
  else none

/-- The place a path leads to, where there may be nothing. -/
def locate (fs : Files) (path : String) : Except FileFault Place :=
  match pathFault? path with
  | some fault => .error fault
  | none => fs.follow (fs.origin path) (Path.names path)

/-- What a path leads to. -/
def find (fs : Files) (path : String) : Except FileFault (Place × Node) := do
  let place ← fs.locate path
  match fs.at? place with
  | none => throw .missing
  | some .directory => return (place, .directory)
  | some node =>
    if demandsDirectory path then throw .notADirectory
    return (place, node)

/-- The path leads to something. -/
def reaches (fs : Files) (path : String) : Bool := (fs.find path).isOk

/-! ### Operations -/

/-- The content of a file. -/
def read (fs : Files) (path : String) : Except FileFault Wire.Bytes := do
  match (← fs.find path).2 with
  | .file content => return content
  | .device _ => return []
  | .directory => throw .directory

/-- The text of a file. -/
def readText (fs : Files) (path : String) : Except FileFault String := do
  match (← fs.read path).text? with
  | some text => return text
  | none => throw .notText

/-- The place of a path at which a file can be made or written. A path with a slash at its end leads
to none, which is told once there is a directory to look in. -/
def locateWritable (fs : Files) (path : String) : Except FileFault Place :=
  match pathFault? path with
  | some fault => .error fault
  | none =>
    let names := Path.names path
    if demandsDirectory path then
      match fs.follow (fs.origin path) (names.dropLast ++ ["."]) with
      | .ok _ => .error .directory
      | .error fault => .error fault
    else fs.follow (fs.origin path) names

/-- Write a file, in place of the old one. If the disk fails in the middle, what it has taken stays
behind. -/
def write (fs : Files) (path : String) (content : Wire.Bytes) (disk : Disk) :
    Except FileFault Unit × Files :=
  match fs.locateWritable path with
  | .error fault => (.error fault, fs)
  | .ok place =>
    match fs.at? place with
    | some .directory => (.error .directory, fs)
    | some (.device .null) => (.ok (), fs)
    | some (.device .full) => (if content.isEmpty then .ok () else .error .noSpace, fs)
    | some (.file _) | none =>
      match disk.take content with
      | (written, some kept) => (written, fs.put place (.file kept))
      | (written, none) => (written, fs)

/-- Write over the content of an open file from an offset on; what lies before it is filled up with
zeros. A file that is gone takes nothing. -/
def overwrite (fs : Files) (place : Place) (offset : Nat) (bytes : Wire.Bytes) : Files :=
  match fs.at? place with
  | some (.file content) =>
    let front := content.take offset
    let gap := List.replicate (offset - front.length) 0
    fs.put place (.file (front ++ gap ++ bytes ++ content.drop (offset + bytes.length)))
  | _ => fs

/-- Remove a file. -/
def remove (fs : Files) (path : String) : Except FileFault Files := do
  match ← fs.find path with
  | (_, .directory) => throw .directory
  | (place, _) => return fs.clear place

/-! ### Systems -/

/-- The place a path leads to if all directories on the way are there. -/
def place (fs : Files) (path : String) : Place := (Path.names path).foldl descend (fs.origin path)

/-- The files with one more at the end of a path, and with the directories on the way to it. -/
def add (fs : Files) (path : String) (node : Node) : Files :=
  let place := fs.place path
  let above := (List.range place.length).map place.take
  (above.foldl (fun fs dir => fs.put dir .directory) fs).put place node

/-- A system with directories and devices only. -/
def ofDirectories (directory : Place) (directories : List Place) (devices : List (Place × Device)) :
    Files :=
  let fs := directories.foldl (fun fs place => fs.put place .directory) ⟨[], directory⟩
  devices.foldl (fun fs d => fs.put d.1 (.device d.2)) fs

/-- A fresh working directory for temporary files, on a system with its usual directories. -/
def workspace : Files :=
  ofDirectories ["tmp", "work"]
    ([[]] ++
      (["bin", "boot", "dev", "etc", "home", "lib", "lib64", "media", "mnt", "opt", "proc", "root",
        "run", "sbin", "srv", "sys", "tmp", "usr", "var"].map fun name => [name]) ++
      [["tmp", "work"]])
    [(["dev", "null"], .null), (["dev", "full"], .full)]

end Files

end HostedRepl
