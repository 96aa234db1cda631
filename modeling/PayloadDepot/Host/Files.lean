import PayloadDepot.Bytes.Equality
import PayloadDepot.Host.IoFault
import PayloadDepot.Text.Parts

/-!
# A file system

A tree of directories and files, kept as the list of the paths below its root.
Paths are resolved component by component, so the first component that is
missing, is no directory or is too long decides the fault.  Calls that change
the tree, and the writing and flushing of a file, may be refused: the file system
carries the faults that its coming calls end in.
-/

namespace PayloadDepot

/-- The names from the root of the tree down to an entry. -/
abbrev FilePath := List String

/-- A file with its content, or a directory. -/
inductive FileEntry where
  | directory
  | file (content : ByteArray)
deriving DecidableEq

/-- The entries below the root of a tree, and which of the coming calls are refused. -/
structure FileSystem where
  entries : List (FilePath × FileEntry)
  refusals : List (Option IoFault)

namespace FileSystem

/-- A file system that holds nothing and serves every call. -/
def empty : FileSystem := ⟨[], []⟩

def entry? (files : FileSystem) : FilePath → Option FileEntry
  | [] => some .directory
  | name :: names => files.entries.lookup (name :: names)

def longestName : Nat := 255

/-- One more than the length of the longest path, in bytes. -/
def pathLimit : Nat := 4096

/-- The pieces of a path between its slashes. -/
def pathPieces (path : String) : List String :=
  Text.split '/' path

/-- Resolves the remaining pieces of a path from a place on. -/
def walk (files : FileSystem) (place : FilePath) : List String → Except IoFault FilePath
  | [] => .ok place
  | piece :: pieces =>
      match files.entry? place with
      | none => .error .notFound
      | some (.file _) => .error .notADirectory
      | some .directory =>
          if piece = "" ∨ piece = "." then files.walk place pieces
          else if piece = ".." then files.walk place.dropLast pieces
          else if longestName < piece.utf8ByteSize then .error .nameTooLong
          else files.walk (place ++ [piece]) pieces

/-- The names that a path leads to; the last one need not exist. -/
def resolve (files : FileSystem) (path : String) : Except IoFault FilePath :=
  if path.toList.contains (Char.ofNat 0) then .error .nulInName
  else if path = "" then .error .notFound
  else if pathLimit ≤ path.utf8ByteSize then .error .nameTooLong
  else files.walk [] (pathPieces path)

def find (files : FileSystem) (path : String) : Except IoFault FileEntry :=
  match files.resolve path with
  | .error fault => .error fault
  | .ok names =>
      match files.entry? names with
      | some entry => .ok entry
      | none => .error .notFound

def isDirectory (files : FileSystem) (path : String) : Bool :=
  match files.find path with
  | .ok .directory => true
  | _ => false

def joinPath (directory name : String) : String :=
  if directory = "" || directory.endsWith "/" then directory ++ name
  else directory ++ "/" ++ name

/-- Takes the next of the coming refusals. -/
def nextRefusal (files : FileSystem) : Option IoFault × FileSystem :=
  match files.refusals with
  | [] => (none, files)
  | refusal :: later => (refusal, { files with refusals := later })

def put (files : FileSystem) (names : FilePath) (entry : FileEntry) : FileSystem :=
  { files with entries := (names, entry) :: files.entries.filter (fun other => other.1 ≠ names) }

/-- The tree without what lies at or below a path. -/
def drop (files : FileSystem) (names : FilePath) : FileSystem :=
  { files with
    entries := files.entries.filter (fun other => (names.isPrefixOf other.1) = false) }

/-- Makes one directory. -/
def makeDirectory (files : FileSystem) (path : String) : Except IoFault Unit × FileSystem :=
  match files.resolve path with
  | .error fault => (.error fault, files)
  | .ok names =>
      match files.entry? names with
      | some _ => (.error .alreadyExists, files)
      | none =>
          match files.nextRefusal with
          | (some fault, later) => (.error fault, later)
          | (none, later) => (.ok (), later.put names .directory)

/-- Makes the directory whose pieces are given from the last one upwards, and those above it that
are missing. -/
def makeDirectoriesUp (files : FileSystem) : List String → Except IoFault Unit × FileSystem
  | [] => (.ok (), files)
  | piece :: above =>
      let path := String.intercalate "/" ((piece :: above).reverse)
      match files.makeDirectory path with
      | (.ok (), later) => (.ok (), later)
      | (.error fault, later) =>
          if fault.kind = .notFound && !above.isEmpty then
            match later.makeDirectoriesUp above with
            | (.error aboveFault, after) => (.error aboveFault, after)
            | (.ok (), after) =>
                match after.makeDirectory path with
                | (.ok (), last) => (.ok (), last)
                | (.error lastFault, last) =>
                    if last.isDirectory path then (.ok (), last) else (.error lastFault, last)
          else if later.isDirectory path then (.ok (), later)
          else (.error fault, later)

/-- Makes a directory and those above it that are missing. -/
def makeDirectories (files : FileSystem) (path : String) : Except IoFault Unit × FileSystem :=
  files.makeDirectoriesUp (pathPieces path).reverse

/-- Makes a file without content, or takes the content of one that is there. -/
def createFile (files : FileSystem) (path : String) : Except IoFault FilePath × FileSystem :=
  match files.resolve path with
  | .error fault => (.error fault, files)
  | .ok names =>
      match files.entry? names with
      | some .directory => (.error .isADirectory, files)
      | _ =>
          match files.nextRefusal with
          | (some fault, later) => (.error fault, later)
          | (none, later) => (.ok names, later.put names (.file ByteArray.empty))

/-- Writes the content of a file that was just made. -/
def writeFile (files : FileSystem) (names : FilePath) (content : ByteArray) :
    Except IoFault Unit × FileSystem :=
  match files.nextRefusal with
  | (some fault, later) => (.error fault, later)
  | (none, later) => (.ok (), later.put names (.file content))

def flushFile (files : FileSystem) : Except IoFault Unit × FileSystem :=
  match files.nextRefusal with
  | (some fault, later) => (.error fault, later)
  | (none, later) => (.ok (), later)

/-- Removes a file, or a directory with all it holds; what is not there stays away. -/
def remove (files : FileSystem) (path : String) : FileSystem :=
  match files.resolve path with
  | .error _ => files
  | .ok names => files.drop names

/-- The names directly below a directory with their entries. -/
def children (files : FileSystem) (directory : FilePath) : List (String × FileEntry) :=
  files.entries.filterMap fun (names, entry) =>
    match names.getLast? with
    | some name => if names.dropLast = directory then some (name, entry) else none
    | none => none

def list (files : FileSystem) (path : String) : Except IoFault (List (String × FileEntry)) :=
  match files.resolve path with
  | .error fault => .error fault
  | .ok names =>
      match files.entry? names with
      | some .directory => .ok (files.children names)
      | some (.file _) => .error .notADirectory
      | none => .error .notFound

def readFile (files : FileSystem) (path : String) : Except IoFault ByteArray :=
  match files.find path with
  | .error fault => .error fault
  | .ok .directory => .error .isADirectory
  | .ok (.file content) => .ok content

end FileSystem

end PayloadDepot
