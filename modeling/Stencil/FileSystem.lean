/-!
# Files and directories

The files below one top directory, as a value. A path is told by its parts (`Way`), which are
followed one after the other; the entry it comes to is a directory or a file with its text, and is
kept under the names on the way down to it (`Route`). Every operation fails at the first part that
cannot be followed, and one that fails halfway keeps what it had done.

The top is where every path starts, and nothing is above it. There are no links and no permissions,
names and texts are Unicode texts, and a name can be too long but a path cannot.
-/

namespace Stencil

/-- Why an operation on files fails. -/
inductive IoError where
  | notFound
  | fileExists
  | notADirectory
  | isADirectory
  | nameTooLong
  deriving DecidableEq, Repr

/-- The text shown for a failed operation, with the number of the error. -/
def IoError.message : IoError → String
  | notFound => "No such file or directory (os error 2)"
  | fileExists => "File exists (os error 17)"
  | notADirectory => "Not a directory (os error 20)"
  | isADirectory => "Is a directory (os error 21)"
  | nameTooLong => "File name too long (os error 36)"

/-- The names on the way down from the top directory to an entry. -/
abbrev Route := List String

/-- The parts of a path, which are names and dots. Only the empty path has no parts. -/
abbrev Way := List String

/-- Whether a part of a path names an entry. One dot stays in a directory and two go up from it. -/
def IsName (part : String) : Prop := part ≠ "." ∧ part ≠ ".."

instance (part : String) : Decidable (IsName part) := inferInstanceAs (Decidable (_ ∧ _))

/-- One part further. -/
def Route.go (here : Route) (part : String) : Route :=
  if part = "." then here
  else if part = ".." then here.dropLast
  else here ++ [part]

namespace Way

/-- The parts between the slashes of a path. A path of slashes stays at the top. -/
def ofText (path : String) : Way :=
  let parts := ((path.toList.splitOn '/').filter (· ≠ [])).map String.ofList
  if path ≠ "" ∧ parts = [] then ["."] else parts

/-- Where a way goes to from a directory. -/
def routeFrom (above : Route) (way : Way) : Route := way.foldl Route.go above

/-- Where a way goes to from the top. -/
def route (way : Way) : Route := routeFrom [] way

/-- The way without dots at its end. -/
def trimDots (way : Way) : Way := (way.reverse.dropWhile (· = ".")).reverse

/-- The way to the directory above. -/
def parent (way : Way) : Way := trimDots (trimDots way).dropLast

end Way

/-- What a route can lead to. -/
inductive Entry where
  | file (text : String)
  | directory
  deriving DecidableEq, Repr

/-- The entries below a top directory. The first one at a route counts. -/
structure FileSystem where
  entries : List (Route × Entry) := []
  deriving DecidableEq, Repr, Inhabited

namespace FileSystem

/-- The most bytes a name may have. -/
def longestName : Nat := 255

/-- The entry at a route. The top is a directory. -/
def entryAt? (disk : FileSystem) (route : Route) : Option Entry :=
  if route = [] then some .directory else disk.entries.lookup route

/-- Puts an entry at a route. -/
def insert (disk : FileSystem) (route : Route) (e : Entry) : FileSystem :=
  ⟨(route, e) :: disk.entries.filter (·.1 ≠ route)⟩

/-- Takes away the entry at a route. -/
def erase (disk : FileSystem) (route : Route) : FileSystem :=
  ⟨disk.entries.filter (·.1 ≠ route)⟩

/-- What one part more leads to, from an entry at a route. -/
def enter (disk : FileSystem) (above : Route) (part : String) : Entry → Except IoError Entry
  | .file _ => .error .notADirectory
  | .directory =>
    if ¬ IsName part then .ok .directory
    else if longestName < part.utf8ByteSize then .error .nameTooLong
    else
      match disk.entryAt? (above ++ [part]) with
      | none => .error .notFound
      | some e => .ok e

/-- Follows a way from an entry at a route. -/
def follow (disk : FileSystem) (above : Route) (here : Entry) : Way → Except IoError Entry
  | [] => .ok here
  | part :: rest =>
    match disk.enter above part here with
    | .error e => .error e
    | .ok e => follow disk (above.go part) e rest

/-- What a way leads to from the top. -/
def find (disk : FileSystem) (way : Way) : Except IoError Entry :=
  disk.follow [] .directory way

/-- The entry that a path names. The empty path names none, although every path starts there. -/
def entryOf (disk : FileSystem) (way : Way) : Except IoError Entry :=
  if way = [] then .error .notFound else disk.find way

/-- The text of a file. -/
def read (disk : FileSystem) (way : Way) : Except IoError String :=
  match disk.entryOf way with
  | .error e => .error e
  | .ok .directory => .error .isADirectory
  | .ok (.file text) => .ok text

/-- Whether a path ends in a slash, and so cannot name a file. -/
def endsInSlash (path : String) : Bool := path.toList.getLast? = some '/'

/-- The text of the file that a path names. -/
def readAt (disk : FileSystem) (path : String) : Except IoError String :=
  match disk.read (Way.ofText path) with
  | .error e => .error e
  | .ok text => if endsInSlash path then .error .notADirectory else .ok text

/-- Changes a file system, or fails and keeps what it had done. -/
abbrev Change (ε : Type) := FileSystem → Except ε Unit × FileSystem

/-- Writes a file into a directory, in place of one that has its name. -/
def write (directory : Way) (name text : String) : Change IoError := fun disk =>
  match disk.find (directory ++ [name]) with
  | .ok .directory => (.error .isADirectory, disk)
  | .ok (.file _) => (.ok (), disk.insert (directory.route ++ [name]) (.file text))
  | .error .notFound =>
    match disk.find directory with
    | .ok .directory => (.ok (), disk.insert (directory.route ++ [name]) (.file text))
    | _ => (.error .notFound, disk)
  | .error e => (.error e, disk)

/-- Writes the text of the file that a path names, in place of one that is there. A path that ends
in a slash or in dots can only name a directory. -/
def writeAt (path text : String) : Change IoError := fun disk =>
  let directory := (Way.ofText path).dropLast
  match (Way.ofText path).getLast? with
  | none => (.error .notFound, disk)
  | some part =>
    if IsName part ∧ ¬ endsInSlash path then write directory part text disk
    else
      match disk.find directory with
      | .error e => (.error e, disk)
      | .ok (.file _) => (.error .notADirectory, disk)
      | .ok .directory => (.error .isADirectory, disk)

/-- Gives a file of a directory another name there, in place of a file that has it. -/
def rename (directory : Way) (old new : String) : Change IoError := fun disk =>
  match disk.find (directory ++ [old]) with
  | .error e => (.error e, disk)
  | .ok .directory => (.error .isADirectory, disk)
  | .ok (.file text) =>
    match disk.find (directory ++ [new]) with
    | .ok .directory => (.error .isADirectory, disk)
    | .error .nameTooLong => (.error .nameTooLong, disk)
    | _ =>
      (.ok (), (disk.erase (directory.route ++ [old])).insert (directory.route ++ [new])
        (.file text))

/-- Removes a file. -/
def remove (way : Way) : Change IoError := fun disk =>
  match disk.entryOf way with
  | .error e => (.error e, disk)
  | .ok .directory => (.error .isADirectory, disk)
  | .ok (.file _) => (.ok (), disk.erase way.route)

/-- Makes the directories that are missing on a way from the directory `above`. One that is missing
is not made if only dots follow. -/
def makeBelow (above : Route) : Way → Change IoError
  | [], disk => (.ok (), disk)
  | part :: rest, disk =>
    match disk.enter above part .directory with
    | .ok .directory => makeBelow (above.go part) rest disk
    | .ok (.file _) => (.error (if rest = [] then .fileExists else .notADirectory), disk)
    | .error .notFound =>
      if rest ≠ [] ∧ Way.trimDots rest = [] then (.error .notFound, disk)
      else makeBelow (above.go part) rest (disk.insert (above.go part) .directory)
    | .error e => (.error e, disk)

/-- Makes a directory and those above it, where they are missing. -/
def makeDirectories (way : Way) : Change IoError := makeBelow [] way

/-- The names of the entries in the directory at a route. -/
def namesIn (disk : FileSystem) (route : Route) : List String :=
  disk.entries.filterMap fun e => if e.1.dropLast = route then e.1.getLast? else none

/-- The names of the entries of the directory that a path names. -/
def list (disk : FileSystem) (way : Way) : Except IoError (List String) :=
  match disk.entryOf way with
  | .error e => .error e
  | .ok (.file _) => .error .notADirectory
  | .ok .directory => .ok (disk.namesIn way.route)

end FileSystem

end Stencil
