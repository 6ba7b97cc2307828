import TabPruning.Files.Path
import TabPruning.Text.Quoted

namespace TabPruning

-- Why the system refused to read or write a file.
inductive FileFault
  | noSuchFile
  | isDirectory
  | notDirectory
  | busy
  | tooManyLinks
  -- The file's bytes are not UTF-8.
  | notText
  -- Something else, in the system's words.
  | other (text : String)
  -- What happened to a file that the caller did not name.
  | atPath (fault : FileFault) (path : String)
  deriving DecidableEq, Repr

def FileFault.message : FileFault → String
  | noSuchFile   => "No such file or directory (os error 2)"
  | isDirectory  => "Is a directory (os error 21)"
  | notDirectory => "Not a directory (os error 20)"
  | busy         => "Device or resource busy (os error 16)"
  | tooManyLinks => "Too many levels of symbolic links (os error 40)"
  | notText      => "stream did not contain valid UTF-8"
  | other s      => s
  | atPath f p   => s!"{f.message} at path {quoted p}"

-- The names from an entry up to the root.
abbrev Place := List String

-- Found before any other, whatever is imported; files are compared by their bytes.
instance instDecidableEqBytes : DecidableEq ByteArray := ByteArray.instDecidableEq

inductive Entry
  | file (content : ByteArray) (mode : Nat)
  | directory (mode : Nat)
  | link (target : String)
  deriving DecidableEq

structure FileTree where
  entries : List (Place × Entry)
  deriving DecidableEq

inductive Target
  | file (place : Place) (content : ByteArray) (mode : Nat)
  | directory (place : Place)
  -- Nothing yet, in a directory that is there.
  | free (place : Place)
  deriving DecidableEq

inductive Purpose
  -- An existing entry is used.
  | use
  -- A file is created if there is none.
  | create
  deriving DecidableEq, Repr

namespace FileTree

def get? (t : FileTree) (p : Place) : Option Entry :=
  t.entries.lookup p

-- A new entry comes last.
def set (t : FileTree) (p : Place) (e : Entry) : FileTree :=
  if t.entries.any (·.1 = p) then
    ⟨t.entries.map fun x => if x.1 = p then (p, e) else x⟩
  else ⟨t.entries ++ [(p, e)]⟩

def erase (t : FileTree) (p : Place) : FileTree :=
  ⟨t.entries.filter (·.1 ≠ p)⟩

-- The mode of new files and of new directories.
def defaultFileMode : Nat := 0o644

def defaultDirectoryMode : Nat := 0o755

def empty : FileTree :=
  ⟨[([], .directory defaultDirectoryMode)]⟩

-- The names of a path, and an empty one at the end if it ends with a slash.
def steps (path : String) : List String :=
  let ps := Path.parts path.toList
  let slash := if ps.getLast? = some [] then [""] else []
  (ps.filter (· ≠ [])).map String.ofList ++ slash

def start (here : Place) (path : String) : Place :=
  if Path.isAbsolute path then [] else here

-- Walks along the names from a directory, following at most so many links. Everything but the
-- last name has to be a directory, and so has that if a slash follows it.
def walk (t : FileTree) (purpose : Purpose) (links : Nat) (here : Place) :
    List String → Except FileFault Target
  | []           => .ok (.directory here)
  | name :: rest =>
    if name = "" || name = "." then walk t purpose links here rest
    else if name = ".." then walk t purpose links here.tail rest
    else if purpose = .create && rest = [""] then .error .isDirectory
    else
      let place := name :: here
      match t.get? place with
      | some (.directory _)      => walk t purpose links place rest
      | some (.file content mode) =>
        if rest = [] then .ok (.file place content mode) else .error .notDirectory
      | some (.link target)      =>
        match links with
        | 0         => .error .tooManyLinks
        | links + 1 =>
          if target = "" then .error .noSuchFile
          else walk t purpose links (start here target) (steps target ++ rest)
      | none => if rest = [] then .ok (.free place) else .error .noSuchFile
  termination_by names => (links, names.length)

def maxLinks : Nat := 40

def resolve (t : FileTree) (purpose : Purpose) (here : Place) (path : String) :
    Except FileFault Target :=
  if path = "" then .error .noSuchFile
  else t.walk purpose maxLinks (start here path) (steps path)

def resolveDirectory (t : FileTree) (here : Place) (names : List String) :
    Except FileFault Place :=
  match t.walk .use maxLinks here names with
  | .ok (.directory place) => .ok place
  | .ok (.file ..)         => .error .notDirectory
  | .ok (.free _)          => .error .noSuchFile
  | .error f               => .error f

def exists? (t : FileTree) (here : Place) (path : String) : Bool :=
  match t.resolve .use here path with
  | .ok (.file ..)      => true
  | .ok (.directory _)  => true
  | .ok (.free _)       => false
  | .error _            => false

-- The permission bits of what a path leads to.
def mode? (t : FileTree) (here : Place) (path : String) : Option Nat :=
  match t.resolve .use here path with
  | .ok (.file _ _ mode)   => some mode
  | .ok (.directory place) =>
    match t.get? place with
    | some (.directory mode) => some mode
    | _                      => none
  | _                      => none

def readText (t : FileTree) (here : Place) (path : String) : Except FileFault String :=
  match t.resolve .use here path with
  | .ok (.file _ content _) =>
    match String.fromUTF8? content with
    | some s => .ok s
    | none   => .error .notText
  | .ok (.directory _)      => .error .isDirectory
  | .ok (.free _)           => .error .noSuchFile
  | .error f                => .error f

-- Writes the file that the path leads to; a new one has the default mode.
def overwrite (t : FileTree) (here : Place) (path : String) (content : ByteArray) :
    Except FileFault FileTree :=
  match t.resolve .create here path with
  | .ok (.file place _ mode) => .ok (t.set place (.file content mode))
  | .ok (.free place)        => .ok (t.set place (.file content defaultFileMode))
  | .ok (.directory _)       => .error .isDirectory
  | .error f                 => .error f

-- Moves a file to a path, where it replaces a file or a link. The path's last name is taken
-- literally and may not be missing, a dot or two dots.
def rename (t : FileTree) (here place : Place) (path : String) : Except FileFault FileTree :=
  let names := steps path
  let slash := names.getLast? = some ""
  let names := names.filter (· ≠ "")
  if path = "" then .error .noSuchFile
  else
    match names.getLast? with
    | none      => .error .busy
    | some last =>
      match t.resolveDirectory (start here path) names.dropLast with
      | .error f   => .error f
      | .ok parent =>
        if last = "." || last = ".." then .error .busy
        else if slash then .error .notDirectory
        else
          match t.get? (last :: parent), t.get? place with
          | some (.directory _), _ => .error .isDirectory
          | _, some e              => .ok ((t.erase place).set (last :: parent) e)
          | _, none                => .error .noSuchFile

-- Temporary names differ in length, and have at least six zeros.
def temporaryName (zeros : Nat) : String :=
  ".tmp" ++ String.ofList (List.replicate (max 6 zeros) '0')

-- A temporary name that is longer than the names of all entries of a directory, so that none of
-- them has it.
def unusedName (t : FileTree) (directory : Place) : String :=
  let names := (t.entries.filter fun (p, _) => p.tail = directory).map fun (p, _) => p.head?.getD ""
  temporaryName ((names.map String.length).foldl max 0)

def privateMode : Nat := 0o600

-- Writes a new file beside the path's last name and then moves it there. An existing
-- destination's mode is taken over. Whatever goes wrong, the new file does not stay. A message
-- about the new file shows its absolute path.
def replace (t : FileTree) (here : Place) (workingDirectory path : String)
    (content : ByteArray) : Except FileFault Unit × FileTree :=
  let base := Path.directory path
  match t.resolveDirectory (start here base) (steps base) with
  | .error f      =>
    let name := Path.join (Path.join workingDirectory base) (temporaryName 0)
    (.error (.atPath f name), t)
  | .ok directory =>
    let place := t.unusedName directory :: directory
    let created := t.set place (.file ByteArray.empty privateMode)
    let mode := (created.mode? here path).getD privateMode
    let written := created.set place (.file content mode)
    match written.rename here place path with
    | .error f => (.error f, written.erase place)
    | .ok t'   => (.ok (), t')

end FileTree

end TabPruning
