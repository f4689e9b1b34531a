import TouchPanel.System
import TouchPanel.Text.Lines

/-!
This module contains the files that a program sees, and what the system answers when it reads and
writes them. Paths start at the folder in which the program runs.
-/

namespace TouchPanel

/--
A place is the names that lead to it. Those that lead out of the folder in which the program runs
are two dots each.
-/
abbrev Files.Place := List String

inductive Files.Entry where
  | file (bytes : List UInt8)
  | folder
  /-- What loses all that is written to it, and gives nothing. A full one takes nothing either. -/
  | sink (isFull : Bool)
  deriving DecidableEq, Repr

/--
What stands at places. The folder in which the program runs, the folders around it and the root are
always there.
-/
structure Files where
  entries : List (Files.Place × Files.Entry)
  deriving Repr

namespace Files

def empty : Files := ⟨[]⟩

def root : String := "/"

def names (path : String) : List String :=
  let parts := (Text.fields '/' path.toList).map String.ofList
  let rest := parts.filter fun part => part ≠ "" ∧ part ≠ "."
  if path.startsWith "/" then root :: rest else rest

def goTo (place : Place) (name : String) : Place :=
  if name ≠ ".." then place ++ [name]
  else if place = [root] then place
  else if place.all (· = "..") then place ++ [name]
  else place.dropLast

def entry? (files : Files) (place : Place) : Option Entry :=
  if place.all (· = "..") ∨ place = [root] then some .folder else files.entries.lookup place

def nameLimit : Nat := 255

def pathLimit : Nat := 4095

def check (path : String) : Except SystemFault Unit :=
  if path.toList.contains '\x00' then .error .zeroInPath
  else if path.isEmpty then .error .missing
  else if pathLimit < path.utf8ByteSize then .error .tooLong
  else .ok ()

def checkFolder (files : Files) (place : Place) : Except SystemFault Unit :=
  match files.entry? place with
  | some .folder => .ok ()
  | some _ => .error .notFolder
  | none => .error .missing

def step (files : Files) (place : Place) (name : String) : Except SystemFault Place := do
  files.checkFolder place
  if nameLimit < name.utf8ByteSize then .error .tooLong else return goTo place name

/--
Follows names from the folder in which the program runs. Something may be missing at the last one.
-/
def follow (files : Files) (names : List String) : Except SystemFault Place :=
  names.foldlM files.step []

def namesFolder (path : String) : Bool := path.endsWith "/" || path.endsWith "/."

def find (files : Files) (path : String) : Except SystemFault Entry := do
  check path
  let place ← files.follow (names path)
  match files.entry? place with
  | none => .error .missing
  | some .folder => return .folder
  | some entry => if namesFolder path then .error .notFolder else return entry

/--
The bytes of what was found. A folder can be opened, but not read.
-/
def Entry.read : Entry → Except SystemFault (List UInt8)
  | file bytes => .ok bytes
  | folder => .error .isFolder
  | sink _ => .ok []

def read (files : Files) (path : String) : Except SystemFault (List UInt8) := do
  (← files.find path).read

def put (files : Files) (place : Place) (entry : Entry) : Files :=
  ⟨(place, entry) :: files.entries.filter fun (other, _) => other != place⟩

def endsInName (path : String) : Bool :=
  let parts := (Text.fields '/' path.toList).filter (!List.isEmpty ·)
  parts.getLast?.any fun part => part ≠ ['.'] ∧ part ≠ ['.', '.']

/--
The place of a file that is to be written, whether it is there or not. A slash at the end of a path
counts before what stands there, and dots name a folder.
-/
def target (files : Files) (path : String) : Except SystemFault Place := do
  check path
  let names := names path
  if !endsInName path then
    files.checkFolder (← files.follow names)
    .error .isFolder
  else
    files.checkFolder (← files.follow names.dropLast)
    if path.endsWith "/" then .error .isFolder
    let place ← files.follow names
    if files.entry? place = some .folder then .error .isFolder else return place

def appendAt (files : Files) (place : Place) (bytes : List UInt8) : Except SystemFault Files :=
  match files.entry? place with
  | some (.file old) => .ok (files.put place (.file (old ++ bytes)))
  | some (.sink isFull) => if isFull && !bytes.isEmpty then .error .noSpace else .ok files
  | some .folder => .error .isFolder
  | none => .ok (files.put place (.file bytes))

def append (files : Files) (path : String) (bytes : List UInt8) : Except SystemFault Files := do
  files.appendAt (← files.target path) bytes

def create (files : Files) (path : String) : Except SystemFault Files := do
  let place ← files.target path
  match files.entry? place with
  | some (.sink _) => return files
  | _ => return files.put place (.file [])

/--
Makes the folder that names lead to. There is nothing to make where the last name is two dots.
-/
def makeFolder (files : Files) (names : List String) : Except SystemFault Files := do
  files.checkFolder (← files.follow names.dropLast)
  let place ← files.follow names
  if (files.entry? place).isSome then .error .occupied else return files.put place .folder

def hasFolder (files : Files) (names : List String) : Bool :=
  ((files.follow names).bind files.checkFolder).toBool

/--
Makes the folder that names lead to, the last one first, and those around it where they are missing.
-/
def makeFolders (files : Files) : List String → Except SystemFault Files
  | [] => .ok files
  | name :: outer =>
    let names := (name :: outer).reverse
    let orThere (files : Files) (fault : SystemFault) : Except SystemFault Files :=
      if files.hasFolder names then .ok files else .error fault
    match files.makeFolder names with
    | .ok files => .ok files
    | .error fault =>
      if fault = .missing then do
        let files ← files.makeFolders outer
        (files.makeFolder names).tryCatch (orThere files)
      else
        orThere files fault

/--
The number of bytes of a path without its last name, and without the slashes and dots around that.
-/
def parentSize (path : String) : Nat :=
  let parts := (Text.fields '/' path.toList).map String.ofList
  let isVoid (part : String) : Bool := part = "" || part = "."
  let outer := ((parts.reverse.dropWhile isVoid).drop 1).dropWhile isVoid
  ("/".intercalate outer.reverse).utf8ByteSize

def makeParent (files : Files) (path : String) : Except SystemFault Files :=
  if pathLimit < parentSize path then .error .tooLong
  else files.makeFolders (names path).dropLast.reverse

def add (files : Files) (path : String) (bytes : List UInt8) : Files :=
  let made := (files.makeParent path).toOption.getD files
  ((made.create path).bind fun files => files.append path bytes).toOption.getD made

def system : Files :=
  let folders := ["bin", "boot", "dev", "dev/fd", "dev/pts", "dev/shm", "etc", "home", "lib",
    "media", "mnt", "opt", "proc", "proc/self", "root", "run", "sbin", "srv", "sys", "tmp", "usr",
    "usr/bin", "usr/include", "usr/lib", "usr/local", "usr/sbin", "usr/share", "usr/src", "var",
    "var/cache", "var/lib", "var/log", "var/tmp"]
  let sinks := [("dev/full", true), ("dev/null", false), ("dev/zero", false)]
  ⟨folders.map (fun path => (root :: names path, .folder)) ++
    sinks.map fun (path, isFull) => (root :: names path, .sink isFull)⟩

end Files

end TouchPanel
