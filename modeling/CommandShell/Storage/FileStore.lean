import CommandShell.Storage.FileError
import CommandShell.Storage.Path

/-!
# A store of files

The store holds files and directories under their places: ways without detours
from the root, from the working directory or from a directory above it.  A path
is followed part by part through directories that have to exist.

There are no links, and the user is one that no permission bits hold back: the
bits are kept with each file, and whether it can be opened does not depend on them.
-/

namespace CommandShell

/-- What is at a place of the store. -/
inductive Node where
  | file (content : List UInt8) (mode : Nat)
  | directory (mode : Nat)
  deriving DecidableEq

def Node.mode : Node → Nat
  | file _ mode => mode
  | directory mode => mode

def Node.withMode : Node → Nat → Node
  | file content _, mode => file content mode
  | directory _, mode => directory mode

/-- Where a way starts. -/
inductive Anchor where
  | root
  /-- The working directory or, so many levels above it, a directory that it lies in. -/
  | working (above : Nat)
  deriving DecidableEq

/-- The directory above the start of a way; the root is its own parent. -/
def Anchor.parent : Anchor → Anchor
  | root => root
  | working above => working (above + 1)

/-- A way without detours, the last part first. -/
structure Place where
  anchor : Anchor
  parts : List String
  deriving DecidableEq

namespace Place

/-- The working directory. -/
def here : Place :=
  ⟨.working 0, []⟩

def root : Place :=
  ⟨.root, []⟩

def parent (place : Place) : Place :=
  match place.parts with
  | [] => { place with anchor := place.anchor.parent }
  | _ :: rest => { place with parts := rest }

def child (place : Place) (name : String) : Place :=
  { place with parts := name :: place.parts }

/-- The parts of a way that starts at the working directory, the first one first. -/
def partsFromHere? (place : Place) : Option (List String) :=
  if place.anchor = .working 0 then some place.parts.reverse else none

end Place

/-- What an open file gives to a reader: its bytes up to the end, or up to where reading fails. -/
structure FileReading where
  bytes : List UInt8
  failure : Option FileError
  deriving DecidableEq

/-- The whole content, unless reading fails before the end. -/
def FileReading.whole (reading : FileReading) : Except FileError (List UInt8) :=
  match reading.failure with
  | none => .ok reading.bytes
  | some error => .error error

/-- Nodes under their places.  The starts of ways are directories without being put there. -/
structure FileStore where
  nodes : List (Place × Node)

namespace FileStore

def empty : FileStore :=
  ⟨[]⟩

def directoryMode : Nat := 0o755

/-- The permission bits of a new file that anybody may read. -/
def sharedMode : Nat := 0o644

/-- The permission bits of a file for its owner alone. -/
def privateMode : Nat := 0o600

/-- The number of all choices of permission bits. -/
def modeLimit : Nat := 0o10000

/-- The greatest number of bytes in one part of a path. -/
def maxPartBytes : Nat := 255

/-- The number of bytes that no path reaches. -/
def pathBytesLimit : Nat := 4096

/-! ## Nodes -/

/-- The node that is at a place before anything is put there. -/
def standing? (place : Place) : Option Node :=
  if place.parts.isEmpty then some (.directory directoryMode) else none

def node? (store : FileStore) (place : Place) : Option Node :=
  (store.nodes.lookup place).or (standing? place)

def put (store : FileStore) (place : Place) (node : Node) : FileStore :=
  ⟨(place, node) :: store.nodes.filter fun entry => entry.1 ≠ place⟩

theorem node?_put_self (store : FileStore) (place : Place) (node : Node) :
    (store.put place node).node? place = some node := by
  simp [node?, put]

theorem node?_put_of_ne (store : FileStore) {place other : Place} (node : Node)
    (differ : other ≠ place) : (store.put place node).node? other = store.node? other := by
  have kept : (store.nodes.filter fun entry => entry.1 ≠ place).lookup other =
      store.nodes.lookup other := by
    induction store.nodes with
    | nil => rfl
    | cons entry rest ih =>
      by_cases same : entry.1 = place <;> grind
  simp only [node?, put, List.lookup_cons, beq_eq_false_iff_ne.mpr differ, kept]

/-- The node that is put last at a place stands there. -/
theorem put_put (store : FileStore) (place : Place) (first second : Node) :
    (store.put place first).put place second = store.put place second := by
  simp [put]

/-! ## Following a path -/

/-- The place that a part of a path names in a directory. -/
def step (directory : Place) (part : String) : Except FileError Place :=
  if part = "." then .ok directory
  else if part = ".." then .ok directory.parent
  else if maxPartBytes < part.utf8ByteSize then .error .nameTooLong
  else .ok (directory.child part)

/-- Goes to a part that has to be a directory. -/
def enter (store : FileStore) (directory : Place) (part : String) : Except FileError Place := do
  let place ← step directory part
  match store.node? place with
  | none => .error .notFound
  | some (.file _ _) => .error .notDirectory
  | some (.directory _) => .ok place

/-- The parts of a path that can be followed at all. -/
def partsOf (path : Path) : Except FileError (List String) :=
  if path.text.isEmpty then .error .notFound
  else if path.text.toList.contains '\x00' then .error .nulInPath
  else if pathBytesLimit ≤ path.text.utf8ByteSize then .error .nameTooLong
  else .ok path.parts

/-- The directory that a path starts from. -/
def origin (path : Path) : Place :=
  if path.isAbsolute then .root else .here

/-- The directory that holds the last part of a path; all parts before it have to exist. -/
def container (store : FileStore) (path : Path) : Except FileError Place := do
  let parts ← partsOf path
  parts.dropLast.foldlM store.enter (origin path)

/-- The place that a path leads to; all its parts but the last have to exist. -/
def locate (store : FileStore) (path : Path) : Except FileError Place := do
  let directory ← store.container path
  match path.parts.getLast? with
  | none => .ok directory
  | some part => step directory part

def lookup (store : FileStore) (path : Path) : Except FileError (Place × Node) := do
  let place ← store.locate path
  match store.node? place with
  | none => .error .notFound
  | some (.file content mode) =>
      if path.endsInSlash then .error .notDirectory else .ok (place, .file content mode)
  | some node => .ok (place, node)

/-! ## Access -/

/-- Opens what a path leads to.  A directory can be opened too, but nothing is read from it. -/
def openFile (store : FileStore) (path : Path) : Except FileError FileReading := do
  match ← store.lookup path with
  | (_, .file content _) => .ok ⟨content, none⟩
  | (_, .directory _) => .ok ⟨[], some .isDirectory⟩

def read (store : FileStore) (path : Path) : Except FileError (List UInt8) := do
  (← store.openFile path).whole

/-- The place and the permission bits of a file to write, new or not.  A path that ends in a
slash can only name a directory, whatever its last part is. -/
def target (store : FileStore) (path : Path) (newMode : Nat) : Except FileError (Place × Nat) := do
  let directory ← store.container path
  if path.endsInSlash then .error .isDirectory
  else match path.parts.getLast? with
    | none => .error .isDirectory
    | some part =>
      let place ← step directory part
      match store.node? place with
      | none => .ok (place, newMode)
      | some (.file _ mode) => .ok (place, mode)
      | some (.directory _) => .error .isDirectory

/-- Replaces the content of a file, which keeps its permission bits; a new file has the given
ones. -/
def overwrite (store : FileStore) (path : Path) (newMode : Nat) (content : List UInt8) :
    Except FileError FileStore := do
  let (place, mode) ← store.target path newMode
  .ok (store.put place (.file content mode))

/-- Replaces the content of a file; a new file can be read by all. -/
def write (store : FileStore) (path : Path) (content : List UInt8) :
    Except FileError FileStore :=
  store.overwrite path sharedMode content

def mode (store : FileStore) (path : Path) : Except FileError Nat := do
  let (_, node) ← store.lookup path
  .ok node.mode

/-- Changes the permission bits of what a path leads to; higher bits do not count. -/
def setMode (store : FileStore) (path : Path) (mode : Nat) : Except FileError FileStore := do
  let (place, node) ← store.lookup path
  .ok (store.put place (node.withMode (mode % modeLimit)))

/-- Replaces the content of a file and then leaves it to its owner alone; a new file is never
open to others. -/
def writePrivate (store : FileStore) (path : Path) (content : List UInt8) :
    Except FileError FileStore := do
  let written ← store.overwrite path privateMode content
  written.setMode path privateMode

/-! ## Making directories -/

/-- What is there after an attempt to make directories, and where the attempt has led. -/
structure Making where
  store : FileStore
  result : Except FileError Place

/-- Goes through parts and makes the directories that lack; those made before a failure stay. -/
def makeParts (store : FileStore) (directory : Place) : List String → Making
  | [] => ⟨store, .ok directory⟩
  | part :: rest =>
      match step directory part with
      | .error error => ⟨store, .error error⟩
      | .ok place =>
          match store.node? place with
          | none => (store.put place (.directory directoryMode)).makeParts place rest
          | some (.file _ _) => ⟨store, .error .notDirectory⟩
          | some (.directory _) => store.makeParts place rest

/-- Goes through the parts before the last one, and to the last one if that is a directory. -/
def makeParents (store : FileStore) (start : Place) (parts : List String) : Making :=
  let making := store.makeParts start parts.dropLast
  match parts.getLast? with
  | none => making
  | some part => { making with result := making.result.bind (making.store.enter · part) }

/-- The parts up to the last one that is not the directory itself. -/
def withoutFinalDots (parts : List String) : List String :=
  (parts.reverse.dropWhile (· = ".")).reverse

/--
Makes a directory and those that lead to it.  The empty path asks for nothing; a directory
that is named by a final dot is not made.
-/
def makeDirectories (store : FileStore) (path : Path) : Making :=
  if path.text.isEmpty then ⟨store, .ok .here⟩
  else match partsOf path with
    | .error error => ⟨store, .error error⟩
    | .ok parts =>
        let named := withoutFinalDots parts
        if named = parts then store.makeParts (origin path) parts
        else store.makeParents (origin path) named

/-- Puts a file at a path together with the directories that lead to it. -/
def plant (store : FileStore) (path : Path) (content : List UInt8) :
    Except FileError FileStore := do
  let parts ← partsOf path
  let making := store.makeParts (origin path) parts.dropLast
  let directory ← making.result
  match parts.getLast? with
  | none => .error .isDirectory
  | some part =>
      let place ← step directory part
      .ok (making.store.put place (.file content sharedMode))

/-- The files in the working directory and below it with their names and contents. -/
def files (store : FileStore) : List (String × List UInt8) :=
  store.nodes.filterMap fun entry =>
    match entry.2, entry.1.partsFromHere? with
    | .file content _, some parts => some ("/".intercalate parts, content)
    | _, _ => none

end FileStore

end CommandShell
