import StubCompiler.Files.Error
import StubCompiler.Files.Path
import StubCompiler.Text.Utf8

/-!
# File trees

A file tree holds directories and files, and says which of them may be used and how; links and devices
are left out.  A path is followed piece by piece, from the root if a slash comes first and from the
working directory otherwise: everything in front of a piece must be a directory that may be searched.
Three operations are all that the compiler needs: to read a text, to make the directories in which a
file lies, and to write a text.
-/

namespace StubCompiler

inductive Content where
  | text (text : Text)
  /-- Bytes that are no text. -/
  | binary (bytes : List UInt8)
deriving DecidableEq, Repr

namespace Content

def ofBytes (bytes : List UInt8) : Content :=
  match Utf8.text? bytes with
  | some t => .text t
  | none => .binary bytes

/-- The lines of a file, each if it is a text. -/
def lines : Content → List (Option Text)
  | .text t => t.lines.map some
  | .binary bytes => (bytes.splitOn '\n'.toUInt8).map Utf8.text?

end Content

inductive Node where
  | directory
  | file (content : Content)
deriving DecidableEq, Repr

/-- The names on the way from the root. -/
abbrev Location := List Text

inductive Right where
  /-- To look up names in a directory. -/
  | search
  | read
  /-- To replace what a file holds, or to put something into a directory. -/
  | write
deriving DecidableEq, Repr

structure FileTree where
  /-- What there is below the root. -/
  nodes : List (Location × Node) := []
  /-- The working directory. -/
  working : Location := []
  allows : Right → Location → Bool := fun _ _ => true

namespace FileTree

/-- What is at a location; the root is always there. -/
def get? (tree : FileTree) (here : Location) : Option Node :=
  if here = [] then some .directory else tree.nodes.lookup here

def insert (tree : FileTree) (here : Location) (node : Node) : FileTree :=
  { tree with nodes := (here, node) :: tree.nodes.filter fun (location, _) => !(location == here) }

theorem lookup_filter_of_ne {here there : Location} (h : there ≠ here)
    (nodes : List (Location × Node)) :
    (nodes.filter fun (location, _) => !(location == here)).lookup there = nodes.lookup there := by
  induction nodes with
  | nil => rfl
  | cons p nodes ih =>
    obtain ⟨location, node⟩ := p
    by_cases hl : location = here
    · have hb : (there == location) = false := by simpa [hl] using h
      rw [List.filter_cons_of_neg (by simp [hl]), ih, List.lookup_cons, hb]
    · rw [List.filter_cons_of_pos (by simp [hl]), List.lookup_cons, List.lookup_cons, ih]

theorem get?_insert (tree : FileTree) {here : Location} (there : Location) (node : Node)
    (h : here ≠ []) :
    (tree.insert here node).get? there = if there = here then some node else tree.get? there := by
  by_cases ht : there = here
  · subst ht
    simp [get?, insert, h]
  · have hb : (there == here) = false := by simpa using ht
    simp only [get?, insert, List.lookup_cons, hb, lookup_filter_of_ne ht, if_neg ht]

/-! ### Following paths -/

/-- The longest name that a directory can hold, in bytes. -/
def longestName : Nat := 255

/-- The longest path that the system takes, in bytes. -/
def longestPath : Nat := 4095

/-- Where a piece of a path leads from `here`, which must be a directory; there may be nothing there. -/
def step (tree : FileTree) (here : Location) (piece : Text) : Except IoError Location :=
  match tree.get? here with
  | none => .error .notFound
  | some (.file _) => .error .notADirectory
  | some .directory =>
    if piece = [] then .ok here
    else if !tree.allows .search here then .error .permissionDenied
    else if piece = "." then .ok here
    else if piece = ".." then .ok here.dropLast
    else if longestName < piece.byteLength then .error .nameTooLong
    else .ok (here ++ [piece])

/-- The pieces of a path between its slashes, if the system takes the path at all. -/
def pieces (path : Text) : Except IoError (List Text) :=
  if path.contains '\x00' then .error .nulInPath
  else if path = [] then .error .notFound
  else if longestPath < path.byteLength then .error .nameTooLong
  else .ok (path.splitOn '/')

/-- Where a path starts: at the root if a slash comes first. -/
def start (tree : FileTree) (pieces : List Text) : Location :=
  if pieces.head? = some [] then [] else tree.working

def follow (tree : FileTree) (pieces : List Text) : Except IoError Location :=
  pieces.foldlM tree.step (tree.start pieces)

/-- The directory to which pieces lead, if names may be looked up in it. -/
def directory (tree : FileTree) (pieces : List Text) : Except IoError Location := do
  let here ← tree.follow pieces
  match tree.get? here with
  | none => .error .notFound
  | some (.file _) => .error .notADirectory
  | some .directory => if tree.allows .search here then return here else .error .permissionDenied

/-- The directory in which a path is looked up last, and the piece that is looked up there; slashes at
the end do not count, and a path of nothing else leads to the root. -/
def lastStep (tree : FileTree) (path : Text) : Except IoError (Location × Text) := do
  match (← pieces path).reverse.dropWhile (· = []) with
  | [] => return ([], ".")
  | piece :: before => return (← tree.directory before.reverse, piece)

/-! ### Operations -/

def read (tree : FileTree) (path : Text) : Except IoError Text := do
  let here ← tree.follow (← pieces path)
  match tree.get? here with
  | none => .error .notFound
  | some node =>
    if !tree.allows .read here then .error .permissionDenied
    else match node with
      | .directory => .error .isADirectory
      | .file (.binary _) => .error .notUtf8
      | .file (.text text) => .ok text

/-- Where a file that is written lies.  Dots, and a slash at the end, ask for a directory. -/
def target (tree : FileTree) (path : Text) : Except IoError Location := do
  let (directory, piece) ← tree.lastStep path
  if piece = "." || piece = ".." || path.getLast? = some '/' then .error .isADirectory
  let here ← tree.step directory piece
  match tree.get? here with
  | some .directory => .error .isADirectory
  | some (.file _) => if tree.allows .write here then return here else .error .permissionDenied
  | none => if tree.allows .write directory then return here else .error .permissionDenied

def write (tree : FileTree) (path text : Text) : Except IoError FileTree := do
  let here ← tree.target path
  return tree.insert here (.file (.text text))

/-- The tree in which a path leads to a directory: where nothing is, one is made, but the directory in
which it lies must be there. -/
def makeDirectory (tree : FileTree) (path : Text) : Except IoError FileTree := do
  let (directory, piece) ← tree.lastStep path
  let here ← tree.step directory piece
  match tree.get? here with
  | some .directory => return tree
  | some (.file _) => .error .alreadyExists
  | none =>
    if tree.allows .write directory then return tree.insert here .directory
    else .error .permissionDenied

/-- Makes the first of some directories, each of which lies in the next.  The next one is made only if
the first cannot be made for the lack of it; those made before an obstacle stay. -/
def makeDirectories (tree : FileTree) : List Text → FileTree × Except IoError Unit
  | [] => (tree, .ok ())
  | path :: above =>
    match tree.makeDirectory path with
    | .ok tree => (tree, .ok ())
    | .error .notFound =>
      match makeDirectories tree above with
      | (tree, .ok ()) =>
        match tree.makeDirectory path with
        | .ok tree => (tree, .ok ())
        | .error error => (tree, .error error)
      | obstacle => obstacle
    | .error error => (tree, .error error)

def makeParents (tree : FileTree) (path : Text) : FileTree × Except IoError Unit :=
  makeDirectories tree (Path.directories path)

end FileTree

end StubCompiler
