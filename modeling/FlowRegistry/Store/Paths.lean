import FlowRegistry.Store.Content

/-!
# Paths of the filesystem store

The filesystem store keeps the blob of a version `v` of an entity `e` at `{root}/{e}/{v}.snapshot`,
writing it first to `{root}/{e}/{v}.tmp`. This module gives the paths of a Unix system as the
standard library treats them, and the store's paths built from them.

A path is its text. Split at each `/`, the text falls into pieces; its components are the pieces
that name something, read as the library reads them: an empty piece or `.` names nothing (but a
leading `.` is the current directory), `..` is the parent directory, and a leading `/` the root.
Two paths are the same path when their components are (`Path.components`), and a path starts with
another when its components do. Joining a relative path adds a separator unless the first path is
empty or ends with one; joining an absolute path replaces the first. The file name is the last
component if it is a name; its stem and extension are split at its last dot, unless that dot
leads the name or the name is `..`.
-/

namespace FlowRegistry

/-! ### Components -/

/-- A component of a path. -/
inductive Component where
  | rootDir
  | curDir
  | parentDir
  | normal (name : String)
  deriving DecidableEq, Repr

namespace Component

/-- The component a piece between separators stands for, if any. -/
def ofPiece (cs : List Char) : Option Component :=
  if cs = [] ∨ cs = ['.'] then none
  else if cs = ['.', '.'] then some .parentDir
  else some (.normal (String.ofList cs))

/-- The component a path starts with before its pieces: the root of an absolute path, and the
current directory of a relative path whose first piece is `.`. -/
def lead : List (List Char) → List Component
  | [] :: _ :: _ => [.rootDir]
  | ['.'] :: _ => [.curDir]
  | _ => []

end Component

/-! ### Paths -/

/-- A path of a Unix system, by its text. -/
structure Path where
  text : String
  deriving Repr

namespace Path

/-- The pieces of a path's text between separators. -/
def pieces (p : Path) : List (List Char) := p.text.toList.splitOn '/'

/-- The components of a path: how the standard library reads and compares it. -/
def components (p : Path) : List Component :=
  Component.lead p.pieces ++ p.pieces.filterMap Component.ofPiece

/-- Whether a path starts at the root. -/
def isAbsolute (p : Path) : Bool := p.text.toList.head? == some '/'

/-- `p` with `q` pushed onto it: `q` if it is absolute, else `q` after `p` and a separator, if
`p` is not empty and does not end with one. -/
def join (p q : Path) : Path :=
  if q.isAbsolute then q
  else if p.text.toList.getLast?.any (· != '/') then ⟨p.text ++ "/" ++ q.text⟩
  else ⟨p.text ++ q.text⟩

/-- Whether `p` starts with `base`, component by component. -/
def StartsWith (p base : Path) : Prop := base.components <+: p.components

/-- The last component of a path, if it is a name. -/
def fileName (p : Path) : Option String :=
  match p.components.getLast? with
  | some (.normal name) => some name
  | _ => none

end Path

/-- A file name split at its last dot into its stem and the extension after the dot. A name
without a dot, one whose only dot leads it, and `..` have no extension and are their own stem. -/
def splitExtension (name : String) : String × Option String :=
  let cs := name.toList
  let after := (cs.reverse.takeWhile (· ≠ '.')).reverse
  let before := (cs.reverse.drop (after.length + 1)).reverse
  if name = ".." ∨ after.length = cs.length ∨ before = [] then (name, none)
  else (String.ofList before, some (String.ofList after))

namespace Path

/-- The file name without its extension. -/
def fileStem (p : Path) : Option String := p.fileName.map fun n => (splitExtension n).1

/-- The extension of the file name. -/
def extension (p : Path) : Option String := p.fileName.bind fun n => (splitExtension n).2

/-- `p` with the extension of its file name replaced by `ext`: the text is cut right after the
file stem, and `.ext` is added unless `ext` is empty. A path without a file name stays as it is. -/
def withExtension (p : Path) (ext : String) : Path :=
  match p.fileStem with
  | none => p
  | some stem =>
    -- the pieces before the file name: drop the trailing empty and `.` pieces, then the name
    let before := ((p.pieces.reverse.dropWhile fun cs => cs = [] ∨ cs = ['.']).drop 1).reverse
    let last := stem.toList ++ (if ext = "" then [] else '.' :: ext.toList)
    ⟨String.ofList (['/'].intercalate (before ++ [last]))⟩

end Path

/-! ### Where the filesystem store keeps blobs -/

/-- The extension of a blob's file. -/
def contentExtension : String := "snapshot"

/-- The directory of an entity's blobs under the root `base`. -/
def entityDir (base : Path) (e : String) : Outcome Path := do
  checkSegment "entity id" e
  pure (base.join ⟨e⟩)

/-- The file of the blob of version `v` of entity `e` under the root `base`. -/
def contentPath (base : Path) (e v : String) : Outcome Path := do
  checkSegment "version" v
  let dir ← entityDir base e
  pure (dir.join ⟨v ++ "." ++ contentExtension⟩)

/-- The file a save of the blob of version `v` of entity `e` writes before renaming it. -/
def draftPath (base : Path) (e v : String) : Outcome Path :=
  (·.withExtension "tmp") <$> contentPath base e v

end FlowRegistry
