import FlowRegistry.Error
import FlowRegistry.Text.Utf8
import FlowRegistry.Text.Quoted

/-!
# Content stores

Serialized snapshots and bundle artifacts are kept per entity, one blob per version key. Two
stores implement one key-value model:

* in memory, a map from entity to a map from version to bytes;
* on a filesystem, a directory per entity under a root, holding the file `{version}.snapshot` for
  each version. A write goes to `{version}.tmp` first and is then renamed. A name longer than 255
  bytes cannot be created or looked up (`File name too long`), so a version whose temporary name
  fits but whose final name does not leaves its temporary file behind.

Entity ids and versions must not be empty, `.` or `..`, nor contain `/`, `\` or a NUL; the
filesystem store checks this for every call (the version first), the memory store only when
saving (the entity first). Versions are listed numerically when they read as unsigned 64-bit
numbers (a leading `+` allowed), and after those by their text.
-/

namespace FlowRegistry

/-! ### Keyed lists -/

/-- The value under a key of a list sorted by key. -/
def keyedGet? {β : Type} (k : String) (xs : List (String × β)) : Option β :=
  (xs.find? (·.1 == k)).map (·.2)

/-- Sets the value under a key of a list sorted by key. -/
def keyedSet {β : Type} (k : String) (v : β) : List (String × β) → List (String × β)
  | [] => [(k, v)]
  | (k', w) :: rest =>
    if k = k' then (k, v) :: rest
    else if k < k' then (k, v) :: (k', w) :: rest
    else (k', w) :: keyedSet k v rest

/-- Removes the entry under a key. -/
def keyedErase {β : Type} (k : String) (xs : List (String × β)) : List (String × β) :=
  xs.filter (·.1 != k)

/-! ### Version keys -/

/-- The value of a version key that reads as an unsigned 64-bit number. -/
def versionNumber? (s : String) : Option Nat :=
  let cs := match s.toList with
    | '+' :: rest => rest
    | cs => cs
  if cs.isEmpty || !cs.all Char.isDigit then none
  else
    let n := cs.foldl (fun acc c => acc * 10 + (c.toNat - 48)) 0
    if n < Nat.pow 2 64 then some n else none

/-- How two version keys compare in listing order: numbers first by value, then the rest by
text. -/
def versionOrder (a b : String) : Ordering :=
  match versionNumber? a, versionNumber? b with
  | some x, some y => compare x y
  | some _, none => .lt
  | none, some _ => .gt
  | none, none => compare a b

/-- Whether version key `a` comes before or with `b`. -/
def versionLe (a b : String) : Bool := (versionOrder a b).isLE

/-- Version keys in listing order. -/
def sortVersions (vs : List String) : List String := vs.mergeSort versionLe

/-! ### Keys -/

/-- Refuses a key that could leave the entity's directory. -/
def checkSegment (kind value : String) : Outcome Unit :=
  if value.isEmpty || value == "." || value == ".." || value.any (fun c => c == '/' || c == '\\' || c == '\x00') then
    .error (.invalidInput s!"invalid {kind} for content storage: {Text.quote value}")
  else .ok ()

/-- The fault of a missing blob. -/
def missingContent (entityId version : String) : RegistryError :=
  .notFound s!"content {version} of entity {entityId}"

/-! ### In memory -/

/-- Blobs by entity, then by version. -/
structure MemoryBlobs where
  entities : List (String × List (String × Bytes))
  deriving Inhabited

namespace MemoryBlobs

def save (m : MemoryBlobs) (e v : String) (data : Bytes) : Outcome MemoryBlobs := do
  checkSegment "entity id" e
  checkSegment "version" v
  let versions := (keyedGet? e m.entities).getD []
  pure ⟨keyedSet e (keyedSet v data versions) m.entities⟩

def get (m : MemoryBlobs) (e v : String) : Outcome Bytes :=
  match (keyedGet? e m.entities).bind (keyedGet? v) with
  | some data => .ok data
  | none => .error (missingContent e v)

def delete (m : MemoryBlobs) (e v : String) : MemoryBlobs :=
  match keyedGet? e m.entities with
  | none => m
  | some versions =>
    let rest := keyedErase v versions
    if rest.isEmpty then ⟨keyedErase e m.entities⟩ else ⟨keyedSet e rest m.entities⟩

def deleteAll (m : MemoryBlobs) (e : String) : MemoryBlobs := ⟨keyedErase e m.entities⟩

def list (m : MemoryBlobs) (e : String) : List String :=
  sortVersions (((keyedGet? e m.entities).getD []).map (·.1))

end MemoryBlobs

/-! ### On a filesystem -/

/-- The longest file name, in bytes. -/
def nameMax : Nat := 255

/-- The fault of a name longer than `nameMax`. -/
def nameTooLong : RegistryError := .persistence "File name too long (os error 36)"

/-- Whether a file name is too long to exist. -/
def tooLong (name : String) : Bool := nameMax < name.utf8ByteSize

/-- The file name of a version's blob. -/
def blobName (v : String) : String := v ++ ".snapshot"

/-- The file name a version's blob is written to before it is renamed. -/
def draftName (v : String) : String := v ++ ".tmp"

/-- The directory of the health check under the root. -/
def checkDir : String := ".health-check"

/-- The files of a directory of a store on a filesystem: the root and one directory per entity,
each holding files by name. -/
structure Disk where
  rootExists : Bool
  dirs : List (String × List (String × Bytes))
  deriving Inhabited

namespace Disk

/-- The files of an entity's directory, if it exists. -/
def dir? (d : Disk) (e : String) : Option (List (String × Bytes)) := keyedGet? e d.dirs

/-- Whether the blob of a version exists: a fault when a name on the way is too long. -/
def blobExists (d : Disk) (e v : String) : Outcome Bool :=
  if tooLong e then .error nameTooLong
  else match d.dir? e with
    | none => .ok false
    | some files => if tooLong (blobName v) then .error nameTooLong
      else .ok (keyedGet? (blobName v) files).isSome

def save (d : Disk) (e v : String) (data : Bytes) : Outcome Unit × Disk :=
  match checkSegment "version" v *> checkSegment "entity id" e with
  | .error err => (.error err, d)
  | .ok () =>
    if tooLong e then (.error nameTooLong, d)
    else
      let files := (d.dir? e).getD []
      let d1 : Disk := ⟨true, keyedSet e files d.dirs⟩
      if tooLong (draftName v) then (.error nameTooLong, d1)
      else
        let files2 := keyedSet (draftName v) data files
        let d2 : Disk := ⟨true, keyedSet e files2 d.dirs⟩
        if tooLong (blobName v) then (.error nameTooLong, d2)
        else
          let files3 := keyedSet (blobName v) data (keyedErase (draftName v) files2)
          (.ok (), ⟨true, keyedSet e files3 d.dirs⟩)

def get (d : Disk) (e v : String) : Outcome Bytes := do
  checkSegment "version" v
  checkSegment "entity id" e
  if tooLong e then throw nameTooLong
  match d.dir? e with
  | none => throw (missingContent e v)
  | some files =>
    if tooLong (blobName v) then throw nameTooLong
    match keyedGet? (blobName v) files with
    | some data => pure data
    | none => throw (missingContent e v)

def delete (d : Disk) (e v : String) : Outcome Disk := do
  checkSegment "version" v
  checkSegment "entity id" e
  if ← d.blobExists e v then
    let files := (d.dir? e).getD []
    pure ⟨d.rootExists, keyedSet e (keyedErase (blobName v) files) d.dirs⟩
  else pure d

def deleteAll (d : Disk) (e : String) : Outcome Disk := do
  checkSegment "entity id" e
  if tooLong e then throw nameTooLong
  pure ⟨d.rootExists, keyedErase e d.dirs⟩

def list (d : Disk) (e : String) : Outcome (List String) := do
  checkSegment "entity id" e
  if tooLong e then throw nameTooLong
  match d.dir? e with
  | none => pure []
  | some files =>
    let stems := files.filterMap fun (name, _) =>
      if name.endsWith ".snapshot" then some (name.dropEnd 9).toString else none
    pure (sortVersions stems)

/-- Checks that the store can write, read back and delete: creates the root and a check
directory, writes and removes a file in it, then removes the directory if it is empty. -/
def validate (d : Disk) : Disk :=
  let files := keyedErase "write-check.tmp" ((d.dir? checkDir).getD [])
  let dirs := if files.isEmpty then keyedErase checkDir d.dirs else keyedSet checkDir files d.dirs
  ⟨true, dirs⟩

end Disk

/-! ### Either store -/

/-- A content store. -/
inductive ContentStore where
  | memory (blobs : MemoryBlobs)
  | disk (d : Disk)
  deriving Inhabited

namespace ContentStore

/-- The name of the kind of store. -/
def name : ContentStore → String
  | .memory _ => "memory"
  | .disk _ => "filesystem"

def save (s : ContentStore) (e v : String) (data : Bytes) : Outcome Unit × ContentStore :=
  match s with
  | .memory m =>
    match m.save e v data with
    | .ok m' => (.ok (), .memory m')
    | .error err => (.error err, s)
  | .disk d =>
    let (r, d') := d.save e v data
    (r, .disk d')

def get (s : ContentStore) (e v : String) : Outcome Bytes :=
  match s with
  | .memory m => m.get e v
  | .disk d => d.get e v

def delete (s : ContentStore) (e v : String) : Outcome ContentStore :=
  match s with
  | .memory m => .ok (.memory (m.delete e v))
  | .disk d => .disk <$> d.delete e v

def deleteAll (s : ContentStore) (e : String) : Outcome ContentStore :=
  match s with
  | .memory m => .ok (.memory (m.deleteAll e))
  | .disk d => .disk <$> d.deleteAll e

def list (s : ContentStore) (e : String) : Outcome (List String) :=
  match s with
  | .memory m => .ok (m.list e)
  | .disk d => d.list e

end ContentStore

end FlowRegistry
