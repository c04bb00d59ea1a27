import FlowRegistry.Model.Revision

/-!
# The revision store

A revision table holds at most one revision per entity id, kept sorted by id. Creating a
revision for an id that has one fails; a put is conditional on the version it expects to replace;
deleting says whether there was one.

Main statements: `get?_create` and `get?_put` say what a successful write leaves under each id.
-/

namespace FlowRegistry

/-- Revisions by entity id, sorted by id, one per id. -/
structure RevisionTable where
  entries : List Revision
  deriving Inhabited

namespace RevisionTable

/-- The empty table. -/
def empty : RevisionTable := ⟨[]⟩

/-- The revision stored under an entity id. -/
def get? (t : RevisionTable) (entityId : String) : Option Revision :=
  t.entries.find? (·.entityId == entityId)

/-- Inserts a revision into a list sorted by id, replacing one with the same id. -/
def insertSorted (r : Revision) : List Revision → List Revision
  | [] => [r]
  | s :: rest =>
    if r.entityId = s.entityId then r :: rest
    else if r.entityId < s.entityId then r :: s :: rest
    else s :: insertSorted r rest

/-- Stores a revision under its id, replacing any. -/
def store (t : RevisionTable) (r : Revision) : RevisionTable := ⟨insertSorted r t.entries⟩

/-- Registers the first revision of an entity. -/
def create (t : RevisionTable) (r : Revision) : Outcome RevisionTable :=
  match t.get? r.entityId with
  | some _ => .error (.alreadyExists s!"revision for entity {r.entityId}")
  | none => .ok (t.store r)

/-- Replaces the revision of an entity, if its stored version is the one expected. -/
def put (t : RevisionTable) (expected : Nat) (r : Revision) : Outcome RevisionTable :=
  match t.get? r.entityId with
  | none => .error (.notFound s!"revision for entity {r.entityId}")
  | some s =>
    if s.version = expected then .ok (t.store r)
    else .error (.staleRevision r.entityId expected s.version)

/-- Removes the revision of an entity; says whether there was one. -/
def delete (t : RevisionTable) (entityId : String) : RevisionTable × Bool :=
  ((⟨t.entries.filter (·.entityId != entityId)⟩ : RevisionTable), (t.get? entityId).isSome)

/-- All revisions, sorted by entity id. -/
def list (t : RevisionTable) : List Revision := t.entries

/-- The number of stored revisions. -/
def size (t : RevisionTable) : Nat := t.entries.length

theorem find?_insertSorted (r : Revision) (xs : List Revision) (e : String) :
    (insertSorted r xs).find? (·.entityId == e) =
      if r.entityId = e then some r else xs.find? (·.entityId == e) := by
  induction xs with
  | nil => by_cases h : r.entityId = e <;> simp [insertSorted, h]
  | cons s rest ih =>
    unfold insertSorted
    by_cases h1 : r.entityId = s.entityId
    · rw [if_pos h1]
      by_cases h2 : r.entityId = e
      · simp [h2]
      · simp [h2, ← h1]
    · rw [if_neg h1]
      by_cases h2 : r.entityId < s.entityId
      · rw [if_pos h2]
        by_cases h3 : r.entityId = e <;> simp [h3]
      · rw [if_neg h2, List.find?_cons, ih]
        by_cases h3 : r.entityId = e
        · have h4 : (s.entityId == e) = false := beq_false_of_ne fun h => h1 (h3.trans h.symm)
          simp [h3, h4]
        · by_cases h4 : s.entityId = e
          · simp [h3, h4]
          · have h5 : (s.entityId == e) = false := beq_false_of_ne h4
            simp [h3, h5]

theorem get?_store (t : RevisionTable) (r : Revision) (e : String) :
    (t.store r).get? e = if r.entityId = e then some r else t.get? e :=
  find?_insertSorted r t.entries e

theorem get?_create {t t' : RevisionTable} {r : Revision} (h : t.create r = .ok t') (e : String) :
    t'.get? e = if r.entityId = e then some r else t.get? e := by
  unfold create at h
  split at h
  · cases h
  · cases h; exact get?_store t r e

theorem get?_put {t t' : RevisionTable} {v : Nat} {r : Revision} (h : t.put v r = .ok t')
    (e : String) : t'.get? e = if r.entityId = e then some r else t.get? e := by
  unfold put at h
  split at h
  · cases h
  · split at h
    · cases h; exact get?_store t r e
    · cases h

end RevisionTable

end FlowRegistry
