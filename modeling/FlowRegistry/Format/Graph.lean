import FlowRegistry.Model.Flow
import FlowRegistry.Error

/-!
# Well-formed flow graphs

The components of a flow are its process groups and processors. Listed in pre-order (a group's
identifier, then its processors', then its child groups in turn), their identifiers must be
distinct, and every connection anywhere in the tree must join two listed components.
`checkGraph` reports the first repeated identifier in that order, or else the first connection,
in pre-order, whose source or destination is not a component (the source is checked first).
-/

namespace FlowRegistry

mutual

/-- The identifiers of all components of a group, in pre-order. -/
def ProcessGroup.componentIds : ProcessGroup → List String
  | ⟨i, _, _, ps, gs, _, _⟩ => i :: ps.map (·.identifier) ++ ProcessGroup.componentIdsList gs

/-- The identifiers of all components of a list of groups, in pre-order. -/
def ProcessGroup.componentIdsList : List ProcessGroup → List String
  | [] => []
  | g :: gs => ProcessGroup.componentIds g ++ ProcessGroup.componentIdsList gs

end

mutual

/-- All connections of a group and the groups inside it, in pre-order. -/
def ProcessGroup.allConnections : ProcessGroup → List Connection
  | ⟨_, _, _, _, gs, cs, _⟩ => cs ++ ProcessGroup.allConnectionsList gs

/-- All connections of a list of groups, in pre-order. -/
def ProcessGroup.allConnectionsList : List ProcessGroup → List Connection
  | [] => []
  | g :: gs => ProcessGroup.allConnections g ++ ProcessGroup.allConnectionsList gs

end

/-- The first element of a list that repeats an earlier one, given the elements seen before. -/
def firstRepeat (seen : List String) : List String → Option String
  | [] => none
  | x :: xs => if x ∈ seen then some x else firstRepeat (x :: seen) xs

/-- The first endpoint of a connection, source before destination, that is not a component. -/
def Connection.strayEndpoint (ids : List String) (c : Connection) : Option String :=
  if c.sourceId ∉ ids then some c.sourceId
  else if c.destinationId ∉ ids then some c.destinationId
  else none

/-- Checks that component identifiers are distinct and connections join components. -/
def ProcessGroup.checkGraph (root : ProcessGroup) : Outcome Unit :=
  let ids := root.componentIds
  match firstRepeat [] ids with
  | some id => .error (.serialization s!"duplicate component id {id} in flow contents")
  | none =>
    let stray := root.allConnections.findSome? fun c => (c.strayEndpoint ids).map (c, ·)
    match stray with
    | some (c, e) =>
      .error (.serialization s!"connection {c.identifier} references unknown component {e}")
    | none => .ok ()

theorem firstRepeat_eq_none_iff (seen xs : List String) :
    firstRepeat seen xs = none ↔ (∀ x ∈ xs, x ∉ seen) ∧ xs.Nodup := by
  induction xs generalizing seen with
  | nil => simp [firstRepeat]
  | cons x xs ih =>
    unfold firstRepeat
    by_cases h : x ∈ seen
    · simp [h]
    · simp only [h, if_false, ih, List.mem_cons, not_or, List.nodup_cons]
      constructor
      · rintro ⟨h1, h2⟩
        exact ⟨fun y hy => by
          rcases hy with rfl | hy
          · exact h
          · exact (h1 y hy).2, fun hx => (h1 x hx).1 rfl, h2⟩
      · rintro ⟨h1, h2, h3⟩
        exact ⟨fun y hy => ⟨fun e => h2 (e ▸ hy), h1 y (Or.inr hy)⟩, h3⟩

end FlowRegistry
