import FlowRegistry.Proofs.LegacyFormat

/-!
# Which flow graphs the snapshot encoders refuse

Both snapshot formats check a flow's graph before writing it (`ProcessGroup.checkGraph`). The
check is characterised without reference to how it runs: it refuses a tree exactly when its
component identifiers, listed in pre-order, repeat one, or some connection anywhere in the tree
names an endpoint that is not among them. The refusal names the first identifier, in pre-order,
that repeats an earlier one (`FirstRepeat`); only when there is none does it name the first
connection, in pre-order, with an endpoint outside the list, and of that connection its source
if the source is outside, else its destination (`FirstStray`).

The current format refuses exactly what the check refuses. The legacy format refuses all of that
with the same error, and besides, by design, every snapshot with parameter contexts or with a
group that declares variables, which it cannot represent
(`legacy_encode_refuses_group_with_variables`).
-/

namespace FlowRegistry

/-! ### The first repeated identifier -/

/-- `x` is the first element of `xs` that repeats an earlier one: the elements before it are
distinct, and `x` is among them. -/
def FirstRepeat (xs : List String) (x : String) : Prop :=
  ∃ l₁ l₂, xs = l₁ ++ x :: l₂ ∧ l₁.Nodup ∧ x ∈ l₁

/-- With `seen` the elements met so far, the search stops at the first element met before. -/
theorem firstRepeat_eq_some_iff {seen xs : List String} {x : String} :
    firstRepeat seen xs = some x ↔
      ∃ l₁ l₂, xs = l₁ ++ x :: l₂ ∧ l₁.Nodup ∧ (∀ y ∈ l₁, y ∉ seen) ∧
        (x ∈ l₁ ∨ x ∈ seen) := by
  induction xs generalizing seen with
  | nil => simp [firstRepeat]
  | cons y ys ih =>
    unfold firstRepeat
    by_cases hy : y ∈ seen
    · -- `y` was met before: it is the answer, and nothing stands before it
      simp only [hy, if_true, Option.some.injEq]
      constructor
      · rintro rfl
        exact ⟨[], ys, rfl, List.nodup_nil, by simp, .inr hy⟩
      · rintro ⟨l₁, l₂, h, -, hl₁, -⟩
        cases l₁ with
        | nil => exact (List.cons.inj h).1
        | cons z zs =>
          obtain ⟨rfl, -⟩ := List.cons.inj h
          exact absurd hy (hl₁ y List.mem_cons_self)
    · -- `y` is new: the answer is further on, with `y` among the elements met
      simp only [hy, if_false, ih]
      constructor
      · rintro ⟨l₁, l₂, rfl, hnd, hl₁, hx⟩
        refine ⟨y :: l₁, l₂, rfl,
          List.nodup_cons.2 ⟨fun h => hl₁ y h List.mem_cons_self, hnd⟩, ?_, ?_⟩
        · intro z hz
          rcases List.mem_cons.1 hz with rfl | hz
          · exact hy
          · exact fun hs => hl₁ z hz (List.mem_cons_of_mem _ hs)
        · rcases hx with hx | hx
          · exact .inl (List.mem_cons_of_mem _ hx)
          · rcases List.mem_cons.1 hx with rfl | hx
            · exact .inl List.mem_cons_self
            · exact .inr hx
      · rintro ⟨l₁, l₂, h, hnd, hl₁, hx⟩
        cases l₁ with
        | nil =>
          obtain ⟨rfl, -⟩ := List.cons.inj h
          simp at hx
          exact absurd hx hy
        | cons z zs =>
          obtain ⟨rfl, rfl⟩ := List.cons.inj h
          refine ⟨zs, l₂, rfl, (List.nodup_cons.1 hnd).2, ?_, ?_⟩
          · intro w hw hws
            rcases List.mem_cons.1 hws with rfl | hws
            · exact (List.nodup_cons.1 hnd).1 hw
            · exact hl₁ w (List.mem_cons_of_mem _ hw) hws
          · rcases hx with hx | hx
            · rcases List.mem_cons.1 hx with rfl | hx
              · exact .inr List.mem_cons_self
              · exact .inl hx
            · exact .inr (List.mem_cons_of_mem _ hx)

theorem firstRepeat_nil_eq_some_iff {xs : List String} {x : String} :
    firstRepeat [] xs = some x ↔ FirstRepeat xs x := by
  simp [firstRepeat_eq_some_iff, FirstRepeat]

/-! ### The first stray endpoint -/

/-- Both endpoints of a connection are among `ids`. -/
def Connection.Joins (ids : List String) (c : Connection) : Prop :=
  c.sourceId ∈ ids ∧ c.destinationId ∈ ids

/-- The connection `c` of `cs` is the first with an endpoint outside `ids`, and `e` is that
endpoint, the source if it is outside, else the destination. -/
def FirstStray (ids : List String) (cs : List Connection) (c : Connection) (e : String) : Prop :=
  ∃ cs₁ cs₂, cs = cs₁ ++ c :: cs₂ ∧ (∀ d ∈ cs₁, d.Joins ids) ∧
    (c.sourceId ∉ ids ∧ e = c.sourceId ∨
      c.sourceId ∈ ids ∧ c.destinationId ∉ ids ∧ e = c.destinationId)

theorem Connection.strayEndpoint_eq_none_iff {ids : List String} {c : Connection} :
    c.strayEndpoint ids = none ↔ c.Joins ids := by
  unfold strayEndpoint Joins
  by_cases hs : c.sourceId ∈ ids <;> by_cases hd : c.destinationId ∈ ids <;> simp [hs, hd]

theorem Connection.strayEndpoint_eq_some_iff {ids : List String} {c : Connection} {e : String} :
    c.strayEndpoint ids = some e ↔
      c.sourceId ∉ ids ∧ e = c.sourceId ∨
        c.sourceId ∈ ids ∧ c.destinationId ∉ ids ∧ e = c.destinationId := by
  unfold strayEndpoint
  by_cases hs : c.sourceId ∈ ids <;> by_cases hd : c.destinationId ∈ ids <;>
    simp [hs, hd, eq_comm]

/-- The search of the check over the connections finds exactly the first stray endpoint. -/
theorem findSome?_stray_eq_some_iff {ids : List String} {cs : List Connection} {c : Connection}
    {e : String} :
    cs.findSome? (fun d => (d.strayEndpoint ids).map (d, ·)) = some (c, e) ↔
      FirstStray ids cs c e := by
  rw [List.findSome?_eq_some_iff]
  constructor
  · rintro ⟨cs₁, d, cs₂, rfl, hd, hcs₁⟩
    obtain ⟨e', he', hde⟩ := Option.map_eq_some_iff.1 hd
    obtain ⟨rfl, rfl⟩ := Prod.mk.inj hde
    refine ⟨cs₁, cs₂, rfl, fun d' hd' => ?_, Connection.strayEndpoint_eq_some_iff.1 he'⟩
    exact Connection.strayEndpoint_eq_none_iff.1 (by simpa using hcs₁ d' hd')
  · rintro ⟨cs₁, cs₂, rfl, hcs₁, he⟩
    refine ⟨cs₁, c, cs₂, rfl, ?_, fun d hd => ?_⟩
    · simp [Connection.strayEndpoint_eq_some_iff.2 he]
    · simp [Connection.strayEndpoint_eq_none_iff.2 (hcs₁ d hd)]

theorem findSome?_stray_eq_none_iff {ids : List String} {cs : List Connection} :
    cs.findSome? (fun d => (d.strayEndpoint ids).map (d, ·)) = none ↔
      ∀ c ∈ cs, c.Joins ids := by
  simp [Connection.strayEndpoint_eq_none_iff]

/-! ### The check -/

namespace ProcessGroup

variable {root : ProcessGroup}

/-- The tree's identifiers are distinct and its connections join components. -/
def GraphOk (root : ProcessGroup) : Prop :=
  root.componentIds.Nodup ∧ ∀ c ∈ root.allConnections, c.Joins root.componentIds

theorem checkGraph_of_firstRepeat {x : String} (h : FirstRepeat root.componentIds x) :
    root.checkGraph = .error (.serialization s!"duplicate component id {x} in flow contents") := by
  unfold checkGraph
  dsimp only
  rw [firstRepeat_nil_eq_some_iff.2 h]

theorem checkGraph_of_firstStray (hnd : root.componentIds.Nodup) {c : Connection} {e : String}
    (h : FirstStray root.componentIds root.allConnections c e) :
    root.checkGraph =
      .error (.serialization s!"connection {c.identifier} references unknown component {e}") := by
  have hnone : firstRepeat [] root.componentIds = none :=
    (firstRepeat_eq_none_iff _ _).2 ⟨by simp, hnd⟩
  unfold checkGraph
  dsimp only
  rw [hnone]
  dsimp only
  rw [findSome?_stray_eq_some_iff.2 h]

theorem checkGraph_eq_ok_iff : root.checkGraph = .ok () ↔ root.GraphOk := by
  unfold checkGraph GraphOk
  dsimp only
  split
  · next x hr =>
    have hnd : ¬root.componentIds.Nodup := fun hnd => by
      rw [(firstRepeat_eq_none_iff _ _).2 ⟨by simp, hnd⟩] at hr
      cases hr
    simp [hnd]
  · next hr =>
    have hnd := ((firstRepeat_eq_none_iff _ _).1 hr).2
    split
    · next c e hs =>
      obtain ⟨cs₁, cs₂, hcs, -, he⟩ := findSome?_stray_eq_some_iff.1 hs
      have hc : c ∈ root.allConnections := by simp [hcs]
      simp only [reduceCtorEq, false_iff, not_and]
      intro _ hall
      rcases he with ⟨hs', -⟩ | ⟨-, hd', -⟩
      · exact hs' (hall c hc).1
      · exact hd' (hall c hc).2
    · next hs => exact ⟨fun _ => ⟨hnd, findSome?_stray_eq_none_iff.1 hs⟩, fun _ => rfl⟩

/-- The check refuses a tree exactly when an identifier repeats or a connection has an endpoint
outside the tree. -/
theorem checkGraph_fails_iff :
    (∃ e, root.checkGraph = .error e) ↔
      ¬root.componentIds.Nodup ∨ ∃ c ∈ root.allConnections, ¬c.Joins root.componentIds := by
  have hok : root.checkGraph = .ok () ↔ root.GraphOk := checkGraph_eq_ok_iff
  rcases hc : root.checkGraph with e | ⟨⟩
  · have : ¬root.GraphOk := fun h => by rw [hok.2 h] at hc; cases hc
    simp only [GraphOk, not_and, not_forall] at this
    simp only [Except.error.injEq, exists_eq', true_iff]
    by_cases hnd : root.componentIds.Nodup
    · obtain ⟨c, hc, hj⟩ := this hnd
      exact .inr ⟨c, hc, hj⟩
    · exact .inl hnd
  · have := hok.1 hc
    simp only [reduceCtorEq, exists_false, false_iff, not_or, not_exists, not_and, not_not]
    exact ⟨this.1, this.2⟩

end ProcessGroup

/-! ### The encoders -/

namespace Format

theorem encodeCurrent_error_iff {s : Snapshot} {e : RegistryError} :
    encodeCurrent s = .error e ↔ s.flowContents.checkGraph = .error e := by
  unfold encodeCurrent
  cases s.flowContents.checkGraph <;> simp [bind, Except.bind, pure, Except.pure]

theorem encodeLegacy_of_checkGraph {s : Snapshot} {e : RegistryError}
    (h : s.flowContents.checkGraph = .error e) : encodeLegacy s = .error e := by
  unfold encodeLegacy
  rw [h]
  rfl

/-- Besides the graph, the legacy format refuses parameter contexts and group variables. -/
theorem encodeLegacy_fails_iff {s : Snapshot} :
    (∃ e, encodeLegacy s = .error e) ↔
      (∃ e, s.flowContents.checkGraph = .error e) ∨ s.parameterContexts ≠ [] ∨
        ¬s.flowContents.VarFree := by
  have hok : (∃ body, encodeLegacy s = .ok body) ↔
      s.flowContents.checkGraph = .ok () ∧ s.parameterContexts = [] ∧
        s.flowContents.VarFree := by
    simp only [encodeLegacy_ok, ← legacyGroup_ok_iff_varFree]
    constructor
    · rintro ⟨body, hg, hp, d, hd, -⟩
      exact ⟨hg, hp, d, hd⟩
    · rintro ⟨hg, hp, d, hd⟩
      exact ⟨_, hg, hp, d, hd, rfl⟩
  have herr : ∀ {β : Type} (x : Outcome β), (∃ e, x = .error e) ↔ ¬∃ b, x = .ok b := by
    intro β x
    cases x <;> simp
  have hcheck : (∃ e, s.flowContents.checkGraph = .error e) ↔
      ¬s.flowContents.checkGraph = .ok () := by
    rcases s.flowContents.checkGraph with e | ⟨⟩ <;> simp
  rw [herr, hok, hcheck, not_and_or, not_and_or]

end Format

/-- The graph check, and so the current encoder, refuses a flow exactly when a component
identifier repeats in pre-order or a connection anywhere in the tree names an endpoint that is not
a component anywhere in it; the refusal names the first repeated identifier if there is one, else
the first stray endpoint of the first connection that has one. The legacy encoder refuses every
such flow with the same error, and otherwise refuses exactly the snapshots with parameter
contexts or with a group that declares variables. -/
theorem snapshot_graph_check_characterised (s : Snapshot) :
    ((∃ e, s.flowContents.checkGraph = .error e) ↔
      ¬s.flowContents.componentIds.Nodup ∨
        ∃ c ∈ s.flowContents.allConnections, ¬c.Joins s.flowContents.componentIds) ∧
    (∀ x, FirstRepeat s.flowContents.componentIds x →
      s.flowContents.checkGraph =
        .error (.serialization s!"duplicate component id {x} in flow contents")) ∧
    (s.flowContents.componentIds.Nodup → ∀ c e,
      FirstStray s.flowContents.componentIds s.flowContents.allConnections c e →
      s.flowContents.checkGraph =
        .error (.serialization s!"connection {c.identifier} references unknown component {e}")) ∧
    (∀ e, Format.encodeCurrent s = .error e ↔ s.flowContents.checkGraph = .error e) ∧
    (∀ e, s.flowContents.checkGraph = .error e → Format.encodeLegacy s = .error e) ∧
    ((∃ e, Format.encodeLegacy s = .error e) ↔
      (∃ e, s.flowContents.checkGraph = .error e) ∨ s.parameterContexts ≠ [] ∨
        ¬s.flowContents.VarFree) :=
  ⟨ProcessGroup.checkGraph_fails_iff, fun _ => ProcessGroup.checkGraph_of_firstRepeat,
    fun hnd _ _ => ProcessGroup.checkGraph_of_firstStray hnd,
    fun _ => Format.encodeCurrent_error_iff, fun _ => Format.encodeLegacy_of_checkGraph,
    Format.encodeLegacy_fails_iff⟩

/-- A flow of one group that declares a variable. -/
def variableGroup : ProcessGroup := ⟨"g", "g", none, [], [], [], [("k", "v")]⟩

/-- The legacy encoder refuses a flow whose graph passes the check: its one group declares a
variable. -/
theorem legacy_encode_refuses_group_with_variables :
    variableGroup.componentIds.Nodup ∧
      (∀ c ∈ variableGroup.allConnections, c.Joins variableGroup.componentIds) ∧
      Format.encodeLegacy ⟨Format.sampleMeta, variableGroup, []⟩ =
        .error (.serialization "process group g declares variables, which data model version 1 cannot represent") := by
  refine ⟨by decide, ?_, rfl⟩
  simp [variableGroup, ProcessGroup.allConnections, ProcessGroup.allConnectionsList]

end FlowRegistry
