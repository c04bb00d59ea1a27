import FlowRegistry.Store.Content

/-!
# Version order

A listing of an entity's content sorts its versions by `versionOrder`: the keys that read as
unsigned 64-bit numbers first, by value, then every other key by its text. On all strings this
is a total preorder (`Std.TransCmp`), so a sort by it is well defined, and its ties are exactly
the keys that read as one number, such as `1`, `01` and `+1`, or that are one text. The sort is
stable, so the listing of `vs` is the one list in version order that keeps the keys of each tie
in their order in `vs`: `version_order_total_preorder`.

The sorting facts hold of every comparator that is a total preorder, and are proved once for
such a comparator.
-/

namespace FlowRegistry

/-! ### Sorting by a total preorder -/

section Comparator

variable {α : Type} {cmp : α → α → Ordering} [Std.TransCmp cmp]

theorem isLE_total (a b : α) : ((cmp a b).isLE || (cmp b a).isLE) = true := by
  cases h : cmp a b with
  | gt => simp [Std.OrientedCmp.lt_of_gt h]
  | _ => rfl

/-- Each of the three answers is transitive. -/
theorem cmp_trans {a b c : α} {o : Ordering} (hab : cmp a b = o) (hbc : cmp b c = o) :
    cmp a c = o := by
  cases o with
  | lt => exact Std.TransCmp.lt_trans hab hbc
  | eq => exact Std.TransCmp.eq_trans hab hbc
  | gt => exact Std.TransCmp.gt_trans hab hbc

theorem isLE_of_pairwise_cons {a b : α} {l : List α}
    (h : (a :: l).Pairwise (fun a b => (cmp a b).isLE)) (hb : b ∈ a :: l) : (cmp a b).isLE := by
  rcases List.mem_cons.1 hb with rfl | hb
  · simp [Std.ReflCmp.compare_self]
  · exact List.rel_of_pairwise_cons h hb

theorem pairwise_mergeSort_isLE (l : List α) :
    (l.mergeSort (fun a b => (cmp a b).isLE)).Pairwise (fun a b => (cmp a b).isLE) :=
  List.pairwise_mergeSort (fun _ _ _ => Std.TransCmp.isLE_trans) isLE_total l

/-- The elements that tie with one element tie with each other. -/
theorem pairwise_filter_ties (x : α) (l : List α) :
    (l.filter (fun y => cmp x y == .eq)).Pairwise (fun a b => (cmp a b).isLE) := by
  refine List.pairwise_of_forall_mem_list fun a ha b hb => ?_
  have hxa : cmp x a = .eq := by simpa using (List.mem_filter.1 ha).2
  have hxb : cmp x b = .eq := by simpa using (List.mem_filter.1 hb).2
  simp [Std.TransCmp.eq_trans (Std.OrientedCmp.eq_symm hxa) hxb]

/-- Merge sort is stable: the elements that tie with any `x` keep their order. -/
theorem filter_ties_mergeSort (x : α) (l : List α) :
    (l.mergeSort (fun a b => (cmp a b).isLE)).filter (fun y => cmp x y == .eq) =
      l.filter (fun y => cmp x y == .eq) := by
  have hsub : (l.filter (fun y => cmp x y == .eq)).Sublist
      (l.mergeSort (fun a b => (cmp a b).isLE)) :=
    List.sublist_mergeSort (fun _ _ _ => Std.TransCmp.isLE_trans) isLE_total
      (pairwise_filter_ties x l) List.filter_sublist
  have hperm :=
    (List.mergeSort_perm l (fun a b => (cmp a b).isLE)).filter (fun y => cmp x y == .eq)
  -- the ties of `x` are a sublist of the sorted ties of `x`, and as many
  refine (List.Sublist.eq_of_length ?_ hperm.length_eq.symm).symm
  simpa using hsub.filter (fun y => cmp x y == .eq)

/-- A list in order is determined by the order of the elements of each tie. -/
theorem eq_of_pairwise_of_filter_ties {l₁ l₂ : List α}
    (h₁ : l₁.Pairwise (fun a b => (cmp a b).isLE)) (h₂ : l₂.Pairwise (fun a b => (cmp a b).isLE))
    (h : ∀ x, l₁.filter (fun y => cmp x y == .eq) = l₂.filter (fun y => cmp x y == .eq)) :
    l₁ = l₂ := by
  induction l₁ generalizing l₂ with
  | nil =>
    cases l₂ with
    | nil => rfl
    | cons b l₂ => simpa [Std.ReflCmp.compare_self] using h b
  | cons a l₁ ih =>
    cases l₂ with
    | nil => simpa [Std.ReflCmp.compare_self] using h a
    | cons b l₂ =>
      have hb : b ∈ a :: l₁ := by
        have : b ∈ (a :: l₁).filter (fun y => cmp b y == .eq) := by
          rw [h b]; simp [Std.ReflCmp.compare_self]
        exact (List.mem_filter.1 this).1
      have ha : a ∈ b :: l₂ := by
        have : a ∈ (b :: l₂).filter (fun y => cmp a y == .eq) := by
          rw [← h a]; simp [Std.ReflCmp.compare_self]
        exact (List.mem_filter.1 this).1
      have hab : cmp a b = .eq :=
        Std.OrientedCmp.isLE_antisymm (isLE_of_pairwise_cons h₁ hb) (isLE_of_pairwise_cons h₂ ha)
      have hhead : a = b := by
        have := h a
        simp only [List.filter_cons, Std.ReflCmp.compare_self, hab] at this
        exact (List.cons.inj this).1
      subst hhead
      congr 1
      refine ih h₁.of_cons h₂.of_cons fun x => ?_
      by_cases hx : cmp x a = .eq <;> simpa [List.filter_cons, hx] using h x

/-- Merge sort gives the one list in order that keeps the elements of each tie in their order. -/
theorem eq_mergeSort_iff (l vs : List α) :
    l = vs.mergeSort (fun a b => (cmp a b).isLE) ↔
      l.Pairwise (fun a b => (cmp a b).isLE) ∧
        ∀ x, l.filter (fun y => cmp x y == .eq) = vs.filter (fun y => cmp x y == .eq) := by
  constructor
  · rintro rfl
    exact ⟨pairwise_mergeSort_isLE vs, fun x => filter_ties_mergeSort x vs⟩
  · rintro ⟨hl, hties⟩
    exact eq_of_pairwise_of_filter_ties hl (pairwise_mergeSort_isLE vs)
      fun x => (hties x).trans (filter_ties_mergeSort x vs).symm

end Comparator

/-! ### Version keys -/

theorem string_isLE_compare {a b : String} : (compare a b).isLE ↔ a ≤ b :=
  isLE_compareOfLessAndEq String.le_antisymm String.not_le String.le_total

theorem versionOrder_swap (a b : String) : versionOrder a b = (versionOrder b a).swap := by
  cases ha : versionNumber? a <;> cases hb : versionNumber? b <;> simp only [versionOrder, ha, hb]
  · exact Std.OrientedOrd.eq_swap
  · rfl
  · rfl
  · exact Std.OrientedOrd.eq_swap

instance versionOrder_transCmp : Std.TransCmp versionOrder where
  eq_swap := versionOrder_swap _ _
  isLE_trans {a b c} hab hbc := by
    -- within the numbers and within the texts the order is `Nat`'s and `String`'s; across them
    -- it is fixed, so a mixed triple is in order or contradicts its hypotheses
    cases ha : versionNumber? a <;> cases hb : versionNumber? b <;> cases hc : versionNumber? c <;>
      simp only [versionOrder, ha, hb, hc] at hab hbc ⊢
    all_goals first | exact Std.TransOrd.isLE_trans hab hbc | contradiction | rfl

/-- Two keys tie when they read as one number, or when neither reads as a number and they are one
text. -/
theorem versionOrder_eq_eq_iff (a b : String) :
    versionOrder a b = .eq ↔
      (∃ n, versionNumber? a = some n ∧ versionNumber? b = some n) ∨
        (versionNumber? a = none ∧ versionNumber? b = none ∧ a = b) := by
  cases ha : versionNumber? a <;> cases hb : versionNumber? b <;>
    simp [versionOrder, ha, hb]
  exact eq_comm

example : versionOrder "+1" "01" = .eq := by decide

example : versionOrder "18446744073709551616" "2" = .gt := by decide

/-- Version order is a total preorder on all strings, each of its three answers transitive, whose
ties are the keys that read as one number and the keys that are one text; and the listing of
`vs` is a permutation of `vs`, and the one list in version order that keeps the keys of each tie
in their order in `vs`. -/
theorem version_order_total_preorder :
    (∀ a b, versionOrder a b = (versionOrder b a).swap) ∧
      Std.TransCmp versionOrder ∧
      (∀ a b c o, versionOrder a b = o → versionOrder b c = o → versionOrder a c = o) ∧
      (∀ a b, versionOrder a b = .eq ↔
        (∃ n, versionNumber? a = some n ∧ versionNumber? b = some n) ∨
          (versionNumber? a = none ∧ versionNumber? b = none ∧ a = b)) ∧
      ∀ vs : List String, (sortVersions vs).Perm vs ∧
        ∀ l, l = sortVersions vs ↔ l.Pairwise (fun a b => (versionOrder a b).isLE) ∧
          ∀ v, l.filter (fun w => versionOrder v w == .eq) =
            vs.filter (fun w => versionOrder v w == .eq) :=
  ⟨versionOrder_swap, versionOrder_transCmp, fun _ _ _ _ => cmp_trans, versionOrder_eq_eq_iff,
    fun vs => ⟨List.mergeSort_perm vs _, fun l => eq_mergeSort_iff l vs⟩⟩

end FlowRegistry
