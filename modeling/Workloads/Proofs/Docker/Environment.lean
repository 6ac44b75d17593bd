import Workloads.Docker.Blueprint
import Workloads.Proofs.KeyMap
import Workloads.Proofs.Text.Cut
import Workloads.Proofs.Text.Order

/-!
# What assignments tell

An environment is told to the daemon as assignments in the order of their
octets, one for each entry, and the order in which the entries are gone through
makes no difference.  An assignment falls apart at its first equals sign, so
that the assignments tell the environment if no key of it holds that sign, and
only then.
-/

namespace Workloads.Docker

/-! ## One assignment -/

/-- The entry that an assignment is made of, cut at the first equals sign. -/
def readAssignment (text : String) : String × String :=
  let cut := cutAtEquals text.toList
  (String.ofList cut.1, String.ofList (cut.2.getD []))

theorem readAssignment_assignment {entry : String × String}
    (plain : '=' ∉ entry.1.toList) :
    readAssignment (assignment entry) = entry := by
  have joined : (assignment entry).toList =
      entry.1.toList ++ '=' :: entry.2.toList := by
    simp [assignment, String.toList_append]
  simp [readAssignment, joined, cutAtEquals_append plain]

/-- The key that is read off an assignment holds no equals sign. -/
theorem readAssignment_plain (text : String) :
    '=' ∉ (readAssignment text).1.toList := by
  rw [readAssignment, String.toList_ofList]
  exact not_mem_cutAtEquals _

/-! ## All assignments of an environment -/

theorem map_readAssignment {entries : List (String × String)}
    (plain : ∀ entry ∈ entries, '=' ∉ entry.1.toList) :
    (entries.map assignment).map readAssignment = entries := by
  rw [List.map_map]
  have each : entries.map (readAssignment ∘ assignment) = entries.map id :=
    List.map_congr_left fun entry member =>
      readAssignment_assignment (plain entry member)
  rw [each, List.map_id]

theorem assignments_perm (entries : List (String × String)) :
    (assignments entries).Perm (entries.map assignment) :=
  List.mergeSort_perm ..

theorem assignments_ordered (entries : List (String × String)) :
    (assignments entries).Pairwise (fun left right => left ≤ right) := by
  have transitive (first second third : String)
      (below : decide (first ≤ second) = true)
      (above : decide (second ≤ third) = true) :
      decide (first ≤ third) = true := by
    rw [decide_eq_true_iff] at below above ⊢
    exact String.le_trans below above
  have total (first second : String) :
      (decide (first ≤ second) || decide (second ≤ first)) = true := by
    simpa using String.le_total first second
  have ordered :=
    List.pairwise_mergeSort transitive total (entries.map assignment)
  exact ordered.imp of_decide_eq_true

/-- The assignments do not depend on the order of the entries. -/
theorem assignments_eq_of_perm {first second : List (String × String)}
    (perm : first.Perm second) : assignments first = assignments second := by
  have same : (assignments first).Perm (assignments second) :=
    ((assignments_perm first).trans (perm.map assignment)).trans
      (assignments_perm second).symm
  refine same.eq_of_pairwise ?_ (assignments_ordered first)
    (assignments_ordered second)
  intro left right _ _ below above
  exact String.le_antisymm below above

/-- Entries without equals signs in their keys are read off their
assignments. -/
theorem map_readAssignment_assignments {entries : List (String × String)}
    (plain : ∀ entry ∈ entries, '=' ∉ entry.1.toList) :
    ((assignments entries).map readAssignment).Perm entries := by
  have read := (assignments_perm entries).map readAssignment
  rwa [map_readAssignment plain] at read

theorem perm_of_assignments_eq {first second : List (String × String)}
    (firstPlain : ∀ entry ∈ first, '=' ∉ entry.1.toList)
    (secondPlain : ∀ entry ∈ second, '=' ∉ entry.1.toList)
    (same : assignments first = assignments second) : first.Perm second := by
  have read := map_readAssignment_assignments secondPlain
  rw [← same] at read
  exact (map_readAssignment_assignments firstPlain).symm.trans read

theorem length_assignments (entries : List (String × String)) :
    (assignments entries).length = entries.length := by
  rw [(assignments_perm entries).length_eq, List.length_map]

/-- The environment that assignments are read as; of a repeated key the last
value counts. -/
def readAssignments (texts : List String) : KeyMap String :=
  KeyMap.ofList (texts.map readAssignment)

/-- Whoever reads assignments gets keys without equals signs. -/
theorem readAssignments_plain {texts : List String} {key : String}
    (member : key ∈ (readAssignments texts).keys) : '=' ∉ key.toList := by
  rw [readAssignments, KeyMap.mem_keys_ofList, List.map_map,
    List.mem_map] at member
  rcases member with ⟨text, _, rfl⟩
  exact readAssignment_plain text

theorem readAssignments_of_plain {environment : KeyMap String}
    {order : List (String × String)}
    (perm : order.Perm environment.entries)
    (plain : ∀ entry ∈ order, '=' ∉ entry.1.toList) :
    readAssignments (assignments order) = environment :=
  KeyMap.ofList_of_perm ((map_readAssignment_assignments plain).trans perm)

/-- In whatever order an environment is gone through, its assignments are the
same: one for each entry, in increasing order of octets.  They read back as
the environment if and only if no key of it holds an equals sign. -/
theorem assignments_tell {environment : KeyMap String}
    {order : List (String × String)}
    (perm : order.Perm environment.entries) :
    ((assignments order).map Bytes.ofText).Pairwise
        (fun left right => left ≤ right) ∧
      (assignments order).length = environment.size ∧
      assignments order = assignments environment.entries ∧
      (assignments order).Perm (environment.entries.map assignment) ∧
      (readAssignments (assignments order) = environment ↔
        ∀ key ∈ environment.keys, '=' ∉ key.toList) := by
  refine ⟨?_, ?_, assignments_eq_of_perm perm, ?_, ?_, ?_⟩
  · rw [List.pairwise_map]
    exact (assignments_ordered order).imp Bytes.ofText_le
  · rw [length_assignments, perm.length_eq, KeyMap.size]
  · exact (assignments_perm order).trans (perm.map assignment)
  · intro recovered key member
    rw [← recovered] at member
    exact readAssignments_plain member
  · intro plain
    refine readAssignments_of_plain perm ?_
    intro entry member
    exact plain _ (List.mem_map_of_mem (perm.mem_iff.mp member))

/-- An environment that is told: the equals sign stands in a value. -/
def toldEnvironment : KeyMap String :=
  ⟨[("A", "=b"), ("B", "")], by decide⟩

/-- An environment that is not: its first key holds an equals sign, so that
its assignments are those of another one. -/
def tornEnvironment : KeyMap String :=
  ⟨[("A=", "b"), ("B", "")], by decide⟩

theorem assignments_tell_or_tear :
    [("B", ""), ("A", "=b")].Perm toldEnvironment.entries ∧
      readAssignments (assignments [("B", ""), ("A", "=b")]) =
        toldEnvironment ∧
      [("B", ""), ("A=", "b")].Perm tornEnvironment.entries ∧
      readAssignments (assignments [("B", ""), ("A=", "b")]) ≠
        tornEnvironment := by
  have toldPerm : [("B", ""), ("A", "=b")].Perm toldEnvironment.entries :=
    .swap ..
  have tornPerm : [("B", ""), ("A=", "b")].Perm tornEnvironment.entries :=
    .swap ..
  have told := (assignments_tell toldPerm).2.2.2.2
  have torn := (assignments_tell tornPerm).2.2.2.2
  refine ⟨toldPerm, told.mpr ?_, tornPerm, ?_⟩
  · decide
  · intro recovered
    exact torn.mp recovered "A=" (by decide) (by decide)

end Workloads.Docker
