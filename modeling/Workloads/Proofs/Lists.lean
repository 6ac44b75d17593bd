import Mathlib.Data.List.Basic
import Mathlib.Data.List.Nodup
import Mathlib.Data.List.Pairwise

/-!
# Lists that grow at their end

Histories are lists that every step extends by one member.  What is known of a
longer list is told from the shorter one and from the member that is new.
-/

namespace Workloads

/-- A beginning of a list that is extended at its end is all of it or was a
beginning before. -/
theorem append_eq_concat
    {α : Type} {early late list : List α} {last : α}
    (whole : early ++ late = list ++ [last]) :
    early = list ++ [last] ∨ ∃ rest, early ++ rest = list := by
  rcases List.eq_nil_or_concat late with rfl | ⟨rest, final, rfl⟩
  · left
    simpa using whole
  · right
    refine ⟨rest, ?_⟩
    have same : (early ++ rest) ++ [final] = list ++ [last] := by
      simpa using whole
    exact (List.append_inj' same rfl).1

/-- A member of a list that is extended at its end is the new one or was
there before. -/
theorem append_cons_eq_concat
    {α : Type} {early late list : List α} {member last : α}
    (whole : early ++ member :: late = list ++ [last]) :
    (early = list ∧ member = last) ∨
      ∃ rest, early ++ member :: rest = list := by
  rcases List.eq_nil_or_concat late with rfl | ⟨rest, final, rfl⟩
  · rcases List.append_inj' whole rfl with ⟨same, alike⟩
    cases alike
    exact .inl ⟨same, rfl⟩
  · right
    refine ⟨rest, ?_⟩
    have same : (early ++ member :: rest) ++ [final] = list ++ [last] := by
      simpa using whole
    exact (List.append_inj' same rfl).1

/-- A member with its number has a place in the list. -/
theorem exists_split_of_getElem?
    {α : Type} {list : List α} {index : Nat} {member : α}
    (place : list[index]? = some member) :
    ∃ early late, list = early ++ member :: late ∧
      early.length = index := by
  rcases List.getElem?_eq_some_iff.mp place with ⟨inside, rfl⟩
  refine ⟨list.take index, list.drop (index + 1), ?_, ?_⟩
  · simp
  · rw [List.length_take]
    exact Nat.min_eq_left (Nat.le_of_lt inside)

/-- What is taken from the new member comes after what was taken before. -/
theorem filterMap_concat
    {α β : Type} (value : α → Option β) (list : List α) (last : α) :
    (list ++ [last]).filterMap value =
      list.filterMap value ++ (value last).toList := by
  simp [List.filterMap_eq_flatMap_toList]

/-- Two members that a list without repetitions is taken from agree where
their values do. -/
theorem eq_of_nodup_filterMap
    {α β : Type} {value : α → Option β} {list : List α}
    (nodup : (list.filterMap value).Nodup) {left right : α} {common : β}
    (leftMember : left ∈ list) (rightMember : right ∈ list)
    (leftValue : value left = some common)
    (rightValue : value right = some common) :
    left = right := by
  by_contra apart
  have pairwise := List.pairwise_filterMap.mp nodup
  have symmetric :
      Std.Symm (fun first second =>
        ∀ one, value first = some one →
          ∀ two, value second = some two → one ≠ two) :=
    ⟨fun first second distinct one here two there =>
      (distinct two there one here).symm⟩
  exact pairwise.forall leftMember rightMember apart
    common leftValue common rightValue rfl

end Workloads
