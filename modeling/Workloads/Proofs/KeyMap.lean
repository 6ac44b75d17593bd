import Mathlib.Data.List.Nodup
import Mathlib.Data.List.Perm.Basic
import Workloads.KeyMap

/-!
# Maps by their entries

A map is told by its entries in any order: whoever enters them one by one comes
to the same map, as long as no key is entered twice.  It is also told by what it
answers, and a map whose values say nothing by its keys.
-/

namespace Workloads.KeyMap

variable {Value : Type}

theorem place_perm {key : String} {value : Value}
    {entries : List (String × Value)}
    (absent : key ∉ entries.map (fun entry => entry.1)) :
    (place key value entries).Perm ((key, value) :: entries) := by
  induction entries with
  | nil => exact .refl _
  | cons entry rest hypothesis =>
      rw [List.map_cons, List.mem_cons, not_or] at absent
      unfold place
      split
      · exact .refl _
      · rw [if_neg absent.1]
        exact ((hypothesis absent.2).cons entry).trans (.swap ..)

/-- Entering new keys adds their entries. -/
theorem foldl_insert_perm {entries : List (String × Value)}
    {map : KeyMap Value}
    (distinct : ((entries ++ map.entries).map (fun entry => entry.1)).Nodup) :
    (entries.foldl (fun map entry => map.insert entry.1 entry.2)
        map).entries.Perm (entries ++ map.entries) := by
  induction entries generalizing map with
  | nil => exact .refl _
  | cons entry rest hypothesis =>
      have own : entry.1 ∉ map.entries.map (fun entry => entry.1) := by
        rw [List.cons_append, List.map_cons, List.nodup_cons,
          List.map_append, List.mem_append, not_or] at distinct
        exact distinct.1.2
      have placed : (map.insert entry.1 entry.2).entries.Perm
          (entry :: map.entries) :=
        place_perm own
      have moved :
          (rest ++ (map.insert entry.1 entry.2).entries).Perm
            (entry :: rest ++ map.entries) :=
        (placed.append_left rest).trans List.perm_middle
      exact (hypothesis ((moved.map _).nodup_iff.mpr distinct)).trans moved

/-- Maps with the same entries are equal. -/
theorem eq_of_perm {first second : KeyMap Value}
    (perm : first.entries.Perm second.entries) : first = second := by
  have same : first.entries = second.entries := by
    refine List.Perm.eq_of_pairwise ?_ first.ordered second.ordered perm
    intro left right _ _ below above
    exact absurd (String.lt_trans below above) (String.lt_irrefl _)
  cases first
  cases second
  simpa using same

/-- A map is made of its entries in any order. -/
theorem ofList_of_perm {map : KeyMap Value}
    {entries : List (String × Value)} (perm : entries.Perm map.entries) :
    ofList entries = map := by
  have keys :
      ((entries ++ (empty : KeyMap Value).entries).map
        (fun entry => entry.1)).Nodup := by
    rw [empty, List.append_nil, (perm.map _).nodup_iff]
    exact (keys_ordered map).imp (fun below => String.ne_of_lt below)
  have entered := foldl_insert_perm keys
  rw [empty, List.append_nil] at entered
  exact eq_of_perm (entered.trans perm)

/-! ## Maps by what they answer -/

/-- In a list with increasing keys every entry is found under its key. -/
theorem lookup_eq_some_iff {key : String} {value : Value}
    {entries : List (String × Value)}
    (ordered : entries.Pairwise (fun left right => left.1 < right.1)) :
    lookup key entries = some value ↔ (key, value) ∈ entries := by
  induction entries with
  | nil => simp [lookup]
  | cons entry rest hypothesis =>
      rcases List.pairwise_cons.mp ordered with ⟨first, later⟩
      rw [lookup, List.mem_cons, ← hypothesis later]
      split
      next own =>
        subst own
        have gone : lookup entry.1 rest ≠ some value := by
          intro found
          have below := first _ ((hypothesis later).mp found)
          exact String.lt_irrefl _ below
        rw [or_iff_left gone, Option.some_inj, Prod.ext_iff]
        exact ⟨fun same => ⟨rfl, same.symm⟩, fun same => same.2.symm⟩
      next other =>
        have apart : (key, value) ≠ entry := by
          rintro rfl
          exact other rfl
        simp [apart]

/-- Maps that answer alike are equal. -/
theorem eq_of_get? {first second : KeyMap Value}
    (alike : ∀ key, first.get? key = second.get? key) : first = second := by
  have distinct (map : KeyMap Value) : map.entries.Nodup := by
    refine map.ordered.imp ?_
    rintro left right below rfl
    exact String.lt_irrefl _ below
  refine eq_of_perm ?_
  rw [List.perm_ext_iff_of_nodup (distinct first) (distinct second)]
  rintro ⟨key, value⟩
  have same := alike key
  rw [get?, get?] at same
  rw [← lookup_eq_some_iff first.ordered,
    ← lookup_eq_some_iff second.ordered, same]

/-- Entering a value changes nothing only where it is there already. -/
theorem insert_eq_self_iff {map : KeyMap Value} {key : String}
    {value : Value} :
    map.insert key value = map ↔ map.get? key = some value := by
  constructor
  · intro same
    rw [← same, get?_insert, if_pos rfl]
  · intro found
    refine eq_of_get? ?_
    intro other
    rw [get?_insert]
    split
    next own => rw [← own, found]
    next apart => rfl

/-- The keys are listed alike if they are the same. -/
theorem keys_eq_of_mem_iff {first second : KeyMap Value}
    (same : ∀ key, key ∈ first.keys ↔ key ∈ second.keys) :
    first.keys = second.keys := by
  have distinct (map : KeyMap Value) : map.keys.Nodup :=
    (keys_ordered map).imp (fun below => String.ne_of_lt below)
  have perm : first.keys.Perm second.keys :=
    (List.perm_ext_iff_of_nodup (distinct first) (distinct second)).mpr same
  refine perm.eq_of_pairwise ?_ (keys_ordered first) (keys_ordered second)
  intro left right _ _ below above
  exact absurd (String.lt_trans below above) (String.lt_irrefl _)

/-- Entering a value at a present key keeps the keys. -/
theorem keys_insert_of_present {map : KeyMap Value} {key : String}
    (present : (map.get? key).isSome) (value : Value) :
    (map.insert key value).keys = map.keys := by
  refine keys_eq_of_mem_iff ?_
  intro other
  rw [mem_keys, mem_keys, get?_insert]
  split
  next own => simp [← own, present]
  next apart => rfl

/-- Maps whose values say nothing are equal if they have the same keys. -/
theorem eq_of_keys {first second : KeyMap Unit}
    (same : ∀ key, key ∈ first.keys ↔ key ∈ second.keys) :
    first = second := by
  refine eq_of_get? ?_
  intro key
  have present := same key
  rw [mem_keys, mem_keys] at present
  cases left : first.get? key <;> cases right : second.get? key
  case none.none => rfl
  case some.some => rfl
  all_goals simp [left, right] at present

/-- A map has the keys that were entered. -/
theorem mem_keys_ofList {key : String} {entries : List (String × Value)} :
    key ∈ (ofList entries).keys ↔
      key ∈ entries.map (fun entry => entry.1) := by
  suffices every : ∀ map : KeyMap Value,
      key ∈ (entries.foldl (fun map entry => map.insert entry.1 entry.2)
          map).keys ↔
        key ∈ map.keys ∨ key ∈ entries.map (fun entry => entry.1) by
    simpa [ofList, empty, keys] using every empty
  induction entries with
  | nil => simp
  | cons entry rest hypothesis =>
      intro map
      have entered :
          key ∈ (map.insert entry.1 entry.2).keys ↔
            key = entry.1 ∨ key ∈ map.keys := by
        rw [mem_keys, mem_keys, get?_insert]
        split
        next own => simp [own]
        next other => simp [Ne.symm other]
      rw [List.foldl_cons, hypothesis, entered, List.map_cons, List.mem_cons]
      tauto

end Workloads.KeyMap
