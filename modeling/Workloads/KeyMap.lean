/-!
# Maps from text keys, in key order

A finite map whose keys are texts, kept as its entries in strictly increasing
order of keys.  The order of texts is that of their code points, which is also
the order of their UTF-8 octets.  Because the order is strict, a map has one
form only: two maps that answer every look-up alike are equal.
-/

namespace Workloads

variable {Value : Type}

/-- A finite map from texts, kept in strictly increasing order of keys. -/
structure KeyMap (Value : Type) where
  entries : List (String × Value)
  ordered : entries.Pairwise (fun left right => left.1 < right.1)
  deriving DecidableEq

namespace KeyMap

/-! ## Entry lists -/

/-- The value of the first entry with this key. -/
def lookup (key : String) : List (String × Value) → Option Value
  | [] => none
  | entry :: rest =>
    if entry.1 = key then some entry.2 else lookup key rest

/-- Enters a value at its place, replacing the value of an equal key. -/
def place (key : String) (value : Value) :
    List (String × Value) → List (String × Value)
  | [] => [(key, value)]
  | entry :: rest =>
    if key < entry.1 then (key, value) :: entry :: rest
    else if key = entry.1 then (key, value) :: rest
    else entry :: place key value rest

/-- Every entry of an entered list is the new one or an old one. -/
theorem mem_place
    {key : String} {value : Value}
    {candidate : String × Value}
    {entries : List (String × Value)}
    (member : candidate ∈ place key value entries) :
    candidate = (key, value) ∨ candidate ∈ entries := by
  induction entries with
  | nil => simpa [place] using member
  | cons entry rest hypothesis =>
    unfold place at member
    split at member
    · simpa using member
    · split at member
      · rcases List.mem_cons.mp member with same | inRest
        · exact Or.inl same
        · exact Or.inr (List.mem_cons_of_mem _ inRest)
      · rcases List.mem_cons.mp member with same | inRest
        · exact Or.inr (same ▸ List.mem_cons_self)
        · rcases hypothesis inRest with new | old
          · exact Or.inl new
          · exact Or.inr (List.mem_cons_of_mem _ old)

/-- A key that is neither below nor equal to another is above it. -/
theorem above_of_not_below
    {left right : String}
    (notBelow : ¬left < right) (distinct : left ≠ right) :
    right < left :=
  Std.lt_of_le_of_ne (Std.not_lt.mp notBelow) (Ne.symm distinct)

/-- Entering a value keeps the keys strictly increasing. -/
theorem place_ordered
    (key : String) (value : Value)
    {entries : List (String × Value)}
    (ordered : entries.Pairwise (fun left right => left.1 < right.1)) :
    (place key value entries).Pairwise
      (fun left right => left.1 < right.1) := by
  induction entries with
  | nil => simp [place]
  | cons entry rest hypothesis =>
    have ⟨first, later⟩ := List.pairwise_cons.mp ordered
    unfold place
    split
    next below =>
      refine List.pairwise_cons.mpr ⟨?_, ordered⟩
      intro candidate member
      rcases List.mem_cons.mp member with same | inRest
      · exact same ▸ below
      · exact String.lt_trans below (first candidate inRest)
    next notBelow =>
      split
      next same =>
        refine List.pairwise_cons.mpr ⟨?_, later⟩
        intro candidate member
        exact same ▸ first candidate member
      next distinct =>
        refine List.pairwise_cons.mpr ⟨?_, hypothesis later⟩
        intro candidate member
        rcases mem_place member with new | old
        · exact new ▸ above_of_not_below notBelow distinct
        · exact first candidate old

/-! ## Operations -/

/-- The map without entries. -/
def empty : KeyMap Value where
  entries := []
  ordered := List.Pairwise.nil

instance : EmptyCollection (KeyMap Value) := ⟨empty⟩

instance : Inhabited (KeyMap Value) := ⟨empty⟩

/-- The value of a key, if the map has it. -/
def get? (map : KeyMap Value) (key : String) : Option Value :=
  lookup key map.entries

/-- The map with this value at this key. -/
def insert (map : KeyMap Value) (key : String) (value : Value) :
    KeyMap Value where
  entries := place key value map.entries
  ordered := place_ordered key value map.ordered

/-- The map without this key. -/
def erase (map : KeyMap Value) (key : String) : KeyMap Value where
  entries := map.entries.filter (fun entry => entry.1 ≠ key)
  ordered := map.ordered.filter _

/-- The keys in increasing order. -/
def keys (map : KeyMap Value) : List String :=
  map.entries.map (fun entry => entry.1)

/-- The number of keys. -/
def size (map : KeyMap Value) : Nat :=
  map.entries.length

/-- The map of a list of entries, in which the last value of a key counts. -/
def ofList (entries : List (String × Value)) : KeyMap Value :=
  entries.foldl (fun map entry => map.insert entry.1 entry.2) empty

/-! ## Look-up laws -/

theorem lookup_place
    (key other : String) (value : Value)
    (entries : List (String × Value)) :
    lookup other (place key value entries) =
      if key = other then some value else lookup other entries := by
  induction entries with
  | nil => rfl
  | cons entry rest hypothesis =>
    unfold place
    split
    · rfl
    · split
      next same =>
        by_cases found : key = other
        · simp [lookup, found]
        · simp [lookup, found, ← same]
      next distinct =>
        by_cases found : entry.1 = other
        · have apart : key ≠ other :=
            fun same => distinct (same.trans found.symm)
          simp [lookup, found, apart]
        · simp [lookup, found, hypothesis]

/-- Inserting answers the new value at its key and nothing else changes. -/
@[simp]
theorem get?_insert
    (map : KeyMap Value) (key other : String) (value : Value) :
    (map.insert key value).get? other =
      if key = other then some value else map.get? other :=
  lookup_place key other value map.entries

theorem lookup_filter
    (key other : String) (entries : List (String × Value)) :
    lookup other (entries.filter (fun entry => entry.1 ≠ key)) =
      if key = other then none else lookup other entries := by
  induction entries with
  | nil => simp [lookup]
  | cons entry rest hypothesis =>
    by_cases erased : entry.1 = key
    · by_cases found : key = other
      · simpa [List.filter_cons, erased, found] using hypothesis
      · simpa [List.filter_cons, erased, found, lookup] using hypothesis
    · by_cases found : key = other
      · subst found
        simpa [List.filter_cons, erased, lookup] using hypothesis
      · simp only [List.filter_cons, erased, lookup, found,
          if_false, ne_eq, not_false_eq_true, decide_true, if_true]
        split
        · rfl
        · simpa [found] using hypothesis

/-- Erasing answers nothing at its key and nothing else changes. -/
@[simp]
theorem get?_erase
    (map : KeyMap Value) (key other : String) :
    (map.erase key).get? other =
      if key = other then none else map.get? other :=
  lookup_filter key other map.entries

theorem lookup_isSome_iff
    (key : String) (entries : List (String × Value)) :
    (lookup key entries).isSome ↔
      key ∈ entries.map (fun entry => entry.1) := by
  induction entries with
  | nil => simp [lookup]
  | cons entry rest hypothesis =>
    by_cases found : entry.1 = key
    · simp [lookup, found]
    · have apart : key ≠ entry.1 := Ne.symm found
      simpa [lookup, found, apart] using hypothesis

/-- The listed keys are those that have a value. -/
theorem mem_keys (map : KeyMap Value) (key : String) :
    key ∈ map.keys ↔ (map.get? key).isSome :=
  (lookup_isSome_iff key map.entries).symm

/-- Keys are listed in strictly increasing order. -/
theorem keys_ordered (map : KeyMap Value) :
    map.keys.Pairwise (fun left right => left < right) :=
  List.pairwise_map.mpr map.ordered

end KeyMap

end Workloads
