import Workloads.Proofs.Json.Skipping

/-!
# What is read once is read everywhere

A reader that takes a value off a text would take it off any other text with the
same octets in front, as long as the value can end there.  So a text that is a
value on its own is the same value as the element of a list or the member of an
object.  This is seen by following each reader: what it has used is one of the
forms that it takes.
-/

namespace Workloads.Json

section

variable {Value Other : Type} {reader : Reader Value} {text : Bytes}
  {value : Value}

/-- Whether a reader reads a whole text as a value and leaves nothing. -/
def Reader.Decodes (reader : Reader Value) (text : Bytes) (value : Value) :
    Prop :=
  reader.read text = .ok (value, [])

theorem Reader.Takes.decodes (takes : reader.Takes text value) :
    reader.Decodes text value := by
  have whole := takes [] ends_nil
  rwa [List.append_nil] at whole

/-- A reader for which white space in front makes no difference, and which takes
everywhere what it has taken off some text. -/
structure Reader.Steady (reader : Reader Value) : Prop where
  blanks (text : Bytes) : reader.read (skipBlanks text) = reader.read text
  used {text rest : Bytes} {value : Value}
    (reads : reader.read text = .ok (value, rest)) :
    ∃ used, text = used ++ rest ∧ reader.Takes used value

/-- What is left after white space begins with none. -/
theorem solid_of_skipBlanks {octet : UInt8} {later : Bytes}
    (left : skipBlanks text = octet :: later) : isBlank octet = false := by
  induction text with
  | nil => cases left
  | cons first text hypothesis =>
      rw [skipBlanks] at left
      split at left
      next => exact hypothesis left
      next solid =>
        cases left
        exact Bool.eq_false_of_not_eq_true solid

theorem exists_gap_cons {octet : UInt8} {later : Bytes}
    (left : skipBlanks text = octet :: later) :
    ∃ gap, IsGap gap ∧ text = gap ++ octet :: later := by
  rcases exists_gap text with ⟨gap, blank, split⟩
  exact ⟨gap, blank, left ▸ split⟩

/-- White space in front of a value may be taken with it. -/
theorem Reader.Takes.gap (takes : reader.Takes text value)
    (blanks : ∀ text, reader.read (skipBlanks text) = reader.read text)
    {gap : Bytes} (blank : IsGap gap) :
    reader.Takes (gap ++ text) value := by
  intro rest ends
  rw [List.append_assoc, ← blanks, skipBlanks_append blank, blanks]
  exact takes rest ends

/-- A reader is steady if it is so on texts without white space in front. -/
theorem Reader.Steady.of_solid
    (blanks : ∀ text, reader.read (skipBlanks text) = reader.read text)
    (solid : ∀ {octet : UInt8} {later rest : Bytes} {value : Value},
      isBlank octet = false →
        reader.read (octet :: later) = .ok (value, rest) →
        ∃ used, octet :: later = used ++ rest ∧ reader.Takes used value) :
    reader.Steady where
  blanks := blanks
  used := by
    intro text rest value reads
    rcases exists_gap text with ⟨gap, blank, split⟩
    rw [← blanks] at reads
    cases left : skipBlanks text with
    | nil =>
        rw [left] at reads
        exact absurd (reader.consumes reads) (Nat.not_lt_zero _)
    | cons octet later =>
        rw [left] at reads split
        rcases solid (solid_of_skipBlanks left) reads with
          ⟨used, same, takes⟩
        refine ⟨gap ++ used, ?_, takes.gap blanks blank⟩
        rw [split, same, List.append_assoc]

/-- What a reader has used of a text begins as the text does. -/
theorem exists_cons_of_used {octet : UInt8} {later used rest : Bytes}
    (split : octet :: later = used ++ rest)
    (shorter : rest.length < (octet :: later).length) :
    ∃ tail, used = octet :: tail := by
  cases used with
  | nil =>
      rw [split, List.nil_append] at shorter
      exact absurd shorter (Nat.lt_irrefl _)
  | cons first tail =>
      cases split
      exact ⟨tail, rfl⟩

theorem Reader.Steady.takes (steady : reader.Steady)
    (decodes : reader.Decodes text value) : reader.Takes text value := by
  rcases steady.used decodes with ⟨used, split, takes⟩
  rw [List.append_nil] at split
  exact split ▸ takes

theorem Reader.Steady.map (steady : reader.Steady) (change : Value → Other) :
    (reader.map change).Steady where
  blanks text := by
    simp only [Reader.map, steady.blanks]
  used := by
    intro text rest other reads
    simp only [Reader.map] at reads
    split at reads
    · cases reads
    next read =>
      cases reads
      rcases steady.used read with ⟨used, split, takes⟩
      exact ⟨used, split, takes.map change⟩

end

/-! ## Scalars -/

theorem scanString_used {state : StringState}
    {reversed text octets rest : Bytes}
    (scans : scanString state reversed text = .ok (octets, rest)) :
    ∃ used, text = used ++ rest ∧
      ∀ more, scanString state reversed (used ++ more) =
        .ok (octets, more) := by
  induction text generalizing state reversed with
  | nil => cases scans
  | cons octet text hypothesis =>
      simp only [scanString] at scans
      split at scans
      · cases scans
      next step =>
        cases scans
        exact ⟨[octet], rfl, fun more => by simp [scanString, step]⟩
      next step =>
        rcases hypothesis scans with ⟨used, rfl, again⟩
        exact ⟨octet :: used, rfl, fun more => by
          rw [List.cons_append, scanString_proceed step, again]⟩

/-- What is read as a string spells it. -/
theorem spells_of_readString {text rest : Bytes} {key : String}
    (reads : readString text = .ok (key, rest)) :
    ∃ used, text = used ++ rest ∧ Spells used key := by
  unfold readString at reads
  split at reads
  · cases reads
  next scanned =>
    split at reads
    next spelled =>
      cases reads
      rcases scanString_used scanned with ⟨used, split, again⟩
      refine ⟨used, split, ?_⟩
      intro more
      simp only [readString, again, spelled]
    · cases reads

theorem steady_text : Reader.text.Steady := by
  refine .of_solid ?_ ?_
  · intro text
    simp only [Reader.text, readText, skipBlanks_idem]
  · intro octet later rest value solid reads
    simp only [Reader.text, readText, skipBlanks_solid solid] at reads
    split at reads
    next opens =>
      subst opens
      split at reads
      · cases reads
      next string =>
        cases reads
        rcases spells_of_readString string with ⟨name, rfl, spells⟩
        exact ⟨quote :: name, rfl, takes_spelled spells⟩
    · cases reads

theorem readMagnitude_used {negative : Bool} {text rest : Bytes}
    {number : Number}
    (reads : readMagnitude negative text = .ok (number, rest)) :
    ∃ used, text = used ++ rest ∧
      ∀ more, Ends more →
        readMagnitude negative (used ++ more) = .ok (number, more) := by
  unfold readMagnitude at reads
  split at reads
  · cases reads
  next parts left taken =>
    split at reads
    · cases reads
    next means =>
      cases reads
      rcases isMagnitude_of_readParts taken with ⟨used, split, magnitude⟩
      refine ⟨used, split, ?_⟩
      intro more ends
      simp only [readMagnitude, readParts_of_isMagnitude magnitude ends,
        means]

theorem readNumber_used {text rest : Bytes} {number : Number}
    (reads : readNumber text = .ok (number, rest)) :
    ∃ used, text = used ++ rest ∧
      ∀ more, Ends more →
        readNumber (used ++ more) = .ok (number, more) := by
  have shorter := readNumber_length_lt reads
  cases text with
  | nil => cases reads
  | cons octet later =>
      simp only [readNumber] at reads
      split at reads
      next signed =>
        subst signed
        rcases readMagnitude_used reads with ⟨used, rfl, again⟩
        exact ⟨minus :: used, rfl, again⟩
      next unsigned =>
        rcases readMagnitude_used reads with ⟨used, split, again⟩
        rcases exists_cons_of_used split shorter with ⟨tail, rfl⟩
        refine ⟨octet :: tail, split, ?_⟩
        intro more ends
        rw [List.cons_append, readNumber, if_neg unsigned]
        exact again more ends

theorem steady_integer (range : IntegerRange) :
    (Reader.integer range).Steady := by
  refine .of_solid ?_ ?_
  · intro text
    simp only [Reader.integer, readInteger, skipBlanks_idem]
  · intro octet later rest value solid reads
    have shorter := (Reader.integer range).consumes reads
    simp only [Reader.integer, readInteger, skipBlanks_solid solid] at reads
    split at reads
    next begins =>
      split at reads
      · cases reads
      · cases reads
      next number =>
        split at reads
        next within =>
          cases reads
          rcases readNumber_used number with ⟨used, split, again⟩
          rcases exists_cons_of_used split shorter with ⟨tail, rfl⟩
          refine ⟨octet :: tail, split, ?_⟩
          intro more ends
          have number := again more ends
          rw [List.cons_append] at number ⊢
          simp only [Reader.integer, readInteger, skipBlanks_solid solid,
            if_pos begins, number, if_pos within]
        · cases reads
    · cases reads

theorem readWord_used {word text rest : Bytes}
    (reads : readWord word text = .ok rest) : text = word ++ rest := by
  induction word generalizing text with
  | nil =>
      cases reads
      rfl
  | cons letter word hypothesis =>
      cases text with
      | nil => cases reads
      | cons octet text =>
          simp only [readWord] at reads
          split at reads
          next same => rw [hypothesis reads, same, List.cons_append]
          · cases reads

theorem Reader.Steady.nullable {Value : Type} {reader : Reader Value}
    (steady : reader.Steady) : reader.nullable.Steady := by
  refine .of_solid ?_ ?_
  · intro text
    simp only [Reader.nullable, readNullable, skipBlanks_idem]
  · intro octet later rest value solid reads
    simp only [Reader.nullable, readNullable, skipBlanks_solid solid] at reads
    split at reads
    next null =>
      subst null
      split at reads
      · cases reads
      next word =>
        cases reads
        rw [readWord_used word]
        exact ⟨writeNull, rfl, takes_null⟩
    next other =>
      split at reads
      · cases reads
      next inner =>
        cases reads
        rcases steady.used inner with ⟨used, split, takes⟩
        rcases exists_cons_of_used split (reader.consumes inner) with
          ⟨tail, rfl⟩
        exact ⟨octet :: tail, split, takes.nullable solid other⟩

/-! ## Lists -/

theorem closed_of_nextElement {first : Bool} {text rest : Bytes}
    (next : nextElement first text = .ok (.closed rest)) :
    ∃ gap, text = gap ++ closeList :: rest ∧ IsGap gap := by
  unfold nextElement at next
  split at next
  · cases next
  next octet later left =>
    rcases exists_gap_cons left with ⟨gap, blank, split⟩
    split at next
    next closes =>
      cases next
      exact ⟨gap, closes ▸ split, blank⟩
    · split at next
      · cases next
      · split at next
        · split at next
          · cases next
          · split at next <;> cases next
        · cases next

theorem item_of_nextElement {first : Bool} {text item : Bytes}
    (next : nextElement first text = .ok (.item item)) :
    ∃ separator, text = separator ++ item ∧ Separates first separator ∧
      Begins item := by
  unfold nextElement at next
  split at next
  · cases next
  next octet later left =>
    rcases exists_gap_cons left with ⟨gap, blank, split⟩
    split at next
    · cases next
    next other =>
      split at next
      next opening =>
        cases next
        rw [opening]
        exact ⟨gap, split, .opening blank,
          octet, later, rfl, solid_of_skipBlanks left, other⟩
      next inner =>
        rw [Bool.eq_false_of_not_eq_true inner]
        split at next
        next between =>
          subst between
          split at next
          · cases next
          next after tail leftLater =>
            rcases exists_gap_cons leftLater with
              ⟨space, blankLater, splitLater⟩
            split at next
            · cases next
            next otherLater =>
              cases next
              refine ⟨gap ++ comma :: space, ?_, .between blank blankLater,
                after, tail, rfl, solid_of_skipBlanks leftLater, otherLater⟩
              rw [split, splitLater, List.append_assoc, List.cons_append]
        · cases next

section

variable {Value : Type} {reader : Reader Value}

theorem readElements_used (steady : reader.Steady) {first : Bool}
    {position : Nat} {reversed values : List Value} {text rest : Bytes}
    (reads :
      readElements reader first position reversed text =
        .ok (values, rest)) :
    ∃ used texts later, text = used ++ rest ∧ ListForm first texts used ∧
      List.Forall₂ reader.Takes texts later ∧
        values = reversed.reverse ++ later := by
  fun_induction readElements reader first position reversed text with
  | case1 => cases reads
  | case2 first position reversed text left next =>
      cases reads
      rcases closed_of_nextElement next with ⟨gap, rfl, blank⟩
      refine ⟨gap ++ [closeList], [], [], ?_, .closed blank, .nil, ?_⟩
      · simp
      · simp
  | case3 => cases reads
  | case4 first position reversed text item next value left read
      hypothesis =>
      rcases hypothesis reads with
        ⟨after, texts, later, rfl, form, takes, rfl⟩
      rcases item_of_nextElement next with
        ⟨separator, rfl, separates, octet, tail, rfl, solid, other⟩
      rcases steady.used read with ⟨used, split, takesFirst⟩
      rcases exists_cons_of_used split (reader.consumes read) with
        ⟨front, rfl⟩
      refine ⟨separator ++ (octet :: front ++ after),
        (octet :: front) :: texts, value :: later, ?_, ?_,
        .cons takesFirst takes, ?_⟩
      · rw [split]
        simp
      · exact .item separates ⟨octet, front, rfl, solid, other⟩ form
      · simp

theorem Reader.Steady.list (steady : reader.Steady) :
    reader.list.Steady := by
  refine .of_solid ?_ ?_
  · intro text
    simp only [Reader.list, readList, skipBlanks_idem]
  · intro octet later rest values solid reads
    simp only [Reader.list, readList, skipBlanks_solid solid] at reads
    split at reads
    next opens =>
      subst opens
      rcases readElements_used steady reads with
        ⟨used, texts, taken, rfl, form, takes, rfl⟩
      exact ⟨openList :: used, rfl, takes_list form takes⟩
    · cases reads

end

/-! ## Objects -/

theorem closed_of_nextMember {first : Bool} {text rest : Bytes}
    (next : nextMember first text = .ok (.closed rest)) :
    ∃ gap, text = gap ++ closeObject :: rest ∧ IsGap gap := by
  unfold nextMember at next
  split at next
  · cases next
  next octet later left =>
    rcases exists_gap_cons left with ⟨gap, blank, split⟩
    split at next
    next closes =>
      cases next
      exact ⟨gap, closes ▸ split, blank⟩
    · split at next
      · split at next <;> cases next
      · split at next
        · split at next
          · cases next
          · split at next
            · cases next
            · split at next <;> cases next
        · cases next

theorem item_of_nextMember {first : Bool} {text item : Bytes}
    (next : nextMember first text = .ok (.item item)) :
    ∃ separator, text = separator ++ quote :: item ∧
      Separates first separator := by
  unfold nextMember at next
  split at next
  · cases next
  next octet later left =>
    rcases exists_gap_cons left with ⟨gap, blank, split⟩
    split at next
    · cases next
    · split at next
      next opening =>
        split at next
        next opens =>
          cases next
          rw [opening]
          exact ⟨gap, opens ▸ split, .opening blank⟩
        · cases next
      next inner =>
        rw [Bool.eq_false_of_not_eq_true inner]
        split at next
        next between =>
          subst between
          split at next
          · cases next
          next after tail leftLater =>
            rcases exists_gap_cons leftLater with
              ⟨space, blankLater, splitLater⟩
            split at next
            next opens =>
              cases next
              refine ⟨gap ++ comma :: space, ?_, .between blank blankLater⟩
              rw [split, splitLater, opens, List.append_assoc,
                List.cons_append]
            · split at next <;> cases next
        · cases next

theorem closed_of_readMember {first : Bool} {text rest : Bytes}
    (reads : readMember first text = .ok (.closed rest)) :
    ∃ gap, text = gap ++ closeObject :: rest ∧ IsGap gap := by
  unfold readMember at reads
  split at reads
  · cases reads
  next next =>
    cases reads
    exact closed_of_nextMember next
  · split at reads <;> cases reads

theorem keyed_of_readMember {first : Bool} {text left : Bytes}
    {key : String} (reads : readMember first text = .ok (.keyed key left)) :
    ∃ separator name, text = separator ++ quote :: (name ++ left) ∧
      Separates first separator ∧ Spells name key := by
  unfold readMember at reads
  split at reads
  · cases reads
  · cases reads
  next next =>
    split at reads
    · cases reads
    next string =>
      cases reads
      rcases item_of_nextMember next with ⟨separator, rfl, separates⟩
      rcases spells_of_readString string with ⟨name, rfl, spells⟩
      exact ⟨separator, name, rfl, separates, spells⟩

theorem gap_of_readColon {text rest : Bytes}
    (reads : readColon text = .ok rest) :
    ∃ gap, text = gap ++ colon :: rest ∧ IsGap gap := by
  unfold readColon at reads
  split at reads
  · cases reads
  next octet later left =>
    rcases exists_gap_cons left with ⟨gap, blank, split⟩
    split at reads
    next same =>
      cases reads
      exact ⟨gap, same ▸ split, blank⟩
    · cases reads

section

variable {Value : Type} {reader : Reader Value}

theorem readMemberValue_used (steady : reader.Steady) {key : String}
    {text rest : Bytes} {value : Value}
    (reads : readMemberValue reader key text = .ok (value, rest)) :
    ∃ gap used, text = gap ++ colon :: (used ++ rest) ∧ IsGap gap ∧
      reader.Takes used value := by
  unfold readMemberValue at reads
  split at reads
  · cases reads
  next separated =>
    split at reads
    · cases reads
    next inner =>
      cases reads
      rcases gap_of_readColon separated with ⟨gap, rfl, blank⟩
      rcases steady.used inner with ⟨used, rfl, takes⟩
      exact ⟨gap, used, rfl, blank, takes⟩

theorem readMembers_used (steady : reader.Steady) {first : Bool}
    {sofar values : KeyMap Value} {text rest : Bytes}
    (reads : readMembers reader first sofar text = .ok (values, rest)) :
    ∃ used members entries, text = used ++ rest ∧
      ObjectForm first members used ∧
      List.Forall₂ reader.TakesMember members entries ∧
        values =
          entries.foldl (fun map entry => map.insert entry.1 entry.2)
            sofar := by
  fun_induction readMembers reader first sofar text with
  | case1 => cases reads
  | case2 first sofar text left member =>
      cases reads
      rcases closed_of_readMember member with ⟨gap, rfl, blank⟩
      exact ⟨gap ++ [closeObject], [], [], by simp, .closed blank, .nil, rfl⟩
  | case3 => cases reads
  | case4 first sofar text key left member value later read hypothesis =>
      rcases hypothesis reads with
        ⟨after, members, entries, rfl, form, takes, rfl⟩
      rcases keyed_of_readMember member with
        ⟨separator, name, rfl, separates, spells⟩
      rcases readMemberValue_used steady read with
        ⟨gap, used, rfl, blank, takesFirst⟩
      refine ⟨separator ++ quote :: (name ++ (gap ++ colon ::
          (used ++ after))), (key, used) :: members, (key, value) :: entries,
        ?_, .member separates spells blank form,
        .cons ⟨rfl, takesFirst⟩ takes, rfl⟩
      simp

theorem Reader.Steady.keyMap (steady : reader.Steady) :
    reader.keyMap.Steady := by
  refine .of_solid ?_ ?_
  · intro text
    simp only [Reader.keyMap, readMap, skipBlanks_idem]
  · intro octet later rest values solid reads
    simp only [Reader.keyMap, readMap, skipBlanks_solid solid] at reads
    split at reads
    next opens =>
      subst opens
      rcases readMembers_used steady reads with
        ⟨used, members, entries, rfl, form, takes, rfl⟩
      exact ⟨openObject :: used, rfl, takes_keyMap form takes⟩
    · cases reads

end

/-! ## Enumerations -/

namespace Enumeration

variable {Value : Type} {enumeration : Enumeration Value}

theorem readWordOf_used {text rest : Bytes} {value : Value}
    (reads : enumeration.readWordOf text = .ok (value, rest)) :
    ∃ used, text = used ++ rest ∧
      ∀ more, enumeration.readWordOf (used ++ more) = .ok (value, more) := by
  unfold readWordOf at reads
  split at reads
  · cases reads
  next string =>
    split at reads
    · cases reads
    next names =>
      cases reads
      rcases spells_of_readString string with ⟨used, split, spells⟩
      refine ⟨used, split, ?_⟩
      intro more
      simp only [readWordOf, spells more, names]

theorem readUnit_used {text rest : Bytes}
    (reads : readUnit text = .ok ((), rest)) :
    ∃ used, text = used ++ rest ∧
      ∀ more, readUnit (used ++ more) = .ok ((), more) := by
  have solid : isBlank 110 = false := by decide
  unfold readUnit at reads
  split at reads
  · cases reads
  next octet later left =>
    rcases exists_gap_cons left with ⟨gap, blank, split⟩
    split at reads
    next null =>
      subst null
      split at reads
      · cases reads
      next word =>
        cases reads
        rw [readWord_used word] at split
        refine ⟨gap ++ 110 :: restOfNull, by rw [split]; simp, ?_⟩
        intro more
        simp [readUnit, skipBlanks_gap blank solid, readWord_append]
    · cases reads

theorem readHeld_used {value found : Value} {text rest : Bytes}
    (reads : readHeld value text = .ok (found, rest)) :
    ∃ used, text = used ++ rest ∧
      ∀ more, readHeld value (used ++ more) = .ok (found, more) := by
  have solid : isBlank closeObject = false := by decide
  unfold readHeld at reads
  split at reads
  · cases reads
  next separated =>
    split at reads
    · cases reads
    next afterUnit unit =>
      split at reads
      · cases reads
      next octet later left =>
        rcases exists_gap_cons left with ⟨gap, blank, split⟩
        split at reads
        next closes =>
          cases reads
          subst closes
          rcases gap_of_readColon separated with ⟨front, rfl, clear⟩
          rcases readUnit_used unit with ⟨used, rfl, again⟩
          refine ⟨front ++ colon :: (used ++ (gap ++ [closeObject])),
            by rw [split]; simp, ?_⟩
          intro more
          simp [readHeld, readColon_gap clear, again,
            skipBlanks_gap blank solid]
        · cases reads

theorem readTagged_used {value : Value} {text rest : Bytes}
    (reads : enumeration.readTagged text = .ok (value, rest)) :
    ∃ used, text = used ++ rest ∧
      ∀ more, enumeration.readTagged (used ++ more) = .ok (value, more) := by
  have solid : isBlank quote = false := by decide
  unfold readTagged at reads
  split at reads
  · cases reads
  next octet later left =>
    rcases exists_gap_cons left with ⟨gap, blank, split⟩
    split at reads
    next opens =>
      subst opens
      split at reads
      · cases reads
      next word =>
        rcases readWordOf_used word with ⟨name, rfl, again⟩
        rcases readHeld_used reads with ⟨used, rfl, held⟩
        refine ⟨gap ++ quote :: (name ++ used), by rw [split]; simp, ?_⟩
        intro more
        simp [readTagged, skipBlanks_gap blank solid, again, held]
    · split at reads <;> cases reads

theorem steady (enumeration : Enumeration Value) :
    enumeration.reader.Steady := by
  refine .of_solid ?_ ?_
  · intro text
    simp only [Enumeration.reader, Enumeration.read, skipBlanks_idem]
  · intro octet later rest value solid reads
    simp only [Enumeration.reader, Enumeration.read,
      skipBlanks_solid solid] at reads
    split at reads
    next opens =>
      rcases readTagged_used reads with ⟨used, rfl, again⟩
      refine ⟨octet :: used, rfl, ?_⟩
      intro more _
      simp only [Enumeration.reader, Enumeration.read, List.cons_append,
        skipBlanks_solid solid, if_pos opens, again]
    next object =>
      split at reads
      next opens =>
        split at reads
        · cases reads
        next word =>
          cases reads
          rcases readWordOf_used word with ⟨used, rfl, again⟩
          refine ⟨octet :: used, rfl, ?_⟩
          intro more _
          simp only [Enumeration.reader, Enumeration.read, List.cons_append,
            skipBlanks_solid solid, if_neg object, if_pos opens, again]
      · cases reads

end Enumeration

end Workloads.Json
