import Mathlib.Data.List.Infix
import Workloads.Proofs.Json.Steady

/-!
# Texts that end too early

What is cut off is never taken for something shorter.  Wherever a string, a
list, an object or a record breaks off, within a token or between two of them,
reading comes to the end of the text and says so.  Only a number may be a number
still when it is cut off; then it ends the text, and what is around it breaks
off there.
-/

namespace Workloads.Json

/-! ## Cuts -/

/-- Whether a text is another one without some of its end. -/
def CutFrom (front text : Bytes) : Prop :=
  ∃ back, back ≠ [] ∧ text = front ++ back

namespace CutFrom

variable {front text : Bytes}

theorem not_nil (cut : CutFrom front []) : False := by
  rcases cut with ⟨back, more, whole⟩
  exact more (List.append_eq_nil_iff.mp whole.symm).2

/-- A cut falls within the first part or behind it. -/
theorem append_cases {first second : Bytes}
    (cut : CutFrom front (first ++ second)) :
    CutFrom front first ∨
      ∃ rest, front = first ++ rest ∧ CutFrom rest second := by
  rcases cut with ⟨back, more, whole⟩
  rcases List.append_eq_append_iff.mp whole with
    ⟨rest, rfl, rfl⟩ | ⟨rest, rfl, rfl⟩
  · exact .inr ⟨rest, rfl, back, more, rfl⟩
  · cases rest with
    | nil => exact .inr ⟨[], by simp, second, more, rfl⟩
    | cons octet rest => exact .inl ⟨octet :: rest, nofun, rfl⟩

/-- A cut falls in front of the first octet or behind it. -/
theorem cons_cases {octet : UInt8} (cut : CutFrom front (octet :: text)) :
    front = [] ∨ ∃ rest, front = octet :: rest ∧ CutFrom rest text := by
  rcases cut with ⟨back, more, whole⟩
  cases front with
  | nil => exact .inl rfl
  | cons first rest =>
      cases whole
      exact .inr ⟨rest, rfl, back, more, rfl⟩

theorem ends (cut : CutFrom front text) (ends : Ends text) : Ends front := by
  rcases cut with ⟨back, _, rfl⟩
  cases front with
  | nil => exact ends_nil
  | cons octet rest => exact ends_cons (ends octet rfl) rest

theorem isGap (cut : CutFrom front text) (blank : IsGap text) :
    IsGap front := by
  rcases cut with ⟨back, _, rfl⟩
  exact fun octet member => blank octet (List.mem_append_left back member)

theorem begins (cut : CutFrom front text) (begins : Begins text)
    (nonempty : front ≠ []) : Begins front := by
  rcases cut with ⟨back, _, rfl⟩
  rcases begins with ⟨octet, rest, whole, solid, other⟩
  cases front with
  | nil => exact absurd rfl nonempty
  | cons first front =>
      cases whole
      exact ⟨octet, front, rfl, solid, other⟩

end CutFrom

/-- White space with an octet behind it is white space where it is cut off. -/
theorem CutFrom.isGap_of_last {gap front : Bytes} {octet : UInt8}
    (cut : CutFrom front (gap ++ [octet])) (blank : IsGap gap) :
    IsGap front := by
  rcases cut.append_cases with inside | ⟨rest, rfl, last⟩
  · exact inside.isGap blank
  · rcases last.cons_cases with rfl | ⟨_, _, nothing⟩
    · rwa [List.append_nil]
    · exact nothing.not_nil.elim

theorem skipBlanks_of_isGap {gap : Bytes} (blank : IsGap gap) :
    skipBlanks gap = [] := by
  have left := skipBlanks_append blank []
  rwa [List.append_nil] at left

/-! ## Reading that ends too early -/

/-- Whether reading fails because the text ends too early. -/
def EndsEarly {Value : Type} (outcome : Except Fault Value) : Prop :=
  ∃ fault, outcome = .error fault ∧ fault.problem.category = .truncated

/-- Whether a problem is that the text ends too early. -/
def Early {Value : Type} (outcome : Except Problem Value) : Prop :=
  ∃ problem, outcome = .error problem ∧ problem.category = .truncated

section

variable {Value Other : Type} {reader : Reader Value} {text : Bytes}

/-- Whether a reader comes to the end of the text wherever this one is cut
off. -/
def Reader.BreaksOff (reader : Reader Value) (text : Bytes) : Prop :=
  ∀ front, CutFrom front text → EndsEarly (reader.read front)

/-- Whether a reader leaves nothing where this text is cut off, if it does not
come to the end of it. -/
def Reader.RunsOut (reader : Reader Value) (text : Bytes) : Prop :=
  ∀ front, CutFrom front text → EndsEarly (reader.read front) ∨
    ∃ value, reader.read front = .ok (value, [])

theorem Reader.BreaksOff.runsOut (breaks : reader.BreaksOff text) :
    reader.RunsOut text :=
  fun front cut => .inl (breaks front cut)

theorem Reader.BreaksOff.readAll (breaks : reader.BreaksOff text)
    {front : Bytes} (cut : CutFrom front text) :
    EndsEarly (reader.readAll front) := by
  rcases breaks front cut with ⟨fault, read, truncated⟩
  exact ⟨fault, by simp only [Reader.readAll, read], truncated⟩

theorem Reader.RunsOut.map (runs : reader.RunsOut text)
    (change : Value → Other) : (reader.map change).RunsOut text := by
  intro front cut
  rcases runs front cut with ⟨fault, read, truncated⟩ | ⟨value, read⟩
  · exact .inl ⟨fault, by simp only [Reader.map, read], truncated⟩
  · exact .inr ⟨change value, by simp only [Reader.map, read]⟩

end

/-! ## Words and strings -/

theorem readWord_cut {front word : Bytes} (cut : CutFrom front word) :
    readWord word front = .error .endInValue := by
  induction word generalizing front with
  | nil => exact cut.not_nil.elim
  | cons letter word hypothesis =>
      rcases cut.cons_cases with rfl | ⟨rest, rfl, later⟩
      · rfl
      · rw [readWord, if_pos rfl, hypothesis later]

/-- A string that closes behind a cut is open in front of it. -/
theorem scanString_cut {state : StringState}
    {reversed front back octets rest : Bytes}
    (scans : scanString state reversed (front ++ back) = .ok (octets, rest))
    (behind : rest.length < back.length) :
    scanString state reversed front = .error .endInString := by
  induction front generalizing state reversed with
  | nil => rfl
  | cons octet front hypothesis =>
      simp only [List.cons_append, scanString] at scans ⊢
      split at scans
      · cases scans
      next step =>
        -- The string would have closed here, and all of the rest be left.
        cases scans
        rw [List.length_append] at behind
        omega
      next step => simpa only [step] using hypothesis scans

theorem Spells.cut {name front : Bytes} {key : String}
    (spells : Spells name key) (cut : CutFrom front name) :
    readString front = .error .endInString := by
  rcases cut with ⟨back, more, rfl⟩
  have whole := spells []
  rw [List.append_nil] at whole
  unfold readString at whole
  split at whole
  · cases whole
  next scanned =>
    split at whole
    · cases whole
      have inside : ([] : Bytes).length < back.length :=
        List.length_pos_of_ne_nil more
      simp only [readString, scanString_cut scanned inside]
    · cases whole

theorem breaksOff_text {name : Bytes} {key : String}
    (spells : Spells name key) :
    Reader.text.BreaksOff (quote :: name) := by
  have solid : isBlank quote = false := by decide
  intro front cut
  rcases cut.cons_cases with rfl | ⟨rest, rfl, later⟩
  · exact ⟨_, rfl, rfl⟩
  · refine ⟨fault .endInString, ?_, rfl⟩
    simp [Reader.text, readText, skipBlanks_solid solid, spells.cut later]

theorem breaksOff_writeText (text : String) :
    Reader.text.BreaksOff (writeText text) :=
  breaksOff_text (spells_written text)

section

variable {Value : Type} {reader : Reader Value}

theorem breaksOff_null : reader.nullable.BreaksOff writeNull := by
  have solid : isBlank 110 = false := by decide
  intro front cut
  rcases cut.cons_cases with rfl | ⟨rest, rfl, later⟩
  · exact ⟨_, rfl, rfl⟩
  · refine ⟨fault .endInValue, ?_, rfl⟩
    simp [Reader.nullable, readNullable, skipBlanks_solid solid,
      readWord_cut later]

theorem Reader.BreaksOff.nullable {octet : UInt8} {later : Bytes}
    (breaks : reader.BreaksOff (octet :: later))
    (solid : isBlank octet = false) (other : octet ≠ 110) :
    reader.nullable.BreaksOff (octet :: later) := by
  intro front cut
  rcases cut.cons_cases with rfl | ⟨rest, rfl, _⟩
  · exact ⟨_, rfl, rfl⟩
  · rcases breaks _ cut with ⟨fault, read, truncated⟩
    refine ⟨fault, ?_, truncated⟩
    simp [Reader.nullable, readNullable, skipBlanks_solid solid, other, read]

end

theorem breaksOff_optional (value : Option String) :
    Reader.text.nullable.BreaksOff (writeOptional value) := by
  cases value with
  | none => exact breaksOff_null
  | some text => exact (breaksOff_writeText text).nullable rfl (by decide)

/-! ## Numbers -/

/-- A written number that is cut off is one that is not larger. -/
theorem writeNat_cut {value : Nat} {front : Bytes}
    (cut : CutFrom front (writeNat value)) :
    front = [] ∨ ∃ smaller ≤ value, front = writeNat smaller := by
  induction value using decimal_induction generalizing front with
  | digit value low =>
      rw [writeNat_of_lt low] at cut
      rcases cut.cons_cases with rfl | ⟨rest, _, cut⟩
      · exact .inl rfl
      · exact cut.not_nil.elim
  | more value high hypothesis =>
      have less : value / 10 ≤ value := Nat.div_le_self value 10
      rw [writeNat_of_le high] at cut
      rcases cut.append_cases with inside | ⟨rest, rfl, last⟩
      · rcases hypothesis inside with rfl | ⟨smaller, small, rfl⟩
        · exact .inl rfl
        · exact .inr ⟨smaller, small.trans less, rfl⟩
      · rcases last.cons_cases with rfl | ⟨_, _, nothing⟩
        · exact .inr ⟨value / 10, less, List.append_nil _⟩
        · exact nothing.not_nil.elim

theorem runsOut_integer {range : IntegerRange} {value : Nat}
    (fits : value < wordLimit) (low : range.low ≤ 0)
    (high : (value : Int) ≤ range.high) :
    (Reader.integer range).RunsOut (writeNat value) := by
  intro front cut
  rcases writeNat_cut cut with rfl | ⟨smaller, small, rfl⟩
  · exact .inl ⟨_, rfl, rfl⟩
  · have takes : (Reader.integer range).Takes (writeNat smaller) smaller :=
      takes_integer (by omega) (by omega) (by omega)
    have read := takes [] ends_nil
    rw [List.append_nil] at read
    exact .inr ⟨smaller, read⟩

/-! ## Lists -/

/-- The beginnings of what separates items: white space, or more of it behind a
comma. -/
theorem Separates.prefix_cases {first : Bool} {separator front : Bytes}
    (separates : Separates first separator) (within : front <+: separator) :
    IsGap front ∨ first = false ∧
      ∃ gap later, front = gap ++ comma :: later ∧ IsGap gap ∧
        IsGap later := by
  have shorter {front gap : Bytes} (within : front <+: gap)
      (blank : IsGap gap) : IsGap front :=
    fun octet member => blank octet (within.subset member)
  cases separates with
  | opening blank => exact .inl (shorter within blank)
  | @between gap later blank blankLater =>
      rcases within with ⟨back, whole⟩
      rcases List.append_eq_append_iff.mp whole with
        ⟨rest, rfl, _⟩ | ⟨rest, rfl, split⟩
      · exact .inl (shorter ⟨rest, rfl⟩ blank)
      · cases rest with
        | nil => exact .inl (shorter ⟨[], by simp⟩ blank)
        | cons octet rest =>
            cases split
            exact .inr ⟨rfl, gap, rest, rfl, blank,
              shorter ⟨back, rfl⟩ blankLater⟩

theorem nextElement_early {first : Bool} {separator front : Bytes}
    (separates : Separates first separator) (within : front <+: separator) :
    Early (nextElement first front) := by
  rcases separates.prefix_cases within with
    blank | ⟨rfl, gap, later, rfl, blank, blankLater⟩
  · exact ⟨.endInList, by simp [nextElement, skipBlanks_of_isGap blank], rfl⟩
  · have solid : isBlank comma = false := by decide
    have other : comma ≠ closeList := by decide
    refine ⟨.endInValue, ?_, rfl⟩
    simp [nextElement, skipBlanks_gap blank solid, other,
      skipBlanks_of_isGap blankLater]

section

variable {Value : Type} {reader : Reader Value}

theorem readElements_early {first : Bool} {text : Bytes}
    (early : Early (nextElement first text)) (position : Nat)
    (reversed : List Value) :
    EndsEarly (readElements reader first position reversed text) := by
  rcases early with ⟨problem, next, truncated⟩
  exact ⟨fault problem, by rw [readElements_eq, next], truncated⟩

/-- A list breaks off wherever it is cut off, even behind an element that does
not. -/
theorem readElements_cut {first : Bool} {texts : List Bytes} {form : Bytes}
    (list : ListForm first texts form)
    (each : ∀ text ∈ texts,
      (∃ value, reader.Takes text value) ∧ reader.RunsOut text)
    {front : Bytes} (cut : CutFrom front form) (position : Nat)
    (reversed : List Value) :
    EndsEarly (readElements reader first position reversed front) := by
  induction list generalizing front position reversed with
  | @closed first gap blank =>
      refine readElements_early ?_ position reversed
      have inside := cut.isGap_of_last blank
      exact ⟨.endInList, by simp [nextElement, skipBlanks_of_isGap inside],
        rfl⟩
  | @item first separator text after texts separates begins later
      hypothesis =>
      rcases each text List.mem_cons_self with ⟨⟨value, takes⟩, runs⟩
      -- The cut is in front of the element, inside it or behind it.
      rcases cut.append_cases with ⟨back, _, rfl⟩ | ⟨rest, rfl, cutItem⟩
      · exact readElements_early
          (nextElement_early separates ⟨back, rfl⟩) position reversed
      · rcases cutItem.append_cases with inside | ⟨rest, rfl, cutLater⟩
        · by_cases empty : rest = []
          · subst empty
            exact readElements_early
              (nextElement_early separates ⟨[], by simp⟩) position reversed
          · have next := nextElement_item separates
              (inside.begins begins empty) []
            rw [List.append_nil] at next
            rcases runs rest inside with ⟨fault, read, early⟩ | ⟨cut, read⟩
            · refine ⟨fault.within (.index position), ?_, early⟩
              rw [readElements_eq, next]
              simp only [read]
            · rw [readElements_item next read]
              exact readElements_early
                ⟨.endInList, rfl, rfl⟩ _ _
        · have ends : Ends rest := by
            have whole := later.ends []
            rw [List.append_nil] at whole
            exact cutLater.ends whole
          rw [readElements_item (nextElement_item separates begins _)
            (takes rest ends)]
          exact hypothesis (fun other member =>
            each other (List.mem_cons_of_mem _ member)) cutLater _ _

theorem breaksOff_list {texts : List Bytes} {form : Bytes}
    (list : ListForm true texts form)
    (each : ∀ text ∈ texts,
      (∃ value, reader.Takes text value) ∧ reader.RunsOut text) :
    reader.list.BreaksOff (openList :: form) := by
  intro front cut
  rcases cut.cons_cases with rfl | ⟨rest, rfl, later⟩
  · exact ⟨_, rfl, rfl⟩
  · exact readElements_cut list each later 0 []

end

/-! ## Objects -/

theorem nextMember_early {first : Bool} {separator front : Bytes}
    (separates : Separates first separator) (within : front <+: separator) :
    Early (nextMember first front) := by
  rcases separates.prefix_cases within with
    blank | ⟨rfl, gap, later, rfl, blank, blankLater⟩
  · exact ⟨.endInObject, by simp [nextMember, skipBlanks_of_isGap blank],
      rfl⟩
  · have solid : isBlank comma = false := by decide
    have other : comma ≠ closeObject := by decide
    refine ⟨.endInValue, ?_, rfl⟩
    simp [nextMember, skipBlanks_gap blank solid, other,
      skipBlanks_of_isGap blankLater]

theorem readMember_early {first : Bool} {text : Bytes}
    (early : Early (nextMember first text)) :
    EndsEarly (readMember first text) := by
  rcases early with ⟨problem, next, truncated⟩
  exact ⟨(fault problem).within .unreadable,
    by simp only [readMember, next], truncated⟩

theorem readMember_closed_cut {first : Bool} {gap front : Bytes}
    (blank : IsGap gap) (cut : CutFrom front (gap ++ [closeObject])) :
    EndsEarly (readMember first front) := by
  have inside := cut.isGap_of_last blank
  exact readMember_early
    ⟨.endInObject, by simp [nextMember, skipBlanks_of_isGap inside], rfl⟩

/-- A member that is cut off breaks off in front of the end of its key, or is
read up to there. -/
theorem readMember_cut {first : Bool} {separator name after front : Bytes}
    {key : String} (separates : Separates first separator)
    (spells : Spells name key)
    (cut : CutFrom front (separator ++ quote :: (name ++ after))) :
    EndsEarly (readMember first front) ∨
      ∃ rest, readMember first front = .ok (.keyed key rest) ∧
        CutFrom rest after := by
  rcases cut.append_cases with ⟨back, _, rfl⟩ | ⟨rest, rfl, cutKey⟩
  · exact .inl (readMember_early (nextMember_early separates ⟨back, rfl⟩))
  · rcases cutKey.cons_cases with rfl | ⟨rest, rfl, cutName⟩
    · exact .inl (readMember_early
        (nextMember_early separates ⟨[], by simp⟩))
    · rcases cutName.append_cases with inside | ⟨rest, rfl, cutLater⟩
      · refine .inl ⟨(fault .endInString).within .unreadable, ?_, rfl⟩
        simp only [readMember, nextMember_item separates, spells.cut inside]
      · exact .inr
          ⟨rest, readMember_keyed separates spells rest, cutLater⟩

theorem readColon_cut {gap after front : Bytes} (blank : IsGap gap)
    (cut : CutFrom front (gap ++ colon :: after)) :
    readColon front = .error .endInObject ∨
      ∃ rest, readColon front = .ok rest ∧ CutFrom rest after := by
  have nothing (gap : Bytes) (blank : IsGap gap) :
      readColon gap = .error .endInObject := by
    simp only [readColon, skipBlanks_of_isGap blank]
  rcases cut.append_cases with inside | ⟨rest, rfl, cutColon⟩
  · exact .inl (nothing front (inside.isGap blank))
  · rcases cutColon.cons_cases with rfl | ⟨rest, rfl, cutLater⟩
    · exact .inl (nothing _ (by simpa using blank))
    · exact .inr ⟨rest, readColon_gap blank rest, cutLater⟩

section

variable {Value : Type} {reader : Reader Value}

/-- A value that is cut off breaks off, or is read and leaves a cut of what was
behind it. -/
theorem readMemberValue_cut {gap text after front : Bytes} {value : Value}
    (blank : IsGap gap) (takes : reader.Takes text value)
    (runs : reader.RunsOut text) (ends : Ends after) (key : String)
    (cut : CutFrom front (gap ++ colon :: (text ++ after))) :
    EndsEarly (readMemberValue reader key front) ∨
      (∃ short, readMemberValue reader key front = .ok (short, [])) ∨
      ∃ rest, readMemberValue reader key front = .ok (value, rest) ∧
        CutFrom rest after := by
  rcases readColon_cut blank cut with early | ⟨rest, read, cutValue⟩
  · exact .inl ⟨fault .endInObject,
      by simp only [readMemberValue, early], rfl⟩
  · rcases cutValue.append_cases with inside | ⟨rest, rfl, cutLater⟩
    · rcases runs rest inside with ⟨fault, early, truncated⟩ | ⟨short, whole⟩
      · exact .inl ⟨fault.within (.key key),
          by simp only [readMemberValue, read, early], truncated⟩
      · exact .inr (.inl ⟨short,
          by simp only [readMemberValue, read, whole]⟩)
    · have whole := takes rest (cutLater.ends ends)
      exact .inr (.inr ⟨rest,
        by simp only [readMemberValue, read, whole], cutLater⟩)

theorem readMembers_early {first : Bool} {text : Bytes}
    (early : EndsEarly (readMember first text)) (sofar : KeyMap Value) :
    EndsEarly (readMembers reader first sofar text) := by
  rcases early with ⟨fault, read, truncated⟩
  exact ⟨fault, by rw [readMembers_eq, read], truncated⟩

theorem readMember_nil : EndsEarly (readMember false []) :=
  ⟨_, rfl, rfl⟩

theorem readMembers_cut {first : Bool} {members : List (String × Bytes)}
    {form : Bytes} (object : ObjectForm first members form)
    (each : ∀ member ∈ members,
      (∃ value, reader.Takes member.2 value) ∧ reader.RunsOut member.2)
    {front : Bytes} (cut : CutFrom front form) (sofar : KeyMap Value) :
    EndsEarly (readMembers reader first sofar front) := by
  induction object generalizing front sofar with
  | closed blank =>
      exact readMembers_early (readMember_closed_cut blank cut) sofar
  | @member first key separator name gap text after members separates spells
      blank later hypothesis =>
      rcases each _ List.mem_cons_self with ⟨⟨value, takes⟩, runs⟩
      have ends := later.ends []
      rw [List.append_nil] at ends
      rcases readMember_cut separates spells cut with
        early | ⟨left, member, cutValue⟩
      · exact readMembers_early early sofar
      · rcases readMemberValue_cut blank takes runs ends key cutValue with
          ⟨fault, read, truncated⟩ | ⟨short, read⟩ | ⟨rest, read, cutLater⟩
        · refine ⟨fault, ?_, truncated⟩
          rw [readMembers_eq, member]
          simp only [read]
        · rw [readMembers_keyed member read]
          exact readMembers_early readMember_nil _
        · rw [readMembers_keyed member read]
          exact hypothesis (fun other listed =>
            each other (List.mem_cons_of_mem _ listed)) cutLater _

theorem breaksOff_keyMap {members : List (String × Bytes)} {form : Bytes}
    (object : ObjectForm true members form)
    (each : ∀ member ∈ members,
      (∃ value, reader.Takes member.2 value) ∧ reader.RunsOut member.2) :
    reader.keyMap.BreaksOff (openObject :: form) := by
  intro front cut
  rcases cut.cons_cases with rfl | ⟨rest, rfl, later⟩
  · exact ⟨_, rfl, rfl⟩
  · exact readMembers_cut object each later ∅

end

/-! ## Records -/

namespace Record

variable {Draft Value : Type} {fields : List (Field Draft)}
  {draft filled : Draft}

theorem readFields_early {first : Bool} {text : Bytes}
    (early : EndsEarly (readMember first text)) :
    EndsEarly (readFields fields first draft text) := by
  rcases early with ⟨fault, read, truncated⟩
  exact ⟨fault, by rw [readFields_eq, read], truncated⟩

/-- The members of a record break off wherever they are cut off, as long as each
of them belongs to a field that breaks off or runs out. -/
theorem readFields_cut {first : Bool} {members : List (String × Bytes)}
    {form : Bytes} (object : ObjectForm first members form)
    (fills : Fills fields draft members filled)
    (each : ∀ member ∈ members, ∃ field,
      fields.find? (fun field => field.name = member.1) = some field ∧
        field.value.RunsOut member.2)
    {front : Bytes} (cut : CutFrom front form) :
    EndsEarly (readFields fields first draft front) := by
  induction object generalizing draft front with
  | closed blank => exact readFields_early (readMember_closed_cut blank cut)
  | @member first key separator name gap text after members separates spells
      blank later hypothesis =>
      have ends := later.ends []
      rw [List.append_nil] at ends
      rcases each _ List.mem_cons_self with ⟨field, found, runs⟩
      rcases readMember_cut separates spells cut with
        early | ⟨left, member, cutValue⟩
      · exact readFields_early early
      · cases fills with
        | unknown unwanted _ _ => cases unwanted.symm.trans found
        | @known other _ _ change _ _ _ wanted vacant takes fills =>
            cases wanted.symm.trans found
            -- A field that was vacant may be filled by less than its value,
            -- but then no member can follow.
            rcases readMemberValue_cut blank takes runs ends key cutValue with
              ⟨fault, read, truncated⟩ | ⟨short, read⟩ | ⟨rest, read, cutLater⟩
            · refine ⟨fault, ?_, truncated⟩
              rw [readFields_eq, member]
              simp [readField, wanted, vacant, read]
            · have filled : readField fields draft key left =
                  .ok (short draft, []) := by
                simp [readField, wanted, vacant, read]
              rw [readFields_keyed member filled]
              exact readFields_early readMember_nil
            · have filled : readField fields draft key left =
                  .ok (change draft, rest) := by
                simp [readField, wanted, vacant, read]
              rw [readFields_keyed member filled]
              exact hypothesis fills (fun other listed =>
                each other (List.mem_cons_of_mem _ listed)) cutLater

theorem breaksOff_object {record : Record Draft Value}
    {members : List (String × Bytes)} {form : Bytes}
    (object : ObjectForm true members form)
    (fills : Fills record.fields record.blank members filled)
    (each : ∀ member ∈ members, ∃ field,
      record.fields.find? (fun field => field.name = member.1) =
          some field ∧
        field.value.RunsOut member.2) :
    record.reader.BreaksOff (openObject :: form) := by
  intro front cut
  rcases cut.cons_cases with rfl | ⟨rest, rfl, later⟩
  · exact ⟨_, rfl, rfl⟩
  · rcases readFields_cut object fills each later with
      ⟨fault, read, truncated⟩
    refine ⟨fault, ?_, truncated⟩
    simp [reader, Record.read, skipBlanks, isBlank, openObject, openList,
      read]

end Record

/-! ## Enumerations -/

theorem Enumeration.breaksOff_word {Value : Type}
    (enumeration : Enumeration Value) {name : Bytes} {word : String}
    (spells : Spells name word) :
    enumeration.reader.BreaksOff (quote :: name) := by
  have solid : isBlank quote = false := by decide
  have other : quote ≠ openObject := by decide
  intro front cut
  rcases cut.cons_cases with rfl | ⟨rest, rfl, later⟩
  · exact ⟨_, rfl, rfl⟩
  · refine ⟨fault .endInString, ?_, rfl⟩
    simp [Enumeration.reader, Enumeration.read, Enumeration.readWordOf,
      skipBlanks_solid solid, other, spells.cut later]

end Workloads.Json
