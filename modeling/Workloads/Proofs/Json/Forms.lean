import Workloads.Json.Record
import Workloads.Proofs.Json.Digits
import Workloads.Proofs.Json.Strings

/-!
# Forms of values

The texts by which readers know a value: between the tokens of lists and objects
there may be white space, a string may be spelled in any way that is read as it,
and the members of an object may come in any order.  A record is known by its
members as long as each of them fills a field that is still vacant or is passed
over.  What is written is one of these forms, the one without white space.
-/

namespace Workloads.Json

/-! ## White space -/

/-- White space of any length. -/
def IsGap (gap : Bytes) : Prop :=
  ∀ octet ∈ gap, isBlank octet = true

instance (gap : Bytes) : Decidable (IsGap gap) :=
  decidable_of_iff (gap.all isBlank = true) List.all_eq_true

theorem isGap_nil : IsGap [] :=
  nofun

/-- Reading goes on behind white space. -/
theorem skipBlanks_gap {gap : Bytes} (blank : IsGap gap) {octet : UInt8}
    (solid : isBlank octet = false) (rest : Bytes) :
    skipBlanks (gap ++ octet :: rest) = octet :: rest := by
  induction gap with
  | nil => simp [skipBlanks, solid]
  | cons first gap hypothesis =>
      have here := blank first List.mem_cons_self
      rw [List.cons_append, skipBlanks, if_pos here]
      exact hypothesis fun other member =>
        blank other (List.mem_cons_of_mem _ member)

theorem skipBlanks_solid {octet : UInt8} (solid : isBlank octet = false)
    (later : Bytes) : skipBlanks (octet :: later) = octet :: later :=
  skipBlanks_gap isGap_nil solid later

/-- White space in front makes no difference to what is left after it. -/
theorem skipBlanks_append {gap : Bytes} (blank : IsGap gap) (rest : Bytes) :
    skipBlanks (gap ++ rest) = skipBlanks rest := by
  induction gap with
  | nil => rfl
  | cons first gap hypothesis =>
      have here := blank first List.mem_cons_self
      rw [List.cons_append, skipBlanks, if_pos here]
      exact hypothesis fun other member =>
        blank other (List.mem_cons_of_mem _ member)

/-- A text is white space and what is left after it. -/
theorem exists_gap (text : Bytes) :
    ∃ gap, IsGap gap ∧ text = gap ++ skipBlanks text := by
  induction text with
  | nil => exact ⟨[], isGap_nil, rfl⟩
  | cons octet text hypothesis =>
      rw [skipBlanks]
      split
      next here =>
        rcases hypothesis with ⟨gap, blank, split⟩
        refine ⟨octet :: gap, ?_, congrArg (octet :: ·) split⟩
        intro other member
        rcases List.mem_cons.mp member with rfl | later
        · exact here
        · exact blank other later
      next => exact ⟨[], isGap_nil, rfl⟩

theorem skipBlanks_idem (text : Bytes) :
    skipBlanks (skipBlanks text) = skipBlanks text := by
  rcases exists_gap text with ⟨gap, blank, split⟩
  conv_rhs => rw [split, skipBlanks_append blank]

/-- White space ends a value, and so does what follows white space if it does. -/
theorem ends_gap {gap : Bytes} (blank : IsGap gap) {rest : Bytes}
    (ends : Ends rest) : Ends (gap ++ rest) := by
  cases gap with
  | nil => exact ends
  | cons octet gap =>
      have here := blank octet List.mem_cons_self
      exact ends_cons (by simp [endsValue, here]) _

/-- What separates an item of a list or object from what is in front of it: a
comma unless it is the first one, and white space. -/
inductive Separates : Bool → Bytes → Prop where
  | opening {gap : Bytes} (blank : IsGap gap) : Separates true gap
  | between {gap later : Bytes} (blank : IsGap gap)
      (blankLater : IsGap later) :
      Separates false (gap ++ comma :: later)

/-! ## Values -/

/-- Whether a text behind an opening quote spells a key, with the closing quote
at its end. -/
def Spells (text : Bytes) (key : String) : Prop :=
  ∀ rest, readString (text ++ rest) = .ok (key, rest)

theorem spells_written (key : String) :
    Spells ((Bytes.ofText key).flatMap writeOctet ++ [quote]) key := by
  intro rest
  rw [List.append_assoc]
  exact readString_written key rest

section

variable {Value Other : Type} {reader : Reader Value} {text : Bytes}
  {value : Value}

/-- Whether a reader takes a text for a value wherever a value may end. -/
def Reader.Takes (reader : Reader Value) (text : Bytes) (value : Value) :
    Prop :=
  ∀ rest, Ends rest → reader.read (text ++ rest) = .ok (value, rest)

/-- Whether a text that nobody needs is passed over as one value, together with
the white space behind it. -/
def Passes (text : Bytes) : Prop :=
  ∀ rest, Ends rest → passValue (text ++ rest) = .ok (skipBlanks rest)

theorem Reader.Takes.readAll (takes : reader.Takes text value) :
    reader.readAll text = .ok value := by
  have whole := takes [] ends_nil
  rw [List.append_nil] at whole
  simp [Reader.readAll, whole, skipBlanks]

theorem Reader.Takes.map (takes : reader.Takes text value)
    (change : Value → Other) :
    (reader.map change).Takes text (change value) := by
  intro rest ends
  simp [Reader.map, takes rest ends]

theorem takes_spelled {name : Bytes} {key : String}
    (spells : Spells name key) : Reader.text.Takes (quote :: name) key := by
  have solid : isBlank quote = false := by decide
  intro rest _
  simp [Reader.text, readText, skipBlanks_solid solid, spells rest]

theorem takes_text (text : String) :
    Reader.text.Takes (writeText text) text :=
  takes_spelled (spells_written text)

/-- A digit is no white space and closes nothing. -/
theorem solid_of_isDigit :
    ∀ octet : UInt8, Bytes.isDigit octet = true →
      isBlank octet = false ∧ octet ≠ closeList :=
  Bytes.forall_octet (by decide +kernel)

theorem takes_integer {range : IntegerRange} {value : Nat}
    (fits : value < wordLimit) (low : range.low ≤ value)
    (high : (value : Int) ≤ range.high) :
    (Reader.integer range).Takes (writeNat value) value := by
  intro rest ends
  have number := readNumber_written fits ends
  rcases writeNat_eq_cons value with ⟨octet, digits, written, _⟩
  have digit := isDigit_of_mem_writeNat value octet (by simp [written])
  rw [written, List.cons_append] at number ⊢
  simp [Reader.integer, readInteger, skipBlanks, (solid_of_isDigit _ digit).1,
    digit, number, low, high]

theorem takes_port (port : UInt16) :
    Reader.port.Takes (writeNat port.toNat) port := by
  have below := port.toNat_lt
  have takes :
      (Reader.integer .unsigned16).Takes (writeNat port.toNat)
        port.toNat :=
    takes_integer (by simp [wordLimit]; omega)
      (by simp [IntegerRange.unsigned16])
      (by simp [IntegerRange.unsigned16]; omega)
  have same : UInt16.ofNat (port.toNat : Int).toNat = port := by simp
  have mapped := takes.map (fun value => UInt16.ofNat value.toNat)
  rw [same] at mapped
  exact mapped

theorem takes_null : reader.nullable.Takes writeNull none := by
  intro rest _
  rfl

/-- What is not null is left to the reader. -/
theorem Reader.Takes.nullable {octet : UInt8} {later : Bytes}
    (takes : reader.Takes (octet :: later) value)
    (solid : isBlank octet = false) (other : octet ≠ 110) :
    reader.nullable.Takes (octet :: later) (some value) := by
  intro rest ends
  have inner := takes rest ends
  rw [List.cons_append] at inner ⊢
  simp [Reader.nullable, readNullable, skipBlanks, solid, other, inner]

theorem takes_optional (value : Option String) :
    Reader.text.nullable.Takes (writeOptional value) value := by
  cases value with
  | none => exact takes_null
  | some text => exact (takes_text text).nullable rfl (by decide)

end

/-! ## Lists -/

/-- Whether a text begins in a way in which an element of a list can begin. -/
def Begins (text : Bytes) : Prop :=
  ∃ octet rest, text = octet :: rest ∧ isBlank octet = false ∧
    octet ≠ closeList

/-- The texts of a list behind its opening bracket, or behind one of its
elements, with the elements that are to come. -/
inductive ListForm : Bool → List Bytes → Bytes → Prop where
  | closed {first : Bool} {gap : Bytes} (blank : IsGap gap) :
      ListForm first [] (gap ++ [closeList])
  | item {first : Bool} {separator text after : Bytes} {texts : List Bytes}
      (separates : Separates first separator) (begins : Begins text)
      (later : ListForm false texts after) :
      ListForm first (text :: texts) (separator ++ (text ++ after))

theorem ListForm.ends {texts : List Bytes} {form : Bytes}
    (list : ListForm false texts form) (rest : Bytes) :
    Ends (form ++ rest) := by
  cases list with
  | closed blank =>
      rw [List.append_assoc]
      exact ends_gap blank (ends_cons rfl _)
  | item separates begins later =>
      cases separates with
      | between blank blankLater =>
          simp only [List.append_assoc, List.cons_append]
          exact ends_gap blank (ends_cons rfl _)

theorem nextElement_closed (first : Bool) {gap : Bytes} (blank : IsGap gap)
    (rest : Bytes) :
    nextElement first (gap ++ closeList :: rest) = .ok (.closed rest) := by
  simp [nextElement, skipBlanks_gap blank (by decide : isBlank closeList = false)]

theorem nextElement_item {first : Bool} {separator text : Bytes}
    (separates : Separates first separator) (begins : Begins text)
    (rest : Bytes) :
    nextElement first (separator ++ (text ++ rest)) =
      .ok (.item (text ++ rest)) := by
  rcases begins with ⟨octet, later, rfl, solid, other⟩
  cases separates with
  | opening blank =>
      simp [nextElement, skipBlanks_gap blank solid, other]
  | between blank blankLater =>
      have between : isBlank comma = false := by decide
      have open' : comma ≠ closeList := by decide
      simp [nextElement, skipBlanks_gap blank between,
        skipBlanks_gap blankLater solid, other, open']

section

variable {Value : Type} {reader : Reader Value}

/-- One element after the other, without the reason why this comes to an end. -/
theorem readElements_eq (first : Bool) (position : Nat)
    (reversed : List Value) (text : Bytes) :
    readElements reader first position reversed text =
      match nextElement first text with
      | .error problem => .error (fault problem)
      | .ok (.closed rest) => .ok (reversed.reverse, rest)
      | .ok (.item item) =>
        match reader.read item with
        | .error problem => .error (problem.within (.index position))
        | .ok (value, rest) =>
          readElements reader false (position + 1) (value :: reversed)
            rest := by
  rw [readElements]
  split
  next next => simp only [next]
  next next => simp only [next]
  next next =>
    simp only [next]
    split
    next read => simp only [read]
    next read => simp only [read]

theorem readElements_closed {first : Bool} {text rest : Bytes}
    (next : nextElement first text = .ok (.closed rest))
    (position : Nat) (reversed : List Value) :
    readElements reader first position reversed text =
      .ok (reversed.reverse, rest) := by
  rw [readElements_eq, next]

theorem readElements_item {first : Bool} {text item rest : Bytes}
    {value : Value}
    (next : nextElement first text = .ok (.item item))
    (read : reader.read item = .ok (value, rest))
    (position : Nat) (reversed : List Value) :
    readElements reader first position reversed text =
      readElements reader false (position + 1) (value :: reversed) rest := by
  rw [readElements_eq, next]
  simp only [read]

theorem readElements_form {first : Bool} {texts : List Bytes} {form : Bytes}
    (list : ListForm first texts form) {values : List Value}
    (takes : List.Forall₂ reader.Takes texts values)
    (position : Nat) (reversed : List Value) (rest : Bytes) :
    readElements reader first position reversed (form ++ rest) =
      .ok (reversed.reverse ++ values, rest) := by
  induction list generalizing values position reversed with
  | @closed first gap blank =>
      cases takes
      have closed := nextElement_closed first blank rest
      rw [List.append_assoc, List.append_nil]
      exact readElements_closed closed position reversed
  | @item first separator text after texts separates begins later
      hypothesis =>
      cases takes with
      | @cons _ value _ values here there =>
          rw [List.append_assoc, List.append_assoc,
            readElements_item (nextElement_item separates begins _)
              (here _ (later.ends rest)),
            hypothesis there, List.reverse_cons, List.append_assoc]
          rfl

/-- A list is read element by element. -/
theorem takes_list {texts : List Bytes} {form : Bytes}
    (list : ListForm true texts form) {values : List Value}
    (takes : List.Forall₂ reader.Takes texts values) :
    reader.list.Takes (openList :: form) values := by
  intro rest _
  exact readElements_form list takes 0 [] rest

end

/-! ## Objects -/

/-- The texts of an object behind its opening brace, or behind one of its
members, with the members that are to come. -/
inductive ObjectForm : Bool → List (String × Bytes) → Bytes → Prop where
  | closed {first : Bool} {gap : Bytes} (blank : IsGap gap) :
      ObjectForm first [] (gap ++ [closeObject])
  | member {first : Bool} {key : String}
      {separator name gap value after : Bytes}
      {members : List (String × Bytes)}
      (separates : Separates first separator) (spells : Spells name key)
      (blank : IsGap gap) (later : ObjectForm false members after) :
      ObjectForm first ((key, value) :: members)
        (separator ++ quote :: (name ++ (gap ++ colon :: (value ++ after))))

theorem ObjectForm.ends {members : List (String × Bytes)} {form : Bytes}
    (object : ObjectForm false members form) (rest : Bytes) :
    Ends (form ++ rest) := by
  cases object with
  | closed blank =>
      rw [List.append_assoc]
      exact ends_gap blank (ends_cons rfl _)
  | member separates spells blank later =>
      cases separates with
      | between blank blankLater =>
          rw [List.append_assoc, List.append_assoc]
          exact ends_gap blank (ends_cons rfl _)

theorem nextMember_closed (first : Bool) {gap : Bytes} (blank : IsGap gap)
    (rest : Bytes) :
    nextMember first (gap ++ closeObject :: rest) = .ok (.closed rest) := by
  simp [nextMember,
    skipBlanks_gap blank (by decide : isBlank closeObject = false)]

theorem nextMember_item {first : Bool} {separator : Bytes}
    (separates : Separates first separator) (rest : Bytes) :
    nextMember first (separator ++ quote :: rest) = .ok (.item rest) := by
  have solid : isBlank quote = false := by decide
  cases separates with
  | opening blank =>
      rw [nextMember, skipBlanks_gap blank solid]
      rfl
  | between blank blankLater =>
      have between : isBlank comma = false := by decide
      rw [List.append_assoc, List.cons_append, nextMember,
        skipBlanks_gap blank between]
      simp only [skipBlanks_gap blankLater solid]
      rfl

theorem readMember_keyed {first : Bool} {separator name : Bytes}
    {key : String} (separates : Separates first separator)
    (spells : Spells name key) (rest : Bytes) :
    readMember first (separator ++ quote :: (name ++ rest)) =
      .ok (.keyed key rest) := by
  simp only [readMember, nextMember_item separates, spells rest]

theorem readColon_gap {gap : Bytes} (blank : IsGap gap) (rest : Bytes) :
    readColon (gap ++ colon :: rest) = .ok rest := by
  simp [readColon, skipBlanks_gap blank (by decide : isBlank colon = false)]

section

variable {Value : Type} {reader : Reader Value} {text gap rest : Bytes}
  {value : Value}

theorem readMemberValue_gap (takes : reader.Takes text value)
    (blank : IsGap gap) (ends : Ends rest) (key : String) :
    readMemberValue reader key (gap ++ colon :: (text ++ rest)) =
      .ok (value, rest) := by
  simp only [readMemberValue, readColon_gap blank, takes rest ends]

/-- One member after the other, without the reason why this comes to an end. -/
theorem readMembers_eq (first : Bool) (sofar : KeyMap Value) (text : Bytes) :
    readMembers reader first sofar text =
      match readMember first text with
      | .error problem => .error problem
      | .ok (.closed rest) => .ok (sofar, rest)
      | .ok (.keyed key left) =>
        match readMemberValue reader key left with
        | .error problem => .error problem
        | .ok (value, rest) =>
          readMembers reader false (sofar.insert key value) rest := by
  rw [readMembers]
  split
  next member => simp only [member]
  next member => simp only [member]
  next member =>
    simp only [member]
    split
    next read => simp only [read]
    next read => simp only [read]

theorem readMembers_closed {first : Bool}
    (next : readMember first text = .ok (.closed rest))
    (sofar : KeyMap Value) :
    readMembers reader first sofar text = .ok (sofar, rest) := by
  rw [readMembers_eq, next]

theorem readMembers_keyed {first : Bool} {key : String} {left : Bytes}
    (next : readMember first text = .ok (.keyed key left))
    (read : readMemberValue reader key left = .ok (value, rest))
    (sofar : KeyMap Value) :
    readMembers reader first sofar text =
      readMembers reader false (sofar.insert key value) rest := by
  rw [readMembers_eq, next]
  simp only [read]

/-- Whether a reader takes a member for an entry of a map. -/
def Reader.TakesMember (reader : Reader Value) (member : String × Bytes)
    (entry : String × Value) : Prop :=
  member.1 = entry.1 ∧ reader.Takes member.2 entry.2

theorem readMembers_form {first : Bool} {members : List (String × Bytes)}
    {form : Bytes} (object : ObjectForm first members form)
    {entries : List (String × Value)}
    (takes : List.Forall₂ reader.TakesMember members entries)
    (sofar : KeyMap Value) (rest : Bytes) :
    readMembers reader first sofar (form ++ rest) =
      .ok
        (entries.foldl (fun map entry => map.insert entry.1 entry.2) sofar,
          rest) := by
  induction object generalizing entries sofar with
  | @closed first gap blank =>
      cases takes
      have closed : readMember first (gap ++ closeObject :: rest) =
          .ok (.closed rest) := by
        simp only [readMember, nextMember_closed first blank rest]
      rw [List.append_assoc]
      exact readMembers_closed closed sofar
  | @member first key separator name gap text after members separates spells
      blank later hypothesis =>
      cases takes with
      | @cons _ entry _ entries here there =>
          rcases here with ⟨rfl, takes⟩
          simp only [List.append_assoc, List.cons_append, List.foldl_cons]
          rw [readMembers_keyed (readMember_keyed separates spells _)
            (readMemberValue_gap takes blank (later.ends rest) _)]
          exact hypothesis there _

/-- An object of like values is read member by member; the last value of a key
counts. -/
theorem takes_keyMap {members : List (String × Bytes)} {form : Bytes}
    (object : ObjectForm true members form)
    {entries : List (String × Value)}
    (takes : List.Forall₂ reader.TakesMember members entries) :
    reader.keyMap.Takes (openObject :: form) (KeyMap.ofList entries) := by
  intro rest _
  exact readMembers_form object takes ∅ rest

end

/-! ## Records -/

namespace Record

variable {Draft Value : Type}

/-- How members change a draft: each fills a field that is vacant, or no field
wants it. -/
inductive Fills (fields : List (Field Draft)) :
    Draft → List (String × Bytes) → Draft → Prop where
  | done {draft : Draft} : Fills fields draft [] draft
  | known {field : Field Draft} {draft filled : Draft}
      {change : Draft → Draft} {key : String} {text : Bytes}
      {members : List (String × Bytes)}
      (wanted : fields.find? (fun field => field.name = key) = some field)
      (vacant : field.filled draft = false)
      (takes : field.value.Takes text change)
      (later : Fills fields (change draft) members filled) :
      Fills fields draft ((key, text) :: members) filled
  | unknown {draft filled : Draft} {key : String} {text : Bytes}
      {members : List (String × Bytes)}
      (unwanted : fields.find? (fun field => field.name = key) = none)
      (passes : Passes text)
      (later : Fills fields draft members filled) :
      Fills fields draft ((key, text) :: members) filled

section

variable {fields : List (Field Draft)} {draft filled : Draft}

/-- One member after the other, without the reason why this comes to an end. -/
theorem readFields_eq (first : Bool) (draft : Draft) (text : Bytes) :
    readFields fields first draft text =
      match readMember first text with
      | .error problem => .error problem
      | .ok (.closed rest) => .ok (draft, rest)
      | .ok (.keyed key left) =>
        match readField fields draft key left with
        | .error problem => .error problem
        | .ok (filled, rest) => readFields fields false filled rest := by
  rw [readFields]
  split
  next member => simp only [member]
  next member => simp only [member]
  next member =>
    simp only [member]
    split
    next read => simp only [read]
    next read => simp only [read]

theorem readFields_closed {first : Bool} {text rest : Bytes}
    (next : readMember first text = .ok (.closed rest)) :
    readFields fields first draft text = .ok (draft, rest) := by
  rw [readFields_eq, next]

theorem readFields_keyed {first : Bool} {key : String}
    {text left rest : Bytes}
    (next : readMember first text = .ok (.keyed key left))
    (read : readField fields draft key left = .ok (filled, rest)) :
    readFields fields first draft text =
      readFields fields false filled rest := by
  rw [readFields_eq, next]
  simp only [read]

/-- White space in front of a member makes no difference. -/
theorem readFields_skipBlanks (first : Bool) (text : Bytes) :
    readFields fields first draft (skipBlanks text) =
      readFields fields first draft text := by
  rw [readFields_eq, readFields_eq first draft text]
  simp only [readMember, nextMember, skipBlanks_idem]

theorem readFields_form {first : Bool} {members : List (String × Bytes)}
    {form : Bytes} (object : ObjectForm first members form)
    (fills : Fills fields draft members filled) (rest : Bytes) :
    readFields fields first draft (form ++ rest) = .ok (filled, rest) := by
  induction object generalizing draft with
  | @closed first gap blank =>
      cases fills
      have closed : readMember first (gap ++ closeObject :: rest) =
          .ok (.closed rest) := by
        simp only [readMember, nextMember_closed first blank rest]
      rw [List.append_assoc]
      exact readFields_closed closed
  | @member first key separator name gap text after members separates spells
      blank later hypothesis =>
      simp only [List.append_assoc, List.cons_append]
      have ends := later.ends rest
      cases fills with
      | @known field _ _ change _ _ _ wanted vacant takes fills =>
          have read :
              readField fields draft key
                  (gap ++ colon :: (text ++ (after ++ rest))) =
                .ok (change draft, after ++ rest) := by
            simp [readField, wanted, vacant,
              readMemberValue_gap takes blank ends]
          rw [readFields_keyed (readMember_keyed separates spells _) read]
          exact hypothesis fills
      | unknown unwanted passes fills =>
          have read :
              readField fields draft key
                  (gap ++ colon :: (text ++ (after ++ rest))) =
                .ok (draft, skipBlanks (after ++ rest)) := by
            simp [readField, unwanted, readColon_gap blank, passes _ ends]
          rw [readFields_keyed (readMember_keyed separates spells _) read,
            readFields_skipBlanks]
          exact hypothesis fills

end

/-- A record is read from any of its members' orders. -/
theorem takes_object {record : Record Draft Value}
    {members : List (String × Bytes)} {form : Bytes}
    (object : ObjectForm true members form) {filled : Draft}
    (fills : Fills record.fields record.blank members filled)
    {value : Value} (built : record.build filled = .ok value) :
    record.reader.Takes (openObject :: form) value := by
  intro rest _
  have read := readFields_form object fills rest
  simp [reader, Record.read, skipBlanks, isBlank, openObject, openList, read,
    built]

end Record

/-! ## Enumerations -/

theorem Enumeration.takes_word {Value : Type}
    {enumeration : Enumeration Value} {word : String} {value : Value}
    (names : enumeration.ofWord word = .ok value) :
    enumeration.reader.Takes (writeText word) value := by
  intro rest _
  have string := readString_written word rest
  simp [Enumeration.reader, Enumeration.read, Enumeration.readWordOf,
    writeText, skipBlanks, isBlank, quote, openObject] at string ⊢
  simp [string, names]

/-! ## The written forms -/

theorem separated_cons (item : Bytes) (rest : List Bytes) :
    separated (item :: rest) = item ++ rest.flatMap (comma :: ·) := by
  induction rest generalizing item with
  | nil => simp [separated]
  | cons next rest hypothesis => simp [separated, hypothesis]

theorem separates_comma : Separates false [comma] :=
  .between isGap_nil isGap_nil

theorem listForm_written {texts : List Bytes}
    (begins : ∀ text ∈ texts, Begins text) :
    ListForm true texts (separated texts ++ [closeList]) := by
  have later {texts : List Bytes} (begins : ∀ text ∈ texts, Begins text) :
      ListForm false texts (texts.flatMap (comma :: ·) ++ [closeList]) := by
    induction texts with
    | nil => exact .closed isGap_nil
    | cons text texts hypothesis =>
        have rest := hypothesis fun other member =>
          begins other (List.mem_cons_of_mem _ member)
        have form :=
          ListForm.item separates_comma (begins text List.mem_cons_self) rest
        simpa using form
  cases texts with
  | nil => exact .closed isGap_nil
  | cons text texts =>
      have rest := later fun other member =>
        begins other (List.mem_cons_of_mem _ member)
      have form :=
        ListForm.item (.opening isGap_nil) (begins text List.mem_cons_self)
          rest
      simpa [separated_cons] using form

theorem objectForm_written (members : List (String × Bytes)) :
    ObjectForm true members
      (separated (members.map writeMember) ++ [closeObject]) := by
  have later (members : List (String × Bytes)) :
      ObjectForm false members
        ((members.map writeMember).flatMap (comma :: ·) ++
          [closeObject]) := by
    induction members with
    | nil => exact .closed isGap_nil
    | cons member members hypothesis =>
        have form : ObjectForm false (member :: members) _ :=
          .member separates_comma (spells_written member.1) isGap_nil
            hypothesis
        simpa [writeMember, writeText] using form
  cases members with
  | nil => exact .closed isGap_nil
  | cons member members =>
      have form : ObjectForm true (member :: members) _ :=
        .member (.opening isGap_nil) (spells_written member.1) isGap_nil
          (later members)
      simpa [separated_cons, writeMember, writeText] using form

end Workloads.Json
