import Workloads.Json.Reader

/-!
# Records and enumerations

A record is written as an object with a member per field, in any order and
with unknown members in between, or as a list of its fields in their declared
order.  Reading fills a draft field by field; the draft becomes a value when
everything required is there.
-/

namespace Workloads.Json

/-- A field of a record: how its value changes a draft, and whether a list
may end before it. -/
structure Field (Draft : Type) where
  name : String
  mayBeLeftOut : Bool := false
  filled : Draft → Bool
  value : Reader (Draft → Draft)

/-- The shape of a record. -/
structure Record (Draft Value : Type) where
  name : String
  blank : Draft
  fields : List (Field Draft)
  build : Draft → Except Problem Value

namespace Record

variable {Draft Value : Type}

/-! ## Objects -/

/-- Reads one member into a draft: a known key once, an unknown one to no
effect. -/
def readField (fields : List (Field Draft)) (draft : Draft)
    (key : String) (text : Bytes) : Except Fault (Draft × Bytes) :=
  match fields.find? (fun field => field.name = key) with
  | some field =>
    if field.filled draft then .error (fault (.duplicateField key))
    else
      match readMemberValue field.value key text with
      | .error problem => .error problem
      | .ok (change, rest) => .ok (change draft, rest)
  | none =>
    match readColon text with
    | .error problem => .error (fault problem)
    | .ok rest =>
      match passValue rest with
      | .error problem => .error ((fault problem).within (.key key))
      | .ok rest => .ok (draft, rest)

theorem readField_length_lt
    {fields : List (Field Draft)} {draft filled : Draft}
    {key : String} {text rest : Bytes}
    (reads : readField fields draft key text = .ok (filled, rest)) :
    rest.length < text.length := by
  unfold readField at reads
  split at reads
  · split at reads
    · simp at reads
    · split at reads
      · simp at reads
      next value =>
        cases reads
        exact readMemberValue_length_lt value
  · split at reads
    · simp at reads
    next left equation =>
      split at reads
      · simp at reads
      next passed =>
        cases reads
        have first := readColon_length_lt equation
        have second := passFrom_length_le passed
        omega

/-- Reads the members of a record into a draft. -/
def readFields (fields : List (Field Draft)) (first : Bool)
    (draft : Draft) (text : Bytes) : Except Fault (Draft × Bytes) :=
  match _member : readMember first text with
  | .error problem => .error problem
  | .ok (.closed rest) => .ok (draft, rest)
  | .ok (.keyed key left) =>
    match _read : readField fields draft key left with
    | .error problem => .error problem
    | .ok (filled, rest) => readFields fields false filled rest
termination_by text.length
decreasing_by
  exact Nat.lt_trans (readField_length_lt _read)
    (readMember_keyed_length_lt _member)

theorem readFields_length_lt
    {fields : List (Field Draft)} {first : Bool}
    {draft filled : Draft} {text rest : Bytes}
    (reads :
      readFields fields first draft text = .ok (filled, rest)) :
    rest.length < text.length := by
  fun_induction readFields fields first draft text with
  | case1 => simp at reads
  | case2 first draft text left member =>
    cases reads
    exact readMember_closed_length_lt member
  | case3 => simp at reads
  | case4 first draft text key left member next later read hypothesis =>
    have first := readMember_keyed_length_lt member
    have second := readField_length_lt read
    have third := hypothesis reads
    omega

/-! ## Lists -/

/-- Reads the end of a list in which no element is due. -/
def readListEnd (text : Bytes) : Except Problem Bytes :=
  match skipBlanks text with
  | [] => .error .endInList
  | octet :: rest =>
    if octet = closeList then .ok rest
    else if octet = comma then
      match skipBlanks rest with
      | [] => .error .trailingCharacters
      | next :: _ =>
        if next = closeList then .error .trailingComma
        else .error .trailingCharacters
    else
      .error .trailingCharacters

theorem readListEnd_length_lt
    {text rest : Bytes} (reads : readListEnd text = .ok rest) :
    rest.length < text.length := by
  have blanks := skipBlanks_length_le text
  unfold readListEnd at reads
  split at reads
  · simp at reads
  next octet left equation =>
    simp only [equation, List.length_cons] at blanks
    split at reads
    · cases reads
      omega
    · split at reads
      · split at reads
        · simp at reads
        · split at reads <;> simp at reads
      · simp at reads

/-- The wording for a record of so many fields. -/
def sized (record : Record Draft Value) : String :=
  "struct " ++ record.name ++ " with " ++
    toString record.fields.length ++
    (if record.fields.length = 1 then " element" else " elements")

/-- Reads fields in their declared order from a position on.  A list may end
before the fields that may be left out. -/
def readInOrder (wanted : String) (position : Nat) (first : Bool)
    (draft : Draft) : List (Field Draft) → Bytes →
    Except Fault (Draft × Bytes)
  | [], text =>
    match readListEnd text with
    | .error problem => .error (fault problem)
    | .ok rest => .ok (draft, rest)
  | field :: later, text =>
    match nextElement first text with
    | .error problem => .error (fault problem)
    | .ok (.closed _) =>
      if field.mayBeLeftOut then
        readInOrder wanted (position + 1) first draft later text
      else
        .error (fault (.wrongLength position wanted))
    | .ok (.item item) =>
      match field.value.read item with
      | .error problem => .error (problem.within (.index position))
      | .ok (change, rest) =>
        readInOrder wanted (position + 1) false (change draft) later rest

theorem readInOrder_length_lt
    {wanted : String} {position : Nat} {first : Bool}
    {draft filled : Draft} {fields : List (Field Draft)}
    {text rest : Bytes}
    (reads :
      readInOrder wanted position first draft fields text =
        .ok (filled, rest)) :
    rest.length < text.length := by
  induction fields generalizing position first draft text with
  | nil =>
    simp only [readInOrder] at reads
    split at reads
    · simp at reads
    next ended =>
      cases reads
      exact readListEnd_length_lt ended
  | cons field later hypothesis =>
    simp only [readInOrder] at reads
    split at reads
    · simp at reads
    · split at reads
      · exact hypothesis reads
      · simp at reads
    next item next =>
      split at reads
      · simp at reads
      next value =>
        have first := nextElement_item_length_le next
        have second := field.value.consumes value
        have third := hypothesis reads
        omega

/-! ## Either form -/

/-- Reads a record in either form. -/
def read (record : Record Draft Value) (text : Bytes) :
    Except Fault (Value × Bytes) :=
  let finish (outcome : Except Fault (Draft × Bytes)) :
      Except Fault (Value × Bytes) :=
    match outcome with
    | .error problem => .error problem
    | .ok (draft, rest) =>
      match record.build draft with
      | .error problem => .error (fault problem)
      | .ok value => .ok (value, rest)
  match skipBlanks text with
  | [] => .error (fault .endInValue)
  | octet :: rest =>
    if octet = openList then
      finish
        (readInOrder record.sized 0 true record.blank record.fields rest)
    else if octet = openObject then
      finish (readFields record.fields true record.blank rest)
    else
      .error
        (fault (mismatch ("struct " ++ record.name) (octet :: rest)))

theorem read_length_lt
    {record : Record Draft Value} {text rest : Bytes} {value : Value}
    (reads : record.read text = .ok (value, rest)) :
    rest.length < text.length := by
  have blanks := skipBlanks_length_le text
  unfold read at reads
  dsimp only at reads
  split at reads
  · simp at reads
  next octet left equation =>
    simp only [equation, List.length_cons] at blanks
    split at reads
    · split at reads
      · simp at reads
      next list =>
        split at reads
        · simp at reads
        · cases reads
          have shorter := readInOrder_length_lt list
          omega
    · split at reads
      · split at reads
        · simp at reads
        next object =>
          split at reads
          · simp at reads
          · cases reads
            have shorter := readFields_length_lt object
            omega
      · simp at reads

/-- The reader of a record. -/
def reader (record : Record Draft Value) : Reader Value where
  read := record.read
  consumes := read_length_lt

end Record

/-! ## Enumerations -/

/-- A choice among named values without contents. -/
structure Enumeration (Value : Type) where
  values : List Value
  word : Value → String

namespace Enumeration

variable {Value : Type}

/-- The value that a word names. -/
def ofWord (enumeration : Enumeration Value) (text : String) :
    Except Problem Value :=
  match
    enumeration.values.find?
      (fun value => enumeration.word value = text) with
  | some value => .ok value
  | none =>
    .error (.unknownVariant text (enumeration.values.map enumeration.word))

/-- Reads the word that names a value behind the opening quote. -/
def readWordOf (enumeration : Enumeration Value) (text : Bytes) :
    Except Problem (Value × Bytes) :=
  match readString text with
  | .error problem => .error problem
  | .ok (word, rest) =>
    match enumeration.ofWord word with
    | .error problem => .error problem
    | .ok value => .ok (value, rest)

theorem readWordOf_length_lt
    {enumeration : Enumeration Value} {text rest : Bytes} {value : Value}
    (reads : enumeration.readWordOf text = .ok (value, rest)) :
    rest.length < text.length := by
  unfold readWordOf at reads
  split at reads
  · simp at reads
  next string =>
    split at reads
    · simp at reads
    · cases reads
      exact readString_length_lt string

/-- Reads what follows the word of an object whose only member is named by a
value and holds null. -/
def readHeld (value : Value) (text : Bytes) :
    Except Fault (Value × Bytes) :=
  match readColon text with
  | .error problem => .error (fault problem)
  | .ok rest =>
    match readUnit rest with
    | .error problem => .error problem
    | .ok (_, rest) =>
      match skipBlanks rest with
      | [] => .error (fault .endInObject)
      | octet :: rest =>
        if octet = closeObject then .ok (value, rest)
        else .error (fault .expectedValue)

theorem readHeld_length_lt
    {text rest : Bytes} {value found : Value}
    (reads : readHeld value text = .ok (found, rest)) :
    rest.length < text.length := by
  unfold readHeld at reads
  split at reads
  · simp at reads
  next afterColon separated =>
    split at reads
    · simp at reads
    next afterUnit unit =>
      have blanks := skipBlanks_length_le afterUnit
      split at reads
      · simp at reads
      next octet left equation =>
        simp only [equation, List.length_cons] at blanks
        split at reads
        · cases reads
          have second := readColon_length_lt separated
          have third := readUnit_length_lt unit
          omega
        · simp at reads

/-- Reads the rest of an object whose only member is named by a value. -/
def readTagged (enumeration : Enumeration Value) (text : Bytes) :
    Except Fault (Value × Bytes) :=
  match skipBlanks text with
  | [] => .error (fault .endInObject)
  | octet :: rest =>
    if octet = quote then
      match enumeration.readWordOf rest with
      | .error problem => .error (fault problem)
      | .ok (value, rest) => readHeld value rest
    else if octet = closeObject then .error (fault .expectedValue)
    else .error (fault .keyNotString)

theorem readTagged_length_lt
    {enumeration : Enumeration Value} {text rest : Bytes} {value : Value}
    (reads : enumeration.readTagged text = .ok (value, rest)) :
    rest.length < text.length := by
  have blanks := skipBlanks_length_le text
  unfold readTagged at reads
  split at reads
  · simp at reads
  next octet left equation =>
    simp only [equation, List.length_cons] at blanks
    split at reads
    · split at reads
      · simp at reads
      next word =>
        have first := readWordOf_length_lt word
        have second := readHeld_length_lt reads
        omega
    · split at reads <;> simp at reads

/-- Reads a value by its word, alone or as the key of an object. -/
def read (enumeration : Enumeration Value) (text : Bytes) :
    Except Fault (Value × Bytes) :=
  match skipBlanks text with
  | [] => .error (fault .endInValue)
  | octet :: rest =>
    if octet = openObject then enumeration.readTagged rest
    else if octet = quote then
      match enumeration.readWordOf rest with
      | .error problem => .error (fault problem)
      | .ok found => .ok found
    else
      .error (fault .expectedValue)

theorem read_length_lt
    {enumeration : Enumeration Value} {text rest : Bytes} {value : Value}
    (reads : enumeration.read text = .ok (value, rest)) :
    rest.length < text.length := by
  have blanks := skipBlanks_length_le text
  unfold read at reads
  split at reads
  · simp at reads
  next octet left equation =>
    simp only [equation, List.length_cons] at blanks
    split at reads
    · have shorter := readTagged_length_lt reads
      omega
    · split at reads
      · split at reads
        · simp at reads
        next word =>
          cases reads
          have shorter := readWordOf_length_lt word
          omega
      · simp at reads

/-- The reader of an enumeration. -/
def reader (enumeration : Enumeration Value) : Reader Value where
  read := enumeration.read
  consumes := read_length_lt

end Enumeration

end Workloads.Json
