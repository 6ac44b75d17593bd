import Workloads.KeyMap
import Workloads.Json.Skip

/-!
# Readers

A reader takes one value off the front of a text and tells what is left, or
where and why it gives up.  What is left is always shorter than the text, so
reading the elements of a list or the members of an object comes to an end.
-/

namespace Workloads.Json

/-- A reader of values from the front of a text. -/
structure Reader (Value : Type) where
  read : Bytes → Except Fault (Value × Bytes)
  consumes :
    ∀ {text value rest},
      read text = .ok (value, rest) → rest.length < text.length

/-- A problem at the value being read. -/
def fault (problem : Problem) : Fault :=
  { problem := problem }

/-! ## Values of the wrong type -/

/-- What the value at the front of a text is. -/
def findKind : Bytes → Except Problem Found
  | [] => .error .expectedValue
  | octet :: rest =>
    if octet = 110 then
      (readWord restOfNull rest).map (fun _ => .null)
    else if octet = 116 then
      (readWord restOfTrue rest).map (fun _ => .boolean true)
    else if octet = 102 then
      (readWord restOfFalse rest).map (fun _ => .boolean false)
    else if octet = minus || Bytes.isDigit octet then
      (readNumber (octet :: rest)).map (fun read => read.1.found)
    else if octet = quote then
      (readString rest).map (fun read => .string read.1)
    else if octet = openList then .ok .sequence
    else if octet = openObject then .ok .map
    else .error .expectedValue

/-- The problem of a value that is not of the wanted type. -/
def mismatch (wanted : String) (text : Bytes) : Problem :=
  match findKind text with
  | .error problem => problem
  | .ok found => .wrongType found wanted

/-! ## Scalars -/

/-- Reads a string. -/
def readText (text : Bytes) : Except Fault (String × Bytes) :=
  match skipBlanks text with
  | [] => .error (fault .endInValue)
  | octet :: rest =>
    if octet = quote then
      match readString rest with
      | .error problem => .error (fault problem)
      | .ok (value, rest) => .ok (value, rest)
    else
      .error (fault (mismatch "a string" (octet :: rest)))

theorem readText_length_lt
    {text rest : Bytes} {value : String}
    (reads : readText text = .ok (value, rest)) :
    rest.length < text.length := by
  have blanks := skipBlanks_length_le text
  unfold readText at reads
  split at reads
  · simp at reads
  next octet left equation =>
    simp only [equation, List.length_cons] at blanks
    split at reads
    · split at reads
      · simp at reads
      next string =>
        cases reads
        have shorter := readString_length_lt string
        omega
    · simp at reads

/-- The reader of strings. -/
def Reader.text : Reader String where
  read := readText
  consumes := readText_length_lt

/-- A range of integers and its name in messages. -/
structure IntegerRange where
  name : String
  low : Int
  high : Int

/-- Reads an integer of a range. -/
def readInteger (range : IntegerRange) (text : Bytes) :
    Except Fault (Int × Bytes) :=
  match skipBlanks text with
  | [] => .error (fault .endInValue)
  | octet :: rest =>
    if octet = minus || Bytes.isDigit octet then
      match readNumber (octet :: rest) with
      | .error problem => .error (fault problem)
      | .ok (.floating negative magnitude, _) =>
        .error (fault
          (.wrongType (.floating negative magnitude) range.name))
      | .ok (.integer value, rest) =>
        if range.low ≤ value ∧ value ≤ range.high then .ok (value, rest)
        else .error (fault (.wrongNumber value range.name))
    else
      .error (fault (mismatch range.name (octet :: rest)))

theorem readInteger_length_lt
    {range : IntegerRange} {text rest : Bytes} {value : Int}
    (reads : readInteger range text = .ok (value, rest)) :
    rest.length < text.length := by
  have blanks := skipBlanks_length_le text
  unfold readInteger at reads
  split at reads
  · simp at reads
  next octet left equation =>
    simp only [equation, List.length_cons] at blanks
    split at reads
    · split at reads
      · simp at reads
      · simp at reads
      next number =>
        split at reads
        · cases reads
          have shorter := readNumber_length_lt number
          simp only [List.length_cons] at shorter
          omega
        · simp at reads
    · simp at reads

/-- Applies a function to what a reader reads. -/
def Reader.map {Value Other : Type} (reader : Reader Value)
    (change : Value → Other) : Reader Other where
  read text :=
    match reader.read text with
    | .error problem => .error problem
    | .ok (value, rest) => .ok (change value, rest)
  consumes := by
    intro text value rest reads
    split at reads
    · simp at reads
    next read =>
      cases reads
      exact reader.consumes read

/-- The reader of the integers of a range. -/
def Reader.integer (range : IntegerRange) : Reader Int where
  read := readInteger range
  consumes := readInteger_length_lt

/-- Unsigned integers of sixteen bits. -/
def IntegerRange.unsigned16 : IntegerRange where
  name := "u16"
  low := 0
  high := 0xFFFF

/-- Unsigned integers of sixty-four bits. -/
def IntegerRange.unsigned64 : IntegerRange where
  name := "u64"
  low := 0
  high := 0xFFFFFFFFFFFFFFFF

/-- Signed integers of sixty-four bits. -/
def IntegerRange.signed64 : IntegerRange where
  name := "i64"
  low := -0x8000000000000000
  high := 0x7FFFFFFFFFFFFFFF

/-- The reader of port numbers. -/
def Reader.port : Reader UInt16 :=
  (integer .unsigned16).map (fun value => UInt16.ofNat value.toNat)

/-- The reader of unsigned words. -/
def Reader.word : Reader Nat :=
  (integer .unsigned64).map Int.toNat

/-- Reads null. -/
def readUnit (text : Bytes) : Except Fault (Unit × Bytes) :=
  match skipBlanks text with
  | [] => .error (fault .endInValue)
  | octet :: rest =>
    if octet = 110 then
      match readWord restOfNull rest with
      | .error problem => .error (fault problem)
      | .ok rest => .ok ((), rest)
    else
      .error (fault (mismatch "unit" (octet :: rest)))

theorem readUnit_length_lt
    {text rest : Bytes} {value : Unit}
    (reads : readUnit text = .ok (value, rest)) :
    rest.length < text.length := by
  have blanks := skipBlanks_length_le text
  unfold readUnit at reads
  split at reads
  · simp at reads
  next octet left equation =>
    simp only [equation, List.length_cons] at blanks
    split at reads
    · split at reads
      · simp at reads
      next word =>
        cases reads
        have shorter := readWord_length_le word
        omega
    · simp at reads

/-- Reads null as nothing and anything else as the given reader does. -/
def readNullable {Value : Type} (reader : Reader Value) (text : Bytes) :
    Except Fault (Option Value × Bytes) :=
  match skipBlanks text with
  | [] => .error (fault .endInValue)
  | octet :: rest =>
    if octet = 110 then
      match readWord restOfNull rest with
      | .error problem => .error (fault problem)
      | .ok rest => .ok (none, rest)
    else
      match reader.read (octet :: rest) with
      | .error problem => .error problem
      | .ok (value, rest) => .ok (some value, rest)

theorem readNullable_length_lt
    {Value : Type} {reader : Reader Value}
    {text rest : Bytes} {value : Option Value}
    (reads : readNullable reader text = .ok (value, rest)) :
    rest.length < text.length := by
  have blanks := skipBlanks_length_le text
  unfold readNullable at reads
  split at reads
  · simp at reads
  next octet left equation =>
    simp only [equation, List.length_cons] at blanks
    split at reads
    · split at reads
      · simp at reads
      next word =>
        cases reads
        have shorter := readWord_length_le word
        omega
    · split at reads
      · simp at reads
      next inner =>
        cases reads
        have shorter := reader.consumes inner
        simp only [List.length_cons] at shorter
        omega

/-- The reader of values that may be null. -/
def Reader.nullable {Value : Type} (reader : Reader Value) :
    Reader (Option Value) where
  read := readNullable reader
  consumes := readNullable_length_lt

/-! ## Lists -/

/-- What comes next in a list or object: its end, or an item. -/
inductive Following where
  | closed (rest : Bytes)
  | item (text : Bytes)

/-- What comes next in a list; before its first element no comma is due. -/
def nextElement (first : Bool) (text : Bytes) :
    Except Problem Following :=
  match skipBlanks text with
  | [] => .error .endInList
  | octet :: rest =>
    if octet = closeList then .ok (.closed rest)
    else if first then .ok (.item (octet :: rest))
    else if octet = comma then
      match skipBlanks rest with
      | [] => .error .endInValue
      | next :: left =>
        if next = closeList then .error .trailingComma
        else .ok (.item (next :: left))
    else
      .error .expectedListCommaOrEnd

theorem nextElement_closed_length_lt
    {first : Bool} {text rest : Bytes}
    (follows : nextElement first text = .ok (.closed rest)) :
    rest.length < text.length := by
  have blanks := skipBlanks_length_le text
  unfold nextElement at follows
  split at follows
  · simp at follows
  next octet left equation =>
    simp only [equation, List.length_cons] at blanks
    split at follows
    · cases follows
      omega
    · split at follows
      · simp at follows
      · split at follows
        · split at follows
          · simp at follows
          · split at follows <;> simp at follows
        · simp at follows

theorem nextElement_item_length_le
    {first : Bool} {text rest : Bytes}
    (follows : nextElement first text = .ok (.item rest)) :
    rest.length ≤ text.length := by
  have blanks := skipBlanks_length_le text
  unfold nextElement at follows
  split at follows
  · simp at follows
  next octet left equation =>
    simp only [equation, List.length_cons] at blanks
    split at follows
    · simp at follows
    · split at follows
      · cases follows
        simpa using blanks
      · split at follows
        · have inner := skipBlanks_length_le left
          split at follows
          · simp at follows
          next next later second =>
            simp only [second, List.length_cons] at inner
            split at follows
            · simp at follows
            · cases follows
              simp only [List.length_cons]
              omega
        · simp at follows

/-- Reads the elements of a list from a position on, with those before it in
reverse. -/
def readElements {Value : Type} (reader : Reader Value)
    (first : Bool) (position : Nat) (reversed : List Value)
    (text : Bytes) : Except Fault (List Value × Bytes) :=
  match _next : nextElement first text with
  | .error problem => .error (fault problem)
  | .ok (.closed rest) => .ok (reversed.reverse, rest)
  | .ok (.item item) =>
    match _read : reader.read item with
    | .error problem => .error (problem.within (.index position))
    | .ok (value, rest) =>
      readElements reader false (position + 1) (value :: reversed) rest
termination_by text.length
decreasing_by
  exact Nat.lt_of_lt_of_le (reader.consumes _read)
    (nextElement_item_length_le _next)

theorem readElements_length_lt
    {Value : Type} {reader : Reader Value}
    {first : Bool} {position : Nat} {reversed values : List Value}
    {text rest : Bytes}
    (reads :
      readElements reader first position reversed text =
        .ok (values, rest)) :
    rest.length < text.length := by
  fun_induction readElements reader first position reversed text with
  | case1 => simp at reads
  | case2 first position reversed text left next =>
    cases reads
    exact nextElement_closed_length_lt next
  | case3 => simp at reads
  | case4 first position reversed text item next value left read
      hypothesis =>
    have first := nextElement_item_length_le next
    have second := reader.consumes read
    have third := hypothesis reads
    omega

/-- Reads a list. -/
def readList {Value : Type} (reader : Reader Value) (text : Bytes) :
    Except Fault (List Value × Bytes) :=
  match skipBlanks text with
  | [] => .error (fault .endInValue)
  | octet :: rest =>
    if octet = openList then readElements reader true 0 [] rest
    else .error (fault (mismatch "a sequence" (octet :: rest)))

theorem readList_length_lt
    {Value : Type} {reader : Reader Value}
    {text rest : Bytes} {values : List Value}
    (reads : readList reader text = .ok (values, rest)) :
    rest.length < text.length := by
  have blanks := skipBlanks_length_le text
  unfold readList at reads
  split at reads
  · simp at reads
  next octet left equation =>
    simp only [equation, List.length_cons] at blanks
    split at reads
    · have shorter := readElements_length_lt reads
      omega
    · simp at reads

/-- The reader of lists. -/
def Reader.list {Value : Type} (reader : Reader Value) :
    Reader (List Value) where
  read := readList reader
  consumes := readList_length_lt

/-! ## Objects -/

/-- What comes next in an object; the text of an item begins after the opening
quote of its key. -/
def nextMember (first : Bool) (text : Bytes) : Except Problem Following :=
  match skipBlanks text with
  | [] => .error .endInObject
  | octet :: rest =>
    if octet = closeObject then .ok (.closed rest)
    else if first then
      if octet = quote then .ok (.item rest) else .error .keyNotString
    else if octet = comma then
      match skipBlanks rest with
      | [] => .error .endInValue
      | next :: left =>
        if next = quote then .ok (.item left)
        else if next = closeObject then .error .trailingComma
        else .error .keyNotString
    else
      .error .expectedObjectCommaOrEnd

theorem nextMember_closed_length_lt
    {first : Bool} {text rest : Bytes}
    (follows : nextMember first text = .ok (.closed rest)) :
    rest.length < text.length := by
  have blanks := skipBlanks_length_le text
  unfold nextMember at follows
  split at follows
  · simp at follows
  next octet left equation =>
    simp only [equation, List.length_cons] at blanks
    split at follows
    · cases follows
      omega
    · split at follows
      · split at follows <;> simp at follows
      · split at follows
        · split at follows
          · simp at follows
          · split at follows
            · simp at follows
            · split at follows <;> simp at follows
        · simp at follows

theorem nextMember_item_length_lt
    {first : Bool} {text rest : Bytes}
    (follows : nextMember first text = .ok (.item rest)) :
    rest.length < text.length := by
  have blanks := skipBlanks_length_le text
  unfold nextMember at follows
  split at follows
  · simp at follows
  next octet left equation =>
    simp only [equation, List.length_cons] at blanks
    split at follows
    · simp at follows
    · split at follows
      · split at follows
        · cases follows
          omega
        · simp at follows
      · split at follows
        · have inner := skipBlanks_length_le left
          split at follows
          · simp at follows
          next next later second =>
            simp only [second, List.length_cons] at inner
            split at follows
            · cases follows
              omega
            · split at follows <;> simp at follows
        · simp at follows

/-- A key and the text of its value, or the problem of a missing colon. -/
def readColon (text : Bytes) : Except Problem Bytes :=
  match skipBlanks text with
  | [] => .error .endInObject
  | octet :: rest =>
    if octet = colon then .ok rest else .error .expectedColon

theorem readColon_length_lt
    {text rest : Bytes} (reads : readColon text = .ok rest) :
    rest.length < text.length := by
  have blanks := skipBlanks_length_le text
  unfold readColon at reads
  split at reads
  · simp at reads
  next octet left equation =>
    simp only [equation, List.length_cons] at blanks
    split at reads
    · cases reads
      omega
    · simp at reads

/-- The next member of an object: nothing more, or a key and the text from the
colon on. -/
inductive Member where
  | closed (rest : Bytes)
  | keyed (key : String) (text : Bytes)

/-- Reads the key of the next member.  A key that cannot be read has no
place of its own. -/
def readMember (first : Bool) (text : Bytes) : Except Fault Member :=
  match nextMember first text with
  | .error problem => .error ((fault problem).within .unreadable)
  | .ok (.closed rest) => .ok (.closed rest)
  | .ok (.item item) =>
    match readString item with
    | .error problem => .error ((fault problem).within .unreadable)
    | .ok (key, rest) => .ok (.keyed key rest)

theorem readMember_closed_length_lt
    {first : Bool} {text rest : Bytes}
    (reads : readMember first text = .ok (.closed rest)) :
    rest.length < text.length := by
  unfold readMember at reads
  split at reads
  · simp at reads
  next next =>
    cases reads
    exact nextMember_closed_length_lt next
  · split at reads <;> simp at reads

theorem readMember_keyed_length_lt
    {first : Bool} {text rest : Bytes} {key : String}
    (reads : readMember first text = .ok (.keyed key rest)) :
    rest.length < text.length := by
  unfold readMember at reads
  split at reads
  · simp at reads
  · simp at reads
  next item next =>
    split at reads
    · simp at reads
    next string =>
      cases reads
      have first := nextMember_item_length_lt next
      have second := readString_length_lt string
      omega

/-- Reads the value of a member from the colon on. -/
def readMemberValue {Value : Type} (reader : Reader Value)
    (key : String) (text : Bytes) : Except Fault (Value × Bytes) :=
  match readColon text with
  | .error problem => .error (fault problem)
  | .ok rest =>
    match reader.read rest with
    | .error problem => .error (problem.within (.key key))
    | .ok (value, rest) => .ok (value, rest)

theorem readMemberValue_length_lt
    {Value : Type} {reader : Reader Value} {key : String}
    {text rest : Bytes} {value : Value}
    (reads : readMemberValue reader key text = .ok (value, rest)) :
    rest.length < text.length := by
  unfold readMemberValue at reads
  split at reads
  · simp at reads
  next left equation =>
    split at reads
    · simp at reads
    next inner =>
      cases reads
      have first := readColon_length_lt equation
      have second := reader.consumes inner
      omega

/-- Reads the members of an object of like values; the last value of a key
counts. -/
def readMembers {Value : Type} (reader : Reader Value)
    (first : Bool) (sofar : KeyMap Value) (text : Bytes) :
    Except Fault (KeyMap Value × Bytes) :=
  match _member : readMember first text with
  | .error problem => .error problem
  | .ok (.closed rest) => .ok (sofar, rest)
  | .ok (.keyed key left) =>
    match _read : readMemberValue reader key left with
    | .error problem => .error problem
    | .ok (value, rest) =>
      readMembers reader false (sofar.insert key value) rest
termination_by text.length
decreasing_by
  exact Nat.lt_trans (readMemberValue_length_lt _read)
    (readMember_keyed_length_lt _member)

theorem readMembers_length_lt
    {Value : Type} {reader : Reader Value}
    {first : Bool} {sofar values : KeyMap Value} {text rest : Bytes}
    (reads : readMembers reader first sofar text = .ok (values, rest)) :
    rest.length < text.length := by
  fun_induction readMembers reader first sofar text with
  | case1 => simp at reads
  | case2 first sofar text left member =>
    cases reads
    exact readMember_closed_length_lt member
  | case3 => simp at reads
  | case4 first sofar text key left member value later read hypothesis =>
    have first := readMember_keyed_length_lt member
    have second := readMemberValue_length_lt read
    have third := hypothesis reads
    omega

/-- Reads an object of like values. -/
def readMap {Value : Type} (reader : Reader Value) (text : Bytes) :
    Except Fault (KeyMap Value × Bytes) :=
  match skipBlanks text with
  | [] => .error (fault .endInValue)
  | octet :: rest =>
    if octet = openObject then readMembers reader true ∅ rest
    else .error (fault (mismatch "a map" (octet :: rest)))

theorem readMap_length_lt
    {Value : Type} {reader : Reader Value}
    {text rest : Bytes} {values : KeyMap Value}
    (reads : readMap reader text = .ok (values, rest)) :
    rest.length < text.length := by
  have blanks := skipBlanks_length_le text
  unfold readMap at reads
  split at reads
  · simp at reads
  next octet left equation =>
    simp only [equation, List.length_cons] at blanks
    split at reads
    · have shorter := readMembers_length_lt reads
      omega
    · simp at reads

/-- The reader of objects of like values. -/
def Reader.keyMap {Value : Type} (reader : Reader Value) :
    Reader (KeyMap Value) where
  read := readMap reader
  consumes := readMap_length_lt

/-! ## Whole texts -/

/-- Reads a whole text as one value; only white space may follow it. -/
def Reader.readAll {Value : Type} (reader : Reader Value) (text : Bytes) :
    Except Fault Value :=
  match reader.read text with
  | .error problem => .error problem
  | .ok (value, rest) =>
    match skipBlanks rest with
    | [] => .ok value
    | _ :: _ => .error (fault .trailingCharacters)

end Workloads.Json
