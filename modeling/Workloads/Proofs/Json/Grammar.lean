import Workloads.Proofs.Json.Forms

/-!
# The grammar of texts

What a JSON text is, said without a reader.  A string may be spelled in many
ways, a number has no limit, lists and objects are nested to any depth, and
white space stands between any two tokens.  A key has to spell a text; a string
inside a value that nobody needs only has to be a string, so it may hold half of
a surrogate pair or octets that encode nothing.
-/

namespace Workloads.Json

/-! ## Strings -/

/-- The letters behind a backslash, each with the octet that it stands for. -/
def shortEscapes : List (UInt8 × UInt8) := [
  (quote, quote), (backslash, backslash), (47, 47), (98, 8), (102, 12),
  (110, 10), (114, 13), (116, 9)]

/-- Whether an octet may stand for itself between quotes. -/
def StandsAlone (octet : UInt8) : Prop :=
  32 ≤ octet ∧ octet ≠ quote ∧ octet ≠ backslash

instance (octet : UInt8) : Decidable (StandsAlone octet) :=
  inferInstanceAs (Decidable (_ ∧ _ ∧ _))

/-- The texts between quotes that spell octets: each octet stands for itself or
is escaped by a letter, and a character may be given by its number, or by a pair
of numbers if it lies beyond the first plane. -/
inductive Spelling : Bytes → Bytes → Prop where
  | nil : Spelling [] []
  | plain {octet : UInt8} {text octets : Bytes} (alone : StandsAlone octet)
      (later : Spelling text octets) :
      Spelling (octet :: text) (octet :: octets)
  | letter {letter meant : UInt8} {text octets : Bytes}
      (short : (letter, meant) ∈ shortEscapes)
      (later : Spelling text octets) :
      Spelling (backslash :: letter :: text) (meant :: octets)
  | unit {character : Char} {first second third fourth : UInt8}
      {text octets : Bytes} (low : character.toNat < 0x10000)
      (number :
        hexNumber? [first, second, third, fourth] = some character.toNat)
      (later : Spelling text octets) :
      Spelling
        (backslash :: unicodeLetter :: first :: second :: third :: fourth ::
          text)
        (String.utf8EncodeChar character ++ octets)
  | pair {character : Char}
      {first second third fourth fifth sixth seventh eighth : UInt8}
      {text octets : Bytes} (high : 0x10000 ≤ character.toNat)
      (leading :
        hexNumber? [first, second, third, fourth] =
          some (0xD800 + (character.toNat - 0x10000) / 0x400))
      (trailing :
        hexNumber? [fifth, sixth, seventh, eighth] =
          some (0xDC00 + (character.toNat - 0x10000) % 0x400))
      (later : Spelling text octets) :
      Spelling
        (backslash :: unicodeLetter :: first :: second :: third :: fourth ::
          backslash :: unicodeLetter :: fifth :: sixth :: seventh :: eighth ::
            text)
        (String.utf8EncodeChar character ++ octets)

/-- The texts that may stand between quotes at all. -/
inductive IsString : Bytes → Prop where
  | nil : IsString []
  | plain {octet : UInt8} {text : Bytes} (alone : StandsAlone octet)
      (later : IsString text) : IsString (octet :: text)
  | letter {letter meant : UInt8} {text : Bytes}
      (short : (letter, meant) ∈ shortEscapes) (later : IsString text) :
      IsString (backslash :: letter :: text)
  | unit {first second third fourth : UInt8} {number : Nat} {text : Bytes}
      (digits : hexNumber? [first, second, third, fourth] = some number)
      (later : IsString text) :
      IsString
        (backslash :: unicodeLetter :: first :: second :: third :: fourth ::
          text)

/-! ## Values -/

/-- The texts of a value that is no list and no object. -/
inductive IsScalar : Bytes → Prop where
  | null : IsScalar (110 :: restOfNull)
  | yes : IsScalar (116 :: restOfTrue)
  | no : IsScalar (102 :: restOfFalse)
  | positive {text : Bytes} {parts : NumberParts}
      (magnitude : IsMagnitude text parts) : IsScalar text
  | negative {text : Bytes} {parts : NumberParts}
      (magnitude : IsMagnitude text parts) : IsScalar (minus :: text)
  | string {text : Bytes} (string : IsString text) :
      IsScalar (quote :: (text ++ [quote]))

/-- The parts of a text: a value, or what is left of a list or an object behind
its opening bracket or behind one of its items. -/
inductive Part where
  | value
  | elements (first : Bool)
  | members (first : Bool)

/-- The texts of each part, whatever they mean. -/
inductive Grammar : Part → Bytes → Prop where
  | scalar {text : Bytes} (scalar : IsScalar text) : Grammar .value text
  | list {text : Bytes} (elements : Grammar (.elements true) text) :
      Grammar .value (openList :: text)
  | object {text : Bytes} (members : Grammar (.members true) text) :
      Grammar .value (openObject :: text)
  | listEnd {first : Bool} {gap : Bytes} (blank : IsGap gap) :
      Grammar (.elements first) (gap ++ [closeList])
  | element {first : Bool} {separator text after : Bytes}
      (separates : Separates first separator) (value : Grammar .value text)
      (later : Grammar (.elements false) after) :
      Grammar (.elements first) (separator ++ (text ++ after))
  | objectEnd {first : Bool} {gap : Bytes} (blank : IsGap gap) :
      Grammar (.members first) (gap ++ [closeObject])
  | member {first : Bool} {separator name gap space text after : Bytes}
      (separates : Separates first separator) (key : IsString name)
      (blank : IsGap gap) (blankLater : IsGap space)
      (value : Grammar .value text) (later : Grammar (.members false) after) :
      Grammar (.members first)
        (separator ++ quote :: (name ++ quote ::
          (gap ++ colon :: (space ++ (text ++ after)))))

/-! ## Objects and lists as a whole -/

/-- The texts of an object behind its opening brace, or behind one of its
members, with the members that are to come: each with the text that its key
spells and the text of its value. -/
inductive ObjectBody : Bool → List (String × Bytes) → Bytes → Prop where
  | closed {first : Bool} {gap : Bytes} (blank : IsGap gap) :
      ObjectBody first [] (gap ++ [closeObject])
  | member {first : Bool} {key : String}
      {separator name gap space value after : Bytes}
      {members : List (String × Bytes)}
      (separates : Separates first separator)
      (spelling : Spelling name (Bytes.ofText key))
      (blank : IsGap gap) (blankLater : IsGap space)
      (later : ObjectBody false members after) :
      ObjectBody first ((key, value) :: members)
        (separator ++ quote :: (name ++ quote ::
          (gap ++ colon :: (space ++ (value ++ after)))))

/-- The texts of an object with these members, in this order. -/
inductive IsObject (members : List (String × Bytes)) : Bytes → Prop where
  | braces {front body back : Bytes} (blank : IsGap front)
      (form : ObjectBody true members body) (blankLater : IsGap back) :
      IsObject members (front ++ openObject :: (body ++ back))

/-- The texts of a list with these elements. -/
inductive IsList (texts : List Bytes) : Bytes → Prop where
  | brackets {front body back : Bytes} (blank : IsGap front)
      (form : ListForm true texts body) (blankLater : IsGap back) :
      IsList texts (front ++ openList :: (body ++ back))

/-! ## What spells a key is read as the key -/

theorem escapedOctet?_short {letter meant : UInt8}
    (short : (letter, meant) ∈ shortEscapes) :
    letter ≠ unicodeLetter ∧ escapedOctet? letter = some meant := by
  simp only [shortEscapes, List.mem_cons, Prod.mk.injEq, List.not_mem_nil,
    or_false] at short
  rcases short with ⟨rfl, rfl⟩ | ⟨rfl, rfl⟩ | ⟨rfl, rfl⟩ | ⟨rfl, rfl⟩ |
    ⟨rfl, rfl⟩ | ⟨rfl, rfl⟩ | ⟨rfl, rfl⟩ | ⟨rfl, rfl⟩ <;> decide

/-- No character has the number of a surrogate. -/
theorem not_surrogate (character : Char) :
    isLeading character.toNat = false ∧ isTrailing character.toNat = false := by
  have valid : character.toNat < 0xD800 ∨
      0xDFFF < character.toNat ∧ character.toNat < 0x110000 :=
    character.valid
  simp only [isLeading, isTrailing, Bool.and_eq_false_iff,
    decide_eq_false_iff_not]
  omega

theorem unitStep_character {character : Char} {digits : Bytes}
    (number : hexNumber? digits = some character.toNat) :
    unitStep digits none =
      .ok (.proceed .plain (String.utf8EncodeChar character)) := by
  rcases not_surrogate character with ⟨leading, trailing⟩
  simp [unitStep, number, leading, trailing, characterOctets]

/-- The two numbers of a pair give the character back. -/
theorem pairNumber_halves {number : Nat} (high : 0x10000 ≤ number) :
    pairNumber (0xD800 + (number - 0x10000) / 0x400)
      (0xDC00 + (number - 0x10000) % 0x400) = number := by
  unfold pairNumber
  omega

theorem unitStep_leading {number : Nat} {digits : Bytes}
    (small : number < 0x110000)
    (leading :
      hexNumber? digits = some (0xD800 + (number - 0x10000) / 0x400)) :
    unitStep digits none =
      .ok (.proceed
        (.wantsBackslash (0xD800 + (number - 0x10000) / 0x400)) []) := by
  have first : isLeading (0xD800 + (number - 0x10000) / 0x400) = true := by
    simp [isLeading]
    omega
  have second : isTrailing (0xD800 + (number - 0x10000) / 0x400) = false := by
    simp [isTrailing]
    omega
  simp [unitStep, leading, first, second]

theorem unitStep_trailing {character : Char} {digits : Bytes}
    (high : 0x10000 ≤ character.toNat)
    (trailing :
      hexNumber? digits =
        some (0xDC00 + (character.toNat - 0x10000) % 0x400)) :
    unitStep digits
        (some (0xD800 + (character.toNat - 0x10000) / 0x400)) =
      .ok (.proceed .plain (String.utf8EncodeChar character)) := by
  have second :
      isTrailing (0xDC00 + (character.toNat - 0x10000) % 0x400) = true := by
    simp [isTrailing]
    omega
  simp [unitStep, trailing, second, pairNumber_halves high, characterOctets]

theorem scanString_spelling {text octets : Bytes}
    (spelling : Spelling text octets) (reversed rest : Bytes) :
    scanString .plain reversed (text ++ rest) =
      scanString .plain (octets.reverse ++ reversed) rest := by
  induction spelling generalizing reversed with
  | nil => rfl
  | @plain octet text octets alone _ hypothesis =>
      have step :
          stringStep .plain octet = .ok (.proceed .plain [octet]) := by
        have printable : ¬octet < 32 := UInt8.not_lt.mpr alone.1
        simp [stringStep, alone.2.1, alone.2.2, printable]
      rw [List.cons_append, scanString_proceed step, hypothesis]
      simp
  | @letter letter meant text octets short _ hypothesis =>
      have opened : stringStep .plain backslash = .ok (.proceed .escape []) :=
        rfl
      rcases escapedOctet?_short short with ⟨other, stands⟩
      have step :
          stringStep .escape letter = .ok (.proceed .plain [meant]) := by
        simp [stringStep, other, stands]
      rw [List.cons_append, List.cons_append, scanString_proceed opened,
        scanString_proceed step, hypothesis]
      simp
  | unit _ number _ hypothesis =>
      simp only [List.cons_append]
      rw [scanString_unit (unitStep_character number), hypothesis]
      simp
  | @pair character _ _ _ _ _ _ _ _ text octets high leading trailing _
      hypothesis =>
      have small : character.toNat < 0x110000 := by
        rcases character.valid with low | high
        · exact Nat.lt_trans low (by decide)
        · exact high.2
      have slash (unit : Nat) :
          stringStep (.wantsBackslash unit) backslash =
            .ok (.proceed (.wantsLetter unit) []) := rfl
      have announced (unit : Nat) :
          stringStep (.wantsLetter unit) unicodeLetter =
            .ok (.proceed (.digits [] (some unit)) []) := rfl
      simp only [List.cons_append]
      rw [scanString_unit (unitStep_leading small leading),
        scanString_proceed (slash _), scanString_proceed (announced _),
        scanString_digits (unitStep_trailing high trailing), hypothesis]
      simp

/-- A text that spells a key is read as the key. -/
theorem Spelling.spells {text : Bytes} {key : String}
    (spelling : Spelling text (Bytes.ofText key)) :
    Spells (text ++ [quote]) key := by
  intro rest
  have scanned :
      scanString .plain [] (text ++ quote :: rest) =
        .ok (Bytes.ofText key, rest) := by
    rw [scanString_spelling spelling]
    simp [scanString, stringStep]
  simp [readString, scanned]

end Workloads.Json
