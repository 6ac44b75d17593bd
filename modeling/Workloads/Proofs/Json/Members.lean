import Mathlib.Data.List.Basic
import Mathlib.Data.List.Forall2
import Mathlib.Data.List.Pairwise
import Workloads.Proofs.Json.Steady

/-!
# Records however they are written

The fields of a record do not get in each other's way: what one of them changes,
no other one looks at.  So two members next to each other may change places, and
an object may be read as if its members stood in the order of the fields, with
those that no field wants at the end.  A list with one element for each field is
read like the object with these members.
-/

namespace Workloads.Json

/-! ## What a text says of a field -/

/-- The texts of the values that stand under a key. -/
def textsOf (members : List (String × Bytes)) (key : String) : List Bytes :=
  (members.filter (fun member => member.1 = key)).map Prod.snd

section

variable {Value : Type}

/-- What a reader makes of the texts under a key: nothing if there is none, and
the value if there is one.  There are never two. -/
inductive Reader.Given (reader : Reader Value) :
    List Bytes → Option Value → Prop where
  | missing : reader.Given [] none
  | present {text : Bytes} {value : Value}
      (decodes : reader.Decodes text value) :
      reader.Given [text] (some value)

/-- Whether the texts under a key hold the value of a required field. -/
def Reader.Required (reader : Reader Value) (value : Value)
    (texts : List Bytes) : Prop :=
  reader.Given texts (some value)

/-- Whether the texts under a key hold the value of a field with a default. -/
def Reader.Defaulted (reader : Reader Value) (default value : Value)
    (texts : List Bytes) : Prop :=
  ∃ given, reader.Given texts given ∧ given.getD default = value

/-- Whether the texts under a key hold the value of an optional field: none if
there is no text or the word null, and the value that is read otherwise. -/
inductive Reader.Optionally (reader : Reader Value) :
    Option Value → List Bytes → Prop where
  | missing : reader.Optionally none []
  | null : reader.Optionally none [writeNull]
  | given {text : Bytes} {value : Value}
      (decodes : reader.Decodes text value) :
      reader.Optionally (some value) [text]

/-- A reader that reads nothing that begins like the word null. -/
def Reader.Unlike (reader : Reader Value) : Prop :=
  ∀ later outcome, reader.read (110 :: later) ≠ .ok outcome

theorem unlike_text : Reader.text.Unlike := by
  intro later outcome reads
  have solid : isBlank 110 = false := by decide
  have other : (110 : UInt8) ≠ quote := by decide
  simp [Reader.text, readText, skipBlanks_solid solid, other] at reads

theorem unlike_word : Reader.word.Unlike := by
  intro later outcome reads
  have solid : isBlank 110 = false := by decide
  have other : (110 : UInt8) ≠ minus := by decide
  have nonzero : Bytes.isDigit 110 = false := by decide
  simp [Reader.word, Reader.map, Reader.integer, readInteger,
    skipBlanks_solid solid, other, nonzero] at reads

/-- What is read is also read where null could stand. -/
theorem Reader.Decodes.nullable {reader : Reader Value} {text : Bytes}
    {value : Value} (decodes : reader.Decodes text value)
    (steady : reader.Steady) (unlike : reader.Unlike) :
    reader.nullable.Decodes text (some value) := by
  rw [Reader.Decodes, ← steady.blanks] at decodes
  cases left : skipBlanks text with
  | nil =>
      rw [left] at decodes
      exact absurd (reader.consumes decodes) (Nat.not_lt_zero _)
  | cons octet later =>
      rw [left] at decodes
      have other : octet ≠ 110 := by
        rintro rfl
        exact unlike later _ decodes
      simp [Reader.Decodes, Reader.nullable, readNullable, left, other,
        decodes]

/-- An optional field is one that may be null and is so by default. -/
theorem Reader.Optionally.defaulted {reader : Reader Value}
    {value : Option Value} {texts : List Bytes}
    (optionally : reader.Optionally value texts) (steady : reader.Steady)
    (unlike : reader.Unlike) :
    reader.nullable.Defaulted none value texts := by
  cases optionally with
  | missing => exact ⟨none, .missing, rfl⟩
  | null => exact ⟨some none, .present rfl, rfl⟩
  | given decodes =>
      exact ⟨_, .present (decodes.nullable steady unlike), rfl⟩

end

/-- A field as a text tells of it: its name and what the texts under it may
be. -/
structure Slot where
  name : String
  holds : List Bytes → Prop

/-- Whether members hold what the slots say.  Whatever stands under another key
need only be a value. -/
structure Describes (members : List (String × Bytes)) (slots : List Slot) :
    Prop where
  known : ∀ slot ∈ slots, slot.holds (textsOf members slot.name)
  unknown : ∀ member ∈ members,
    (∀ slot ∈ slots, slot.name ≠ member.1) → Grammar .value member.2

/-- Whether a reader reads every text of a value: each object whose members hold
what the slots say, and each list of one element for each slot. -/
structure Reader.ReadsHoweverWritten {Value : Type} (reader : Reader Value)
    (slots : Value → List Slot) : Prop where
  object {value : Value} {members : List (String × Bytes)} {text : Bytes}
    (describes : Describes members (slots value))
    (object : IsObject members text) : reader.readAll text = .ok value
  list {value : Value} {texts : List Bytes} {text : Bytes}
    (holds :
      List.Forall₂ (fun slot text => slot.holds [text]) (slots value) texts)
    (list : IsList texts text) : reader.readAll text = .ok value

namespace Record

variable {Draft Value : Type}

/-! ## Fields that do not get in each other's way -/

/-- Whether a field may change a draft in this way. -/
def Changes (field : Field Draft) (change : Draft → Draft) : Prop :=
  ∃ text rest, field.value.read text = .ok (change, rest)

/-- Two fields of different names, neither of which looks at what the other one
changes. -/
structure Apart (left right : Field Draft) : Prop where
  names : left.name ≠ right.name
  commute {change other : Draft → Draft} (changes : Changes left change)
    (changesOther : Changes right other) (draft : Draft) :
    other (change draft) = change (other draft)
  leftVacant {other : Draft → Draft} (changes : Changes right other)
    (draft : Draft) : left.filled (other draft) = left.filled draft
  rightVacant {change : Draft → Draft} (changes : Changes left change)
    (draft : Draft) : right.filled (change draft) = right.filled draft

theorem Apart.symm {left right : Field Draft} (apart : Apart left right) :
    Apart right left where
  names := apart.names.symm
  commute changes changesOther draft :=
    (apart.commute changesOther changes draft).symm
  leftVacant := apart.rightVacant
  rightVacant := apart.leftVacant

/-- Fields with steady readers of which each is filled by its own changes and
apart from all others. -/
structure Orderly (fields : List (Field Draft)) : Prop where
  steady : ∀ field ∈ fields, field.value.Steady
  fills : ∀ field ∈ fields, ∀ change, Changes field change →
    ∀ draft, field.filled (change draft) = true
  apart : fields.Pairwise Apart

theorem changes_of_map {First : Type} {field : Field Draft}
    {reader : Reader First} {set : First → Draft → Draft}
    (value : field.value = reader.map set) {change : Draft → Draft}
    (changes : Changes field change) : ∃ first, change = set first := by
  rcases changes with ⟨text, rest, reads⟩
  rw [value, Reader.map] at reads
  dsimp only at reads
  split at reads
  · cases reads
  · cases reads
    exact ⟨_, rfl⟩

/-- A field that sets its own component is filled by it. -/
theorem filled_of_map {First : Type} {field : Field Draft}
    {reader : Reader First} {set : First → Draft → Draft}
    (value : field.value = reader.map set)
    (fills : ∀ first draft, field.filled (set first draft) = true)
    (change : Draft → Draft) (changes : Changes field change)
    (draft : Draft) : field.filled (change draft) = true := by
  rcases changes_of_map value changes with ⟨first, rfl⟩
  exact fills first draft

/-- Fields that set different components are apart. -/
theorem Apart.of_map {First Second : Type} {left right : Field Draft}
    {reader : Reader First} {other : Reader Second}
    {set : First → Draft → Draft} {put : Second → Draft → Draft}
    (value : left.value = reader.map set)
    (valueOther : right.value = other.map put)
    (names : left.name ≠ right.name)
    (commute : ∀ first second draft,
      put second (set first draft) = set first (put second draft))
    (leftVacant : ∀ second draft,
      left.filled (put second draft) = left.filled draft)
    (rightVacant : ∀ first draft,
      right.filled (set first draft) = right.filled draft) :
    Apart left right where
  names := names
  commute changes changesOther draft := by
    rcases changes_of_map value changes with ⟨first, rfl⟩
    rcases changes_of_map valueOther changesOther with ⟨second, rfl⟩
    exact commute first second draft
  leftVacant changes draft := by
    rcases changes_of_map valueOther changes with ⟨second, rfl⟩
    exact leftVacant second draft
  rightVacant changes draft := by
    rcases changes_of_map value changes with ⟨first, rfl⟩
    exact rightVacant first draft

section

variable {fields : List (Field Draft)} {draft filled : Draft}

theorem Orderly.apart_of_ne (orderly : Orderly fields)
    {left right : Field Draft} (leftMember : left ∈ fields)
    (rightMember : right ∈ fields) (other : left ≠ right) :
    Apart left right := by
  have symmetric : Std.Symm (fun left right : Field Draft =>
      Apart left right) :=
    ⟨fun _ _ apart => apart.symm⟩
  exact orderly.apart.forall leftMember rightMember other

/-- A name belongs to one field. -/
theorem Orderly.find?_name (orderly : Orderly fields) {field : Field Draft}
    (member : field ∈ fields) :
    fields.find? (fun other => other.name = field.name) = some field := by
  cases found : fields.find? (fun other => other.name = field.name) with
  | none =>
      have other := List.find?_eq_none.mp found field member
      simp at other
  | some other =>
      have same := List.find?_some found
      by_contra apart
      have different : other ≠ field := fun equal => apart (by rw [equal])
      exact (orderly.apart_of_ne (List.mem_of_find?_eq_some found) member
        different).names (by simpa using same)

/-! ## Members in any order -/

theorem changes_of_takes {field : Field Draft} {text : Bytes}
    {change : Draft → Draft} (takes : field.value.Takes text change) :
    Changes field change :=
  ⟨text ++ [], [], takes [] ends_nil⟩

/-- Two members next to each other may change places. -/
theorem Fills.swap (orderly : Orderly fields)
    {first second : String × Bytes} {members : List (String × Bytes)}
    (fills : Fills fields draft (first :: second :: members) filled) :
    Fills fields draft (second :: first :: members) filled := by
  cases fills with
  | @known left _ _ change _ _ _ wanted vacant takes fills =>
      cases fills with
      | @known right _ _ other _ _ _ wantedLater vacantLater takesLater
          fills =>
          have changes := changes_of_takes takes
          have changesLater := changes_of_takes takesLater
          have leftMember := List.mem_of_find?_eq_some wanted
          have rightMember := List.mem_of_find?_eq_some wantedLater
          -- One field cannot be vacant for both of them.
          have different : left ≠ right := by
            rintro rfl
            rw [orderly.fills left leftMember change changes] at vacantLater
            cases vacantLater
          have apart := orderly.apart_of_ne leftMember rightMember different
          rw [apart.rightVacant changes] at vacantLater
          rw [apart.commute changes changesLater] at fills
          rw [← apart.leftVacant changesLater] at vacant
          exact .known wantedLater vacantLater takesLater
            (.known wanted vacant takes fills)
      | unknown unwanted passes fills =>
          exact .unknown unwanted passes (.known wanted vacant takes fills)
  | unknown unwanted passes fills =>
      cases fills with
      | known wanted vacant takes fills =>
          exact .known wanted vacant takes (.unknown unwanted passes fills)
      | unknown unwantedLater passesLater fills =>
          exact .unknown unwantedLater passesLater
            (.unknown unwanted passes fills)

/-- The order of the members makes no difference. -/
theorem Fills.perm (orderly : Orderly fields)
    {members others : List (String × Bytes)} (perm : members.Perm others)
    (fills : Fills fields draft members filled) :
    Fills fields draft others filled := by
  induction perm generalizing draft with
  | nil => exact fills
  | cons member _ hypothesis =>
      cases fills with
      | known wanted vacant takes fills =>
          exact .known wanted vacant takes (hypothesis fills)
      | unknown unwanted passes fills =>
          exact .unknown unwanted passes (hypothesis fills)
  | swap => exact fills.swap orderly
  | trans _ _ first second => exact second (first fills)

theorem Fills.append {between : Draft} {members others : List (String × Bytes)}
    (fills : Fills fields draft members between)
    (later : Fills fields between others filled) :
    Fills fields draft (members ++ others) filled := by
  induction fills with
  | done => exact later
  | known wanted vacant takes _ hypothesis =>
      exact .known wanted vacant takes (hypothesis later)
  | unknown unwanted passes _ hypothesis =>
      exact .unknown unwanted passes (hypothesis later)

/-- Members that no field wants change nothing. -/
theorem Fills.of_unknown {members : List (String × Bytes)}
    (unknown : ∀ member ∈ members,
      (∀ field ∈ fields, field.name ≠ member.1) ∧
        Grammar .value member.2) :
    Fills fields draft members draft := by
  induction members with
  | nil => exact .done
  | cons member members hypothesis =>
      rcases unknown member List.mem_cons_self with ⟨unwanted, value⟩
      refine .unknown ?_ value.passes (hypothesis fun other later =>
        unknown other (List.mem_cons_of_mem _ later))
      rw [List.find?_eq_none]
      intro field listed
      simpa using unwanted field listed

/-! ## Fields in turn -/

/-- How the fields fill a draft one after the other, each by the texts under its
name: by none of them or by a single one. -/
inductive FillsInTurn (texts : String → List Bytes) :
    List (Field Draft) → Draft → Draft → Prop where
  | done {draft : Draft} : FillsInTurn texts [] draft draft
  | missing {field : Field Draft} {fields : List (Field Draft)}
      {draft filled : Draft} (absent : texts field.name = [])
      (later : FillsInTurn texts fields draft filled) :
      FillsInTurn texts (field :: fields) draft filled
  | present {field : Field Draft} {fields : List (Field Draft)}
      {draft filled : Draft} {text : Bytes} {change : Draft → Draft}
      (one : texts field.name = [text])
      (vacant : field.filled draft = false)
      (takes : field.value.Takes text change)
      (later : FillsInTurn texts fields (change draft) filled) :
      FillsInTurn texts (field :: fields) draft filled

/-- A field that sets a component from what is given under its name. -/
theorem FillsInTurn.given {First : Type} {texts : String → List Bytes}
    {field : Field Draft} {reader : Reader First}
    {set : First → Draft → Draft} {given : Option First}
    (is : reader.Given (texts field.name) given)
    (value : field.value = reader.map set) (steady : reader.Steady)
    (put : Option First → Draft → Draft) (absent : put none draft = draft)
    (present : ∀ first, put (some first) draft = set first draft)
    (vacant : field.filled draft = false)
    (later : FillsInTurn texts fields (put given draft) filled) :
    FillsInTurn texts (field :: fields) draft filled := by
  generalize under : texts field.name = these at is
  cases is with
  | missing => exact .missing under (absent ▸ later)
  | @present text first decodes =>
      have takes : field.value.Takes text (set first) :=
        value ▸ (steady.takes decodes).map set
      exact .present under vacant takes (present first ▸ later)

/-- The members under a key. -/
theorem map_textsOf (members : List (String × Bytes)) (key : String) :
    (textsOf members key).map (Prod.mk key) =
      members.filter (fun member => member.1 = key) := by
  have same : ∀ member ∈ members.filter (fun member => member.1 = key),
      (Prod.mk key ∘ Prod.snd) member = member := by
    rintro ⟨name, text⟩ listed
    have named := (List.mem_filter.mp listed).2
    simpa [eq_comm] using named
  rw [textsOf, List.map_map, List.map_congr_left same, List.map_id']

/-- Members sorted by names, with all others at the end. -/
theorem perm_by_names {names : List String} (nodup : names.Nodup)
    (members : List (String × Bytes)) :
    members.Perm
      (names.flatMap (fun name =>
          members.filter (fun member => member.1 = name)) ++
        members.filter (fun member => member.1 ∉ names)) := by
  induction names generalizing members with
  | nil =>
      rw [List.flatMap_nil, List.nil_append, List.filter_eq_self.mpr]
      simp
  | cons name names hypothesis =>
      rcases List.nodup_cons.mp nodup with ⟨absent, nodup⟩
      have later := hypothesis nodup
        (members.filter (fun member => member.1 ≠ name))
      have others : names.flatMap (fun other =>
            (members.filter (fun member => member.1 ≠ name)).filter
              (fun member => member.1 = other)) =
          names.flatMap (fun other =>
            members.filter (fun member => member.1 = other)) := by
        refine List.flatMap_congr fun other listed => ?_
        rw [List.filter_filter]
        refine List.filter_congr fun member _ => ?_
        have different : other ≠ name := fun same => absent (same ▸ listed)
        by_cases same : member.1 = other
        · simp [same, different]
        · simp [same]
      have rest :
          (members.filter (fun member => member.1 ≠ name)).filter
              (fun member => member.1 ∉ names) =
            members.filter (fun member => member.1 ∉ name :: names) := by
        rw [List.filter_filter]
        refine List.filter_congr fun member _ => ?_
        simp [Bool.and_comm]
      have split := List.filter_append_perm
        (fun member : String × Bytes => member.1 = name) members
      rw [others, rest] at later
      rw [List.flatMap_cons, List.append_assoc]
      refine split.symm.trans (List.Perm.append_left _ ?_)
      simpa using later

theorem FillsInTurn.fills (orderly : Orderly fields)
    {members : List (String × Bytes)} {few : List (Field Draft)}
    (within : ∀ field ∈ few, field ∈ fields)
    (turn : FillsInTurn (textsOf members) few draft filled) :
    Fills fields draft
      ((few.map Field.name).flatMap (fun name =>
        members.filter (fun member => member.1 = name))) filled := by
  induction turn with
  | done => exact .done
  | @missing field few draft filled absent _ hypothesis =>
      have here := map_textsOf members field.name
      rw [absent] at here
      rw [List.map_cons, List.flatMap_cons, ← here]
      exact hypothesis fun other listed =>
        within other (List.mem_cons_of_mem _ listed)
  | @present field few draft filled text change one vacant takes _
      hypothesis =>
      have here := map_textsOf members field.name
      rw [one] at here
      rw [List.map_cons, List.flatMap_cons, ← here]
      exact .known (orderly.find?_name (within field List.mem_cons_self))
        vacant takes (hypothesis fun other listed =>
          within other (List.mem_cons_of_mem _ listed))

theorem Orderly.nodup (orderly : Orderly fields) :
    (fields.map Field.name).Nodup := by
  rw [List.nodup_iff_pairwise_ne, List.pairwise_map]
  exact orderly.apart.imp fun apart => apart.names

/-- Members that hold what the slots say fill the draft that the fields fill in
turn. -/
theorem FillsInTurn.of_describes (orderly : Orderly fields)
    {members : List (String × Bytes)} {slots : List Slot}
    (named : slots.map Slot.name = fields.map Field.name)
    (describes : Describes members slots)
    (turn : FillsInTurn (textsOf members) fields draft filled) :
    Fills fields draft members filled := by
  refine Fills.perm orderly (perm_by_names orderly.nodup members).symm ?_
  refine (turn.fills orderly fun _ listed => listed).append
    (Fills.of_unknown ?_)
  intro member listed
  rcases List.mem_filter.mp listed with ⟨inside, other⟩
  have unnamed : member.1 ∉ fields.map Field.name := by simpa using other
  refine ⟨?_, describes.unknown member inside ?_⟩
  · rintro field here same
    exact unnamed (same ▸ List.mem_map_of_mem here)
  · rintro slot here same
    exact unnamed (named ▸ same ▸ List.mem_map_of_mem here)

/-! ## White space in front of values -/

/-- The same member with white space in front of its value. -/
def Pads (member padded : String × Bytes) : Prop :=
  member.1 = padded.1 ∧ ∃ gap, IsGap gap ∧ padded.2 = gap ++ member.2

theorem Fills.pads (orderly : Orderly fields)
    {members padded : List (String × Bytes)}
    (fills : Fills fields draft members filled)
    (pads : List.Forall₂ Pads members padded) :
    Fills fields draft padded filled := by
  induction fills generalizing padded with
  | done =>
      cases pads
      exact .done
  | known wanted vacant takes _ hypothesis =>
      rcases pads with _ | ⟨⟨rfl, gap, blank, same⟩, later⟩
      have steady := orderly.steady _ (List.mem_of_find?_eq_some wanted)
      exact .known wanted vacant (same ▸ takes.gap steady.blanks blank)
        (hypothesis later)
  | unknown unwanted passes _ hypothesis =>
      rcases pads with _ | ⟨⟨rfl, gap, blank, same⟩, later⟩
      refine .unknown unwanted ?_ (hypothesis later)
      intro rest ends
      rw [same, List.append_assoc, passValue, passFrom_gap blank]
      exact passes rest ends

/-- What is behind the brace of an object has the form that is read, with white
space behind a colon taken as part of the value. -/
theorem exists_form {first : Bool} {members : List (String × Bytes)}
    {body : Bytes} (object : ObjectBody first members body) :
    ∃ padded, List.Forall₂ Pads members padded ∧
      ObjectForm first padded body := by
  induction object with
  | closed blank => exact ⟨[], .nil, .closed blank⟩
  | @member first key separator name gap space value after members separates
      spelling blank blankLater _ hypothesis =>
      rcases hypothesis with ⟨padded, pads, form⟩
      refine ⟨(key, space ++ value) :: padded,
        .cons ⟨rfl, space, blankLater, rfl⟩ pads, ?_⟩
      have whole : ObjectForm first ((key, space ++ value) :: padded) _ :=
        .member separates spelling.spells blank form
      simpa using whole

/-! ## Fields in a list -/

theorem readListEnd_closed {gap : Bytes} (blank : IsGap gap) (rest : Bytes) :
    readListEnd (gap ++ closeList :: rest) = .ok rest := by
  have solid : isBlank closeList = false := by decide
  simp [readListEnd, skipBlanks_gap blank solid]

/-- Fields are read from a list with an element for each of them. -/
theorem readInOrder_form {names : String → List Bytes} {first : Bool}
    {texts : List Bytes} {form : Bytes} (list : ListForm first texts form)
    (turn : FillsInTurn names fields draft filled)
    (single :
      List.Forall₂ (fun field text => names field.name = [text]) fields texts)
    (wanted : String) (position : Nat) (rest : Bytes) :
    readInOrder wanted position first draft fields (form ++ rest) =
      .ok (filled, rest) := by
  induction list generalizing fields draft position with
  | closed blank =>
      cases single
      cases turn
      rw [List.append_assoc, readInOrder]
      simp only [List.cons_append, List.nil_append,
        readListEnd_closed blank rest]
  | @item first separator text after texts separates begins later
      hypothesis =>
      cases single with
      | cons one single =>
          cases turn with
          | missing absent _ => cases absent.symm.trans one
          | present same vacant takes turn =>
              cases same.symm.trans one
              rw [List.append_assoc, List.append_assoc, readInOrder,
                nextElement_item separates begins]
              simp only [takes _ (later.ends rest)]
              exact hypothesis turn single (position + 1)

end

/-! ## Whole texts -/

theorem blanks (record : Record Draft Value) (text : Bytes) :
    record.reader.read (skipBlanks text) = record.reader.read text := by
  simp only [reader, Record.read, skipBlanks_idem]

/-- White space around a value makes no difference. -/
theorem readAll_padded {record : Record Draft Value} {text : Bytes}
    {value : Value} (takes : record.reader.Takes text value)
    {front back : Bytes} (blank : IsGap front) (blankLater : IsGap back) :
    record.reader.readAll (front ++ (text ++ back)) = .ok value := by
  have ends : Ends back := by
    have nothing := ends_gap blankLater ends_nil
    rwa [List.append_nil] at nothing
  have finished : skipBlanks back = [] := by
    have nothing := skipBlanks_append blankLater []
    rwa [List.append_nil] at nothing
  have read := takes.gap record.blanks blank back ends
  rw [List.append_assoc] at read
  simp [Reader.readAll, read, finished]

theorem takes_inOrder {record : Record Draft Value}
    {names : String → List Bytes} {texts : List Bytes} {form : Bytes}
    (list : ListForm true texts form) {filled : Draft}
    (turn : FillsInTurn names record.fields record.blank filled)
    (single :
      List.Forall₂ (fun field text => names field.name = [text])
        record.fields texts)
    {value : Value} (built : record.build filled = .ok value) :
    record.reader.Takes (openList :: form) value := by
  intro rest _
  have read := readInOrder_form list turn single record.sized 0 rest
  simp [reader, Record.read, skipBlanks, isBlank, openList, read, built]

/-- The elements of a list stand each under a name of its own. -/
theorem exists_under {slots : List Slot} {texts : List Bytes}
    (nodup : (slots.map Slot.name).Nodup)
    (holds :
      List.Forall₂ (fun slot text => slot.holds [text]) slots texts) :
    ∃ under : String → List Bytes,
      (∀ slot ∈ slots, slot.holds (under slot.name)) ∧
        List.Forall₂ (fun name text => under name = [text])
          (slots.map Slot.name) texts := by
  induction holds with
  | nil => exact ⟨fun _ => [], nofun, .nil⟩
  | @cons slot text slots texts here _ hypothesis =>
      rcases List.nodup_cons.mp nodup with ⟨absent, nodup⟩
      rcases hypothesis nodup with ⟨under, holds, single⟩
      have other : ∀ name ∈ slots.map Slot.name, name ≠ slot.name :=
        fun name listed same => absent (same ▸ listed)
      refine ⟨fun name => if name = slot.name then [text] else under name,
        ?_, .cons (if_pos rfl) ?_⟩
      · intro one listed
        rcases List.mem_cons.mp listed with rfl | later
        · simpa using here
        · have named := other one.name (List.mem_map_of_mem later)
          simpa [named] using holds one later
      · refine ((List.forall₂_and_left _ _).mpr ⟨other, single⟩).imp ?_
        rintro name text ⟨named, same⟩
        exact (if_neg named).trans same

/-- A record whose fields fill a draft for each value in turn is read however
the value is written. -/
theorem readsHoweverWritten {record : Record Draft Value}
    {slots : Value → List Slot} (orderly : Orderly record.fields)
    (named : ∀ value,
      (slots value).map Slot.name = record.fields.map Field.name)
    (fills : ∀ value texts,
      (∀ slot ∈ slots value, slot.holds (texts slot.name)) →
        ∃ filled, FillsInTurn texts record.fields record.blank filled ∧
          record.build filled = .ok value) :
    record.reader.ReadsHoweverWritten slots where
  object := by
    intro value members text describes object
    cases object with
    | braces blank form blankLater =>
        rcases fills value (textsOf members) describes.known with
          ⟨filled, turn, built⟩
        rcases exists_form form with ⟨padded, pads, form⟩
        have fills :=
          (turn.of_describes orderly (named value) describes).pads orderly
            pads
        exact readAll_padded (takes_object form fills built) blank blankLater
  list := by
    intro value texts text holds list
    cases list with
    | brackets blank form blankLater =>
        have nodup : ((slots value).map Slot.name).Nodup :=
          named value ▸ orderly.nodup
        rcases exists_under nodup holds with ⟨under, holds, single⟩
        rcases fills value under holds with ⟨filled, turn, built⟩
        rw [named value, List.forall₂_map_left_iff] at single
        exact readAll_padded (takes_inOrder form turn single built) blank
          blankLater

end Record

end Workloads.Json
