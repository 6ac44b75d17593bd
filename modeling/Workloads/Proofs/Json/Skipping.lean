import Workloads.Proofs.Json.Grammar

/-!
# Whatever is JSON is passed over

A value that nobody needs is passed over by a machine with a stack of open lists
and objects.  By induction on the grammar, every part of a text leads it from
the octet in front to the octet behind, with the stack as it was; so a value of
any depth is passed over as a whole, not an octet less or more.
-/

namespace Workloads.Json

/-! ## Strings -/

/-- A string that nobody needs is passed over up to its closing quote. -/
theorem IsString.passed {text : Bytes} (string : IsString text)
    (rest : Bytes) :
    passString .plain (text ++ quote :: rest) = .ok rest := by
  have other : backslash ≠ quote := by decide
  induction string with
  | nil => rfl
  | plain alone _ hypothesis =>
      have printable := UInt8.not_lt.mpr alone.1
      simp [passString, alone.2.1, alone.2.2, printable, hypothesis]
  | letter short _ hypothesis =>
      rcases escapedOctet?_short short with ⟨letter, stands⟩
      simp [passString, other, letter, stands, hypothesis]
  | unit digits _ hypothesis =>
      simp [passString, other, digits, hypothesis]

/-! ## Scalars -/

theorem readWord_append (word rest : Bytes) :
    readWord word (word ++ rest) = .ok rest := by
  induction word with
  | nil => rfl
  | cons letter word hypothesis =>
      rw [List.cons_append, readWord, if_pos rfl, hypothesis]

/-- A number begins with a digit. -/
theorem IsMagnitude.exists_cons {text : Bytes} {parts : NumberParts}
    (magnitude : IsMagnitude text parts) :
    ∃ octet later, text = octet :: later ∧ Bytes.isDigit octet = true := by
  cases magnitude with
  | parts front middle back =>
      cases front with
      | zero => exact ⟨48, _, rfl, rfl⟩
      | digits other are =>
          exact ⟨_, _, rfl, are.2 _ List.mem_cons_self⟩

/-- A digit begins nothing but a number. -/
theorem only_number_of_isDigit {octet : UInt8}
    (digit : Bytes.isDigit octet = true) :
    octet ≠ 110 ∧ octet ≠ 116 ∧ octet ≠ 102 ∧ octet ≠ minus ∧
      octet ≠ openList ∧ octet ≠ openObject := by
  refine ⟨?_, ?_, ?_, ?_, ?_, ?_⟩ <;>
    · rintro rfl
      cases digit

theorem IsScalar.passed {text rest : Bytes} (scalar : IsScalar text)
    (ends : Ends rest) : passScalar (text ++ rest) = .ok rest := by
  cases scalar with
  | null => exact readWord_append restOfNull rest
  | yes => exact readWord_append restOfTrue rest
  | no => exact readWord_append restOfFalse rest
  | positive magnitude =>
      have passed := passNumber_of_isMagnitude magnitude ends
      rcases magnitude.exists_cons with ⟨octet, later, rfl, digit⟩
      rcases only_number_of_isDigit digit with ⟨null, yes, no, negative, _⟩
      rw [List.cons_append] at passed ⊢
      rw [passScalar, if_neg null, if_neg yes, if_neg no, if_neg negative,
        if_pos digit, passed]
  | negative magnitude =>
      exact passNumber_of_isMagnitude magnitude ends
  | @string text string =>
      have passed := string.passed rest
      rw [List.cons_append, List.append_assoc]
      exact passed

/-- A scalar opens nothing, and no white space is in front of it. -/
theorem IsScalar.exists_cons {text : Bytes} (scalar : IsScalar text) :
    ∃ octet later, text = octet :: later ∧ isBlank octet = false ∧
      octet ≠ closeList ∧ octet ≠ openList ∧ octet ≠ openObject := by
  cases scalar with
  | null => exact ⟨110, _, rfl, by decide⟩
  | yes => exact ⟨116, _, rfl, by decide⟩
  | no => exact ⟨102, _, rfl, by decide⟩
  | positive magnitude =>
      rcases magnitude.exists_cons with ⟨octet, later, rfl, digit⟩
      rcases only_number_of_isDigit digit with ⟨_, _, _, _, list, object⟩
      rcases solid_of_isDigit octet digit with ⟨solid, other⟩
      exact ⟨octet, later, rfl, solid, other, list, object⟩
  | negative magnitude => exact ⟨minus, _, rfl, by decide⟩
  | string _ => exact ⟨quote, _, rfl, by decide⟩

/-- A value begins in a way in which an element of a list can begin. -/
theorem Grammar.begins {text : Bytes} (value : Grammar .value text) :
    Begins text := by
  cases value with
  | scalar scalar =>
      rcases scalar.exists_cons with ⟨octet, later, rfl, solid, other, _⟩
      exact ⟨octet, later, rfl, solid, other⟩
  | list _ => exact ⟨openList, _, rfl, by decide⟩
  | object _ => exact ⟨openObject, _, rfl, by decide⟩

/-! ## What follows an item ends it -/

theorem Separates.ends {separator : Bytes}
    (separates : Separates false separator) (rest : Bytes) :
    Ends (separator ++ rest) := by
  cases separates with
  | between blank blankLater =>
      rw [List.append_assoc]
      exact ends_gap blank (ends_cons rfl _)

theorem Grammar.ends_elements {text : Bytes}
    (elements : Grammar (.elements false) text) (rest : Bytes) :
    Ends (text ++ rest) := by
  cases elements with
  | listEnd blank =>
      rw [List.append_assoc]
      exact ends_gap blank (ends_cons rfl _)
  | element separates _ _ =>
      rw [List.append_assoc]
      exact separates.ends _

theorem Grammar.ends_members {text : Bytes}
    (members : Grammar (.members false) text) (rest : Bytes) :
    Ends (text ++ rest) := by
  cases members with
  | objectEnd blank =>
      rw [List.append_assoc]
      exact ends_gap blank (ends_cons rfl _)
  | member separates _ _ _ _ _ =>
      rw [List.append_assoc]
      exact separates.ends _

/-! ## Steps of the machine -/

section

variable {phase next : PassPhase} {stack inner : List Enclosure}
  {text gap rest : Bytes}

/-- One step after the other, without the reason why this comes to an end. -/
theorem passFrom_eq (phase : PassPhase) (stack : List Enclosure)
    (text : Bytes) :
    passFrom phase stack text =
      match passStep phase stack (skipBlanks text) with
      | .error problem => .error problem
      | .ok (.finished rest) => .ok rest
      | .ok (.proceed next inner rest) => passFrom next inner rest := by
  rw [passFrom]
  split
  next step => simp only [step]
  next step => simp only [step]
  next step => simp only [step]

theorem passFrom_proceed
    (step :
      passStep phase stack (skipBlanks text) =
        .ok (.proceed next inner rest)) :
    passFrom phase stack text = passFrom next inner rest := by
  rw [passFrom_eq, step]

theorem passFrom_gap (blank : IsGap gap) (phase : PassPhase)
    (stack : List Enclosure) (text : Bytes) :
    passFrom phase stack (gap ++ text) = passFrom phase stack text := by
  rw [passFrom_eq, passFrom_eq phase stack text, skipBlanks_append blank]

/-- A step on a text with an octet that is no white space behind a gap. -/
theorem passFrom_step {octet : UInt8} (blank : IsGap gap)
    (solid : isBlank octet = false)
    (step :
      passStep phase stack (octet :: text) =
        .ok (.proceed next inner rest)) :
    passFrom phase stack (gap ++ octet :: text) =
      passFrom next inner rest := by
  refine passFrom_proceed ?_
  rw [skipBlanks_gap blank solid, step]

theorem passFrom_scalar (scalar : IsScalar text) (ends : Ends rest)
    (stack : List Enclosure) :
    passFrom .value stack (text ++ rest) = passFrom .after stack rest := by
  have passed := scalar.passed ends
  rcases scalar.exists_cons with
    ⟨octet, later, rfl, solid, _, list, object⟩
  rw [List.cons_append] at passed ⊢
  refine passFrom_step isGap_nil solid ?_
  simp only [passStep, if_neg list, if_neg object, passed]

/-- The key of a member is passed over, with the colon and white space. -/
theorem passFrom_key {name space : Bytes} (key : IsString name)
    (blank : IsGap gap) (blankLater : IsGap space) (stack : List Enclosure)
    (rest : Bytes) :
    passFrom .key stack
        (quote :: (name ++ quote :: (gap ++ colon :: (space ++ rest)))) =
      passFrom .value stack rest := by
  have solid : isBlank colon = false := by decide
  have passed :
      passKey (quote :: (name ++ quote :: (gap ++ colon :: (space ++ rest)))) =
        .ok (space ++ rest) := by
    simp [passKey, key.passed, skipBlanks_gap blank solid]
  rw [← passFrom_gap blankLater .value stack rest]
  refine passFrom_step isGap_nil (by decide) ?_
  simp only [passStep, passed]

end

/-! ## Every part -/

/-- What the machine makes of the text of a part: a value is over where it ends,
a list and an object where their bracket closes. -/
def Part.Passed (text : Bytes) : Part → Prop
  | .value => ∀ stack rest, Ends rest →
      passFrom .value stack (text ++ rest) = passFrom .after stack rest
  | .elements true => ∀ stack rest,
      passFrom .value stack (openList :: (text ++ rest)) =
        passFrom .after stack rest
  | .elements false => ∀ stack rest,
      passFrom .after (.list :: stack) (text ++ rest) =
        passFrom .after stack rest
  | .members true => ∀ stack rest,
      passFrom .value stack (openObject :: (text ++ rest)) =
        passFrom .after stack rest
  | .members false => ∀ stack rest,
      passFrom .after (.object :: stack) (text ++ rest) =
        passFrom .after stack rest

theorem passed_listEnd (first : Bool) {gap : Bytes} (blank : IsGap gap) :
    (Part.elements first).Passed (gap ++ [closeList]) := by
  have solid : isBlank closeList = false := by decide
  cases first with
  | true =>
      intro stack rest
      refine passFrom_step isGap_nil (by decide) ?_
      simp [passStep, skipBlanks_gap blank solid]
  | false =>
      intro stack rest
      rw [List.append_assoc]
      exact passFrom_step blank solid rfl

theorem passed_objectEnd (first : Bool) {gap : Bytes} (blank : IsGap gap) :
    (Part.members first).Passed (gap ++ [closeObject]) := by
  have solid : isBlank closeObject = false := by decide
  have other : openObject ≠ openList := by decide
  cases first with
  | true =>
      intro stack rest
      refine passFrom_step isGap_nil (by decide) ?_
      simp [passStep, other, skipBlanks_gap blank solid]
  | false =>
      intro stack rest
      rw [List.append_assoc]
      exact passFrom_step blank solid rfl

theorem passed_element {first : Bool} {separator text after : Bytes}
    (separates : Separates first separator) (begins : Begins text)
    (ends : ∀ rest, Ends (after ++ rest)) (value : Part.value.Passed text)
    (later : (Part.elements false).Passed after) :
    (Part.elements first).Passed (separator ++ (text ++ after)) := by
  cases separates with
  | opening blank =>
      rcases begins with ⟨octet, tail, rfl, solid, other⟩
      intro stack rest
      -- The bracket is passed only if what follows is not the closing one.
      have opened :
          passFrom .value stack
              (openList :: (separator ++ (octet :: tail ++
                (after ++ rest)))) =
            passFrom .value (.list :: stack)
              (separator ++ (octet :: tail ++ (after ++ rest))) := by
        refine passFrom_step isGap_nil (by decide) ?_
        simp [passStep, skipBlanks_gap blank solid, other]
      rw [List.append_assoc, List.append_assoc, opened, passFrom_gap blank,
        value _ _ (ends rest)]
      exact later stack rest
  | between blank blankLater =>
      intro stack rest
      have solid : isBlank comma = false := by decide
      simp only [List.append_assoc, List.cons_append]
      rw [passFrom_step blank solid rfl, passFrom_gap blankLater,
        value _ _ (ends rest)]
      exact later stack rest

theorem passed_member {first : Bool}
    {separator name gap space text after : Bytes}
    (separates : Separates first separator) (key : IsString name)
    (blank : IsGap gap) (blankLater : IsGap space)
    (ends : ∀ rest, Ends (after ++ rest)) (value : Part.value.Passed text)
    (later : (Part.members false).Passed after) :
    (Part.members first).Passed
      (separator ++ quote :: (name ++ quote ::
        (gap ++ colon :: (space ++ (text ++ after))))) := by
  cases separates with
  | opening clear =>
      intro stack rest
      have solid : isBlank quote = false := by decide
      have opened :
          passFrom .value stack (openObject :: (separator ++ quote :: (name ++
              quote :: (gap ++ colon :: (space ++ (text ++
                (after ++ rest))))))) =
            passFrom .key (.object :: stack) (separator ++ quote :: (name ++
              quote :: (gap ++ colon :: (space ++ (text ++
                (after ++ rest)))))) := by
        have list : openObject ≠ openList := by decide
        have close : quote ≠ closeObject := by decide
        refine passFrom_step isGap_nil (by decide) ?_
        simp [passStep, list, close, skipBlanks_gap clear solid]
      simp only [List.append_assoc, List.cons_append]
      rw [opened, passFrom_gap clear, passFrom_key key blank blankLater,
        value _ _ (ends rest)]
      exact later stack rest
  | between clear clearLater =>
      intro stack rest
      have solid : isBlank comma = false := by decide
      simp only [List.append_assoc, List.cons_append]
      rw [passFrom_step clear solid rfl, passFrom_gap clearLater,
        passFrom_key key blank blankLater, value _ _ (ends rest)]
      exact later stack rest

/-- Every part of a text is passed over, whatever is open around it. -/
theorem Grammar.passed {part : Part} {text : Bytes}
    (grammar : Grammar part text) : part.Passed text := by
  induction grammar with
  | scalar scalar =>
      exact fun stack _ ends => passFrom_scalar scalar ends stack
  | list _ elements => exact fun stack rest _ => elements stack rest
  | object _ members => exact fun stack rest _ => members stack rest
  | listEnd blank => exact passed_listEnd _ blank
  | element separates whole elements value later =>
      exact passed_element separates whole.begins elements.ends_elements
        value later
  | objectEnd blank => exact passed_objectEnd _ blank
  | member separates key blank blankLater _ members value later =>
      exact passed_member separates key blank blankLater
        members.ends_members value later

/-- Whatever is a value of JSON is passed over as one. -/
theorem Grammar.passes {text : Bytes} (value : Grammar .value text) :
    Passes text := by
  intro rest ends
  rw [passValue, value.passed [] rest ends, passFrom_eq]
  rfl

end Workloads.Json
