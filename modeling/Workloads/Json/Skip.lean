import Workloads.Json.Number

/-!
# Values nobody needs

A member that no field wants is passed over: its syntax is checked, its value
is not built.  Open lists and objects are kept on a stack, so nesting has no
limit.  Where a number has to go on, the end of the text counts as an octet
that does not fit.
-/

namespace Workloads.Json

/-! ## Numbers -/

/-- What is left after a text that must begin with a digit, and all its
digits. -/
def passDigits (text : Bytes) : Except Problem Bytes :=
  if startsWithDigit text then .ok (afterDigits text)
  else .error .invalidNumber

/-- Passes over an exponent, if its mark follows. -/
def passExponent : Bytes → Except Problem Bytes
  | [] => .ok []
  | octet :: rest =>
    if isExponentMark octet then
      match rest with
      | [] => .error .invalidNumber
      | sign :: digits =>
        if sign = 43 || sign = minus then passDigits digits
        else passDigits rest
    else
      .ok (octet :: rest)

/-- Passes over a fraction, if a point follows. -/
def passFraction : Bytes → Except Problem Bytes
  | [] => .ok []
  | octet :: rest =>
    if octet = 46 then passDigits rest else .ok (octet :: rest)

/-- Passes over the digits before the point; a zero stands alone. -/
def passWhole : Bytes → Except Problem Bytes
  | [] => .error .invalidNumber
  | octet :: rest =>
    if octet = 48 then
      if startsWithDigit rest then .error .invalidNumber else .ok rest
    else if Bytes.isDigit octet then
      .ok (afterDigits rest)
    else
      .error .invalidNumber

/-- Passes over a number after its sign. -/
def passNumber (text : Bytes) : Except Problem Bytes :=
  match passWhole text with
  | .error problem => .error problem
  | .ok rest =>
    match passFraction rest with
    | .error problem => .error problem
    | .ok rest => passExponent rest

theorem passDigits_length_le
    {text rest : Bytes} (passes : passDigits text = .ok rest) :
    rest.length ≤ text.length := by
  unfold passDigits at passes
  split at passes
  · cases passes
    exact afterDigits_length_le _
  · simp at passes

theorem passExponent_length_le
    {text rest : Bytes} (passes : passExponent text = .ok rest) :
    rest.length ≤ text.length := by
  cases text with
  | nil => cases passes; simp
  | cons octet text =>
    simp only [passExponent] at passes
    split at passes
    · split at passes
      · simp at passes
      next sign digits =>
        simp only [List.length_cons]
        split at passes
        · have shorter := passDigits_length_le passes
          omega
        · have shorter := passDigits_length_le passes
          simp only [List.length_cons] at shorter
          omega
    · cases passes
      exact Nat.le_refl _

theorem passFraction_length_le
    {text rest : Bytes} (passes : passFraction text = .ok rest) :
    rest.length ≤ text.length := by
  cases text with
  | nil => cases passes; simp
  | cons octet text =>
    simp only [passFraction] at passes
    split at passes
    · have shorter := passDigits_length_le passes
      simp only [List.length_cons]
      omega
    · cases passes
      exact Nat.le_refl _

theorem passWhole_length_lt
    {text rest : Bytes} (passes : passWhole text = .ok rest) :
    rest.length < text.length := by
  cases text with
  | nil => simp [passWhole] at passes
  | cons octet text =>
    simp only [passWhole] at passes
    simp only [List.length_cons]
    split at passes
    · split at passes
      · simp at passes
      · cases passes
        omega
    · split at passes
      · cases passes
        have shorter := afterDigits_length_le text
        omega
      · simp at passes

theorem passNumber_length_lt
    {text rest : Bytes} (passes : passNumber text = .ok rest) :
    rest.length < text.length := by
  unfold passNumber at passes
  cases whole : passWhole text with
  | error problem => simp [whole] at passes
  | ok afterWhole =>
    simp only [whole] at passes
    cases fraction : passFraction afterWhole with
    | error problem => simp [fraction] at passes
    | ok afterFraction =>
      simp only [fraction] at passes
      have first := passWhole_length_lt whole
      have second := passFraction_length_le fraction
      have third := passExponent_length_le passes
      omega

/-! ## Scalars -/

/-- Passes over a value that is no list and no object; the text begins with
the value. -/
def passScalar : Bytes → Except Problem Bytes
  | [] => .error .endInValue
  | octet :: rest =>
    if octet = 110 then readWord restOfNull rest
    else if octet = 116 then readWord restOfTrue rest
    else if octet = 102 then readWord restOfFalse rest
    else if octet = minus then passNumber rest
    else if Bytes.isDigit octet then passNumber (octet :: rest)
    else if octet = quote then passString .plain rest
    else .error .expectedValue

theorem passScalar_length_lt
    {text rest : Bytes} (passes : passScalar text = .ok rest) :
    rest.length < text.length := by
  cases text with
  | nil => simp [passScalar] at passes
  | cons octet text =>
    simp only [passScalar] at passes
    simp only [List.length_cons]
    split at passes
    · exact Nat.lt_succ_of_le (readWord_length_le passes)
    · split at passes
      · exact Nat.lt_succ_of_le (readWord_length_le passes)
      · split at passes
        · exact Nat.lt_succ_of_le (readWord_length_le passes)
        · split at passes
          · exact Nat.lt_succ_of_lt (passNumber_length_lt passes)
          · split at passes
            · have shorter := passNumber_length_lt passes
              simp only [List.length_cons] at shorter
              omega
            · split at passes
              · exact Nat.lt_succ_of_lt (passString_length_lt passes)
              · simp at passes

/-! ## Structures -/

/-- What is open around a value. -/
inductive Enclosure where
  | list
  | object
  deriving DecidableEq, Repr

/-- What comes next inside the open structures. -/
inductive PassPhase where
  | value
  | after
  | key
  deriving DecidableEq, Repr

/-- Passes over a key and the colon after it; the text begins with the key. -/
def passKey : Bytes → Except Problem Bytes
  | [] => .error .endInObject
  | octet :: rest =>
    if octet = quote then
      match passString .plain rest with
      | .error problem => .error problem
      | .ok rest =>
        match skipBlanks rest with
        | [] => .error .endInObject
        | octet :: rest =>
          if octet = colon then .ok rest else .error .expectedColon
    else
      .error .keyNotString

theorem passKey_length_lt
    {text rest : Bytes} (passes : passKey text = .ok rest) :
    rest.length < text.length := by
  cases text with
  | nil => simp [passKey] at passes
  | cons octet text =>
    simp only [passKey] at passes
    split at passes
    · cases string : passString .plain text with
      | error problem => simp [string] at passes
      | ok afterString =>
        simp only [string] at passes
        have first := passString_length_lt string
        have second := skipBlanks_length_le afterString
        cases blank : skipBlanks afterString with
        | nil => simp [blank] at passes
        | cons next left =>
          simp only [blank] at passes
          simp only [blank, List.length_cons] at second
          split at passes
          · cases passes
            simp only [List.length_cons]
            omega
          · simp at passes
    · simp at passes

/-- How the reading of a value goes on: it is over, or something further is
passed inside the open structures. -/
inductive PassStep where
  | finished (rest : Bytes)
  | proceed (phase : PassPhase) (stack : List Enclosure) (rest : Bytes)

/-- One step inside the open structures, on a text without white space in
front. -/
def passStep (phase : PassPhase) (stack : List Enclosure) (text : Bytes) :
    Except Problem PassStep :=
  match phase with
  | .key =>
    match passKey text with
    | .error problem => .error problem
    | .ok rest => .ok (.proceed .value stack rest)
  | .value =>
    match text with
    | [] => .error .endInValue
    | octet :: rest =>
      if octet = openList then
        match skipBlanks rest with
        | [] => .error .endInList
        | next :: left =>
          if next = closeList then .ok (.proceed .after stack left)
          else .ok (.proceed .value (.list :: stack) rest)
      else if octet = openObject then
        match skipBlanks rest with
        | [] => .error .endInObject
        | next :: left =>
          if next = closeObject then .ok (.proceed .after stack left)
          else .ok (.proceed .key (.object :: stack) rest)
      else
        match passScalar (octet :: rest) with
        | .error problem => .error problem
        | .ok left => .ok (.proceed .after stack left)
  | .after =>
    match stack, text with
    | [], text => .ok (.finished text)
    | .list :: _, [] => .error .endInList
    | .object :: _, [] => .error .endInObject
    | .list :: outer, octet :: rest =>
      if octet = comma then .ok (.proceed .value (.list :: outer) rest)
      else if octet = closeList then .ok (.proceed .after outer rest)
      else .error .expectedListCommaOrEnd
    | .object :: outer, octet :: rest =>
      if octet = comma then .ok (.proceed .key (.object :: outer) rest)
      else if octet = closeObject then .ok (.proceed .after outer rest)
      else .error .expectedObjectCommaOrEnd

/-- Every step inside the open structures passes at least one octet. -/
theorem passStep_length_lt
    {phase next : PassPhase} {stack inner : List Enclosure}
    {text rest : Bytes}
    (steps : passStep phase stack text = .ok (.proceed next inner rest)) :
    rest.length < text.length := by
  unfold passStep at steps
  split at steps
  · cases key : passKey text with
    | error problem => simp [key] at steps
    | ok left =>
      simp only [key, Except.ok.injEq, PassStep.proceed.injEq] at steps
      exact steps.2.2 ▸ passKey_length_lt key
  · split at steps
    · simp at steps
    next octet text =>
      have blanks := skipBlanks_length_le text
      simp only [List.length_cons]
      split at steps
      · split at steps
        · simp at steps
        next front left equation =>
          simp only [equation, List.length_cons] at blanks
          split at steps
          · simp only [Except.ok.injEq, PassStep.proceed.injEq] at steps
            obtain ⟨_, _, rfl⟩ := steps
            omega
          · simp only [Except.ok.injEq, PassStep.proceed.injEq] at steps
            obtain ⟨_, _, rfl⟩ := steps
            omega
      · split at steps
        · split at steps
          · simp at steps
          next front left equation =>
            simp only [equation, List.length_cons] at blanks
            split at steps
            · simp only [Except.ok.injEq, PassStep.proceed.injEq] at steps
              obtain ⟨_, _, rfl⟩ := steps
              omega
            · simp only [Except.ok.injEq, PassStep.proceed.injEq] at steps
              obtain ⟨_, _, rfl⟩ := steps
              omega
        · cases scalar : passScalar (octet :: text) with
          | error problem => simp [scalar] at steps
          | ok left =>
            simp only [scalar, Except.ok.injEq,
              PassStep.proceed.injEq] at steps
            have shorter := passScalar_length_lt scalar
            simp only [List.length_cons] at shorter
            exact steps.2.2 ▸ shorter
  · split at steps
    · simp at steps
    · simp at steps
    · simp at steps
    · simp only [List.length_cons]
      split at steps
      · simp only [Except.ok.injEq, PassStep.proceed.injEq] at steps
        exact steps.2.2 ▸ Nat.lt_succ_self _
      · split at steps
        · simp only [Except.ok.injEq, PassStep.proceed.injEq] at steps
          exact steps.2.2 ▸ Nat.lt_succ_self _
        · simp at steps
    · simp only [List.length_cons]
      split at steps
      · simp only [Except.ok.injEq, PassStep.proceed.injEq] at steps
        exact steps.2.2 ▸ Nat.lt_succ_self _
      · split at steps
        · simp only [Except.ok.injEq, PassStep.proceed.injEq] at steps
          exact steps.2.2 ▸ Nat.lt_succ_self _
        · simp at steps

/-- Passes over what is still due inside the open structures. -/
def passFrom (phase : PassPhase) (stack : List Enclosure) (text : Bytes) :
    Except Problem Bytes :=
  match _step : passStep phase stack (skipBlanks text) with
  | .error problem => .error problem
  | .ok (.finished rest) => .ok rest
  | .ok (.proceed next inner rest) => passFrom next inner rest
termination_by text.length
decreasing_by
  exact Nat.lt_of_lt_of_le (passStep_length_lt _step)
    (skipBlanks_length_le text)

/-- Only after a value, with nothing open, is the reading over. -/
theorem passStep_finished
    {phase : PassPhase} {stack : List Enclosure} {text rest : Bytes}
    (steps : passStep phase stack text = .ok (.finished rest)) :
    rest = text := by
  unfold passStep at steps
  repeat' split at steps
  all_goals simp_all

theorem passFrom_length_le
    {phase : PassPhase} {stack : List Enclosure} {text rest : Bytes}
    (passes : passFrom phase stack text = .ok rest) :
    rest.length ≤ text.length := by
  fun_induction passFrom phase stack text with
  | case1 => simp at passes
  | case2 phase stack text left step =>
    cases passes
    rw [passStep_finished step]
    exact skipBlanks_length_le text
  | case3 phase stack text next inner left step hypothesis =>
    have first := passStep_length_lt step
    have second := skipBlanks_length_le text
    have third := hypothesis passes
    omega

/-- Passes over one value. -/
def passValue (text : Bytes) : Except Problem Bytes :=
  passFrom .value [] text

end Workloads.Json
