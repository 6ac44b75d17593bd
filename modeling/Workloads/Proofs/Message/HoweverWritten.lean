import Workloads.Message.Task
import Workloads.Proofs.Json.Members

/-!
# Messages are read however they are written

A message is what its known members say, in whatever order they stand, however
their keys are spelled, with any white space between the tokens and with any
JSON under other keys.  What is missing is empty or none.  A list of all fields
in their order is the same message as the object.
-/

namespace Workloads

open Json

/-! ## Launch specifications -/

namespace LaunchSpec

/-- What members say of a launch specification. -/
def slots (spec : LaunchSpec) : List Slot := [
  { name := "id", holds := Reader.text.Required spec.id },
  { name := "name", holds := Reader.text.Required spec.label },
  { name := "image_name", holds := Reader.text.Defaulted "" spec.image },
  { name := "commands", holds := Reader.text.list.Defaulted [] spec.command },
  { name := "env"
    holds := Reader.text.keyMap.Defaulted ∅ spec.environment },
  { name := "ports", holds := Reader.port.list.Defaulted [] spec.ports }]

theorem steady_port : Reader.port.Steady :=
  (steady_integer .unsigned16).map _

theorem orderly : Record.Orderly record.fields where
  steady := by
    simp only [record, List.forall_mem_cons]
    exact ⟨steady_text.map _, steady_text.map _, steady_text.map _,
      steady_text.list.map _, steady_text.keyMap.map _,
      steady_port.list.map _, nofun⟩
  fills := by
    simp only [record, List.forall_mem_cons]
    and_intros
    all_goals first
      | exact Record.filled_of_map rfl fun _ _ => rfl
      | exact nofun
  apart := by
    simp only [record, List.pairwise_cons, List.forall_mem_cons]
    and_intros
    all_goals first
      | exact .of_map rfl rfl (by decide) (fun _ _ _ => rfl)
          (fun _ _ => rfl) (fun _ _ => rfl)
      | exact .nil
      | exact nofun

/-- The fields of a launch specification fill a draft in turn. -/
theorem fillsInTurn (spec : LaunchSpec) (texts : String → List Bytes)
    (holds : ∀ slot ∈ spec.slots, slot.holds (texts slot.name)) :
    ∃ filled, Record.FillsInTurn texts record.fields record.blank filled ∧
      record.build filled = .ok spec := by
  simp only [slots, List.forall_mem_cons] at holds
  rcases holds with ⟨id, label, ⟨image, hasImage, isImage⟩,
    ⟨command, hasCommand, isCommand⟩,
    ⟨environment, hasEnvironment, isEnvironment⟩,
    ⟨ports, hasPorts, isPorts⟩, _⟩
  refine ⟨{
      id := some spec.id
      label := some spec.label
      image, command, environment, ports }, ?_, ?_⟩
  · refine .given id rfl steady_text
      (fun id draft => { draft with id }) rfl (fun _ => rfl) rfl ?_
    refine .given label rfl steady_text
      (fun label draft => { draft with label }) rfl (fun _ => rfl) rfl ?_
    refine .given hasImage rfl steady_text
      (fun image draft => { draft with image }) rfl (fun _ => rfl) rfl ?_
    refine .given hasCommand rfl steady_text.list
      (fun command draft => { draft with command }) rfl (fun _ => rfl) rfl ?_
    refine .given hasEnvironment rfl steady_text.keyMap
      (fun environment draft => { draft with environment }) rfl (fun _ => rfl) rfl ?_
    refine .given hasPorts rfl steady_port.list
      (fun ports draft => { draft with ports }) rfl (fun _ => rfl) rfl ?_
    exact .done
  · simp only [record, isImage, isCommand, isEnvironment, isPorts]

theorem readsHoweverWritten : reader.ReadsHoweverWritten slots :=
  Record.readsHoweverWritten orderly (fun _ => rfl) fillsInTurn

end LaunchSpec

/-! ## Summaries -/

namespace Summary

/-- What members say of a summary. -/
def slots (summary : Summary) : List Slot := [
  { name := "id", holds := Reader.text.Required summary.id },
  { name := "status", holds := Status.reader.Required summary.status },
  { name := "container_name"
    holds := Reader.text.Required summary.containerName },
  { name := "container_id"
    holds := Reader.text.Optionally summary.containerId },
  { name := "termination_reason"
    holds := Reader.text.Optionally summary.reason },
  { name := "termination_message"
    holds := Reader.text.Optionally summary.message }]

theorem orderly : Record.Orderly record.fields where
  steady := by
    simp only [record, List.forall_mem_cons]
    exact ⟨steady_text.map _, (Enumeration.steady _).map _,
      steady_text.map _, steady_text.nullable.map _,
      steady_text.nullable.map _, steady_text.nullable.map _, nofun⟩
  fills := by
    simp only [record, List.forall_mem_cons]
    and_intros
    all_goals first
      | exact Record.filled_of_map rfl fun _ _ => rfl
      | exact nofun
  apart := by
    simp only [record, List.pairwise_cons, List.forall_mem_cons]
    and_intros
    all_goals first
      | exact .of_map rfl rfl (by decide) (fun _ _ _ => rfl)
          (fun _ _ => rfl) (fun _ _ => rfl)
      | exact .nil
      | exact nofun

/-- The fields of a summary fill a draft in turn. -/
theorem fillsInTurn (summary : Summary) (texts : String → List Bytes)
    (holds : ∀ slot ∈ summary.slots, slot.holds (texts slot.name)) :
    ∃ filled, Record.FillsInTurn texts record.fields record.blank filled ∧
      record.build filled = .ok summary := by
  simp only [slots, List.forall_mem_cons] at holds
  rcases holds with ⟨id, status, containerName, container, reason,
    message, _⟩
  rcases container.defaulted steady_text unlike_text with
    ⟨containerId, hasContainer, isContainer⟩
  rcases reason.defaulted steady_text unlike_text with
    ⟨why, hasReason, isReason⟩
  rcases message.defaulted steady_text unlike_text with
    ⟨words, hasMessage, isMessage⟩
  refine ⟨{
      id := some summary.id
      status := some summary.status
      containerName := some summary.containerName
      containerId, reason := why, message := words }, ?_, ?_⟩
  · refine .given id rfl steady_text
      (fun id draft => { draft with id }) rfl (fun _ => rfl) rfl ?_
    refine .given status rfl (Enumeration.steady _)
      (fun status draft => { draft with status }) rfl (fun _ => rfl) rfl ?_
    refine .given containerName rfl steady_text
      (fun containerName draft => { draft with containerName }) rfl (fun _ => rfl) rfl ?_
    refine .given hasContainer rfl steady_text.nullable
      (fun containerId draft => { draft with containerId }) rfl (fun _ => rfl) rfl ?_
    refine .given hasReason rfl steady_text.nullable
      (fun reason draft => { draft with reason }) rfl (fun _ => rfl) rfl ?_
    refine .given hasMessage rfl steady_text.nullable
      (fun message draft => { draft with message }) rfl (fun _ => rfl) rfl ?_
    exact .done
  · simp only [record, isContainer, isReason, isMessage]

theorem readsHoweverWritten : reader.ReadsHoweverWritten slots :=
  Record.readsHoweverWritten orderly (fun _ => rfl) fillsInTurn

end Summary

/-! ## Listings -/

namespace Listing

/-- What members say of a listing. -/
def slots (listing : Listing) : List Slot := [
  { name := "ids", holds := Reader.text.list.Required listing.ids }]

theorem orderly : Record.Orderly record.fields where
  steady := by
    simp only [record, List.forall_mem_singleton]
    exact steady_text.list.map _
  fills := by
    simp only [record, List.forall_mem_singleton]
    exact Record.filled_of_map rfl fun _ _ => rfl
  apart := List.pairwise_singleton _ _

/-- The field of a listing fills the draft. -/
theorem fillsInTurn (listing : Listing) (texts : String → List Bytes)
    (holds : ∀ slot ∈ listing.slots, slot.holds (texts slot.name)) :
    ∃ filled, Record.FillsInTurn texts record.fields record.blank filled ∧
      record.build filled = .ok listing := by
  simp only [slots, List.forall_mem_singleton] at holds
  refine ⟨some listing.ids, ?_, rfl⟩
  exact .given holds rfl steady_text.list (fun ids _ => ids) rfl
    (fun _ => rfl) rfl .done

theorem readsHoweverWritten : reader.ReadsHoweverWritten slots :=
  Record.readsHoweverWritten orderly (fun _ => rfl) fillsInTurn

end Listing

/-! ## Stop requests -/

namespace StopRequest

/-- What members say of a stop request. -/
def slots (request : StopRequest) : List Slot := [
  { name := "timeout", holds := Reader.word.Optionally request.timeout },
  { name := "reason", holds := Reader.text.Optionally request.reason },
  { name := "message", holds := Reader.text.Optionally request.message }]

theorem steady_word : Reader.word.Steady :=
  (steady_integer .unsigned64).map _

theorem orderly : Record.Orderly record.fields where
  steady := by
    simp only [record, List.forall_mem_cons]
    exact ⟨steady_word.nullable.map _, steady_text.nullable.map _,
      steady_text.nullable.map _, nofun⟩
  fills := by
    simp only [record, List.forall_mem_cons]
    and_intros
    all_goals first
      | exact Record.filled_of_map rfl fun _ _ => rfl
      | exact nofun
  apart := by
    simp only [record, List.pairwise_cons, List.forall_mem_cons]
    and_intros
    all_goals first
      | exact .of_map rfl rfl (by decide) (fun _ _ _ => rfl)
          (fun _ _ => rfl) (fun _ _ => rfl)
      | exact .nil
      | exact nofun

/-- The fields of a stop request fill a draft in turn. -/
theorem fillsInTurn (request : StopRequest) (texts : String → List Bytes)
    (holds : ∀ slot ∈ request.slots, slot.holds (texts slot.name)) :
    ∃ filled, Record.FillsInTurn texts record.fields record.blank filled ∧
      record.build filled = .ok request := by
  simp only [slots, List.forall_mem_cons] at holds
  rcases holds with ⟨time, reason, message, _⟩
  rcases time.defaulted steady_word unlike_word with
    ⟨timeout, hasTimeout, isTimeout⟩
  rcases reason.defaulted steady_text unlike_text with
    ⟨why, hasReason, isReason⟩
  rcases message.defaulted steady_text unlike_text with
    ⟨words, hasMessage, isMessage⟩
  refine ⟨{ timeout, reason := why, message := words }, ?_, ?_⟩
  · refine .given hasTimeout rfl steady_word.nullable
      (fun timeout draft => { draft with timeout }) rfl (fun _ => rfl) rfl ?_
    refine .given hasReason rfl steady_text.nullable
      (fun reason draft => { draft with reason }) rfl (fun _ => rfl) rfl ?_
    refine .given hasMessage rfl steady_text.nullable
      (fun message draft => { draft with message }) rfl (fun _ => rfl) rfl ?_
    exact .done
  · simp only [record, isTimeout, isReason, isMessage]

theorem readsHoweverWritten : reader.ReadsHoweverWritten slots :=
  Record.readsHoweverWritten orderly (fun _ => rfl) fillsInTurn

theorem isSpace_iff {octet : UInt8} :
    isSpace octet = true ↔ octet ∈ [32, 9, 10, 12, 13] := by
  simp [isSpace, or_assoc]

end StopRequest

/-! ## All messages -/

/-- Every message is read however it is written: from each object whose members
hold what it says, and from each list of all its fields.  The body of a stop
request is read in this way if it is not white space alone, and asks for the
same as the empty object if it is. -/
theorem messages_read_however_written :
    LaunchSpec.reader.ReadsHoweverWritten LaunchSpec.slots ∧
      Summary.reader.ReadsHoweverWritten Summary.slots ∧
      Listing.reader.ReadsHoweverWritten Listing.slots ∧
      StopRequest.reader.ReadsHoweverWritten StopRequest.slots ∧
      (∀ body : Bytes, (∃ octet ∈ body, octet ∉ [32, 9, 10, 12, 13]) →
        StopRequest.ofBody body = StopRequest.reader.readAll body) ∧
      ∀ body : Bytes, (∀ octet ∈ body, octet ∈ [32, 9, 10, 12, 13]) →
        StopRequest.ofBody body = .ok {} ∧
          StopRequest.reader.readAll [openObject, closeObject] = .ok {} := by
  refine ⟨LaunchSpec.readsHoweverWritten, Summary.readsHoweverWritten,
    Listing.readsHoweverWritten, StopRequest.readsHoweverWritten, ?_, ?_⟩
  · rintro body ⟨octet, member, solid⟩
    refine if_neg ?_
    rw [List.all_eq_true]
    exact fun all => solid (StopRequest.isSpace_iff.mp (all octet member))
  · intro body blank
    have all : body.all StopRequest.isSpace = true :=
      List.all_eq_true.mpr fun octet member =>
        StopRequest.isSpace_iff.mpr (blank octet member)
    have empty :
        IsObject [] ([] ++ openObject :: ([] ++ [closeObject] ++ [])) :=
      .braces isGap_nil (.closed isGap_nil) isGap_nil
    have nothing : Describes [] (StopRequest.slots {}) := by
      refine ⟨?_, nofun⟩
      simp only [StopRequest.slots, List.forall_mem_cons]
      exact ⟨.missing, .missing, .missing, nofun⟩
    exact ⟨if_pos all,
      StopRequest.readsHoweverWritten.object nothing empty⟩

/-! A launch specification with its label first, spelled with the number of a
letter, and with a value between its members that nobody needs: a list of an
object with half of a surrogate pair and of a number. -/

/-- The list that nobody needs. -/
def idleValue : Bytes := [
  openList, openObject, quote, 107, quote, colon, quote, backslash,
  unicodeLetter, 100, 56, 48, 48, quote, closeObject, comma, minus, 49, 46, 53,
  101, 51, closeList]

/-- The members of the odd text. -/
def oddMembers : List (String × Bytes) := [
  ("name", writeText "b"), ("x", idleValue), ("id", writeText "a")]

/-- A text with white space in many places. -/
def oddText : Bytes :=
  [32, openObject, 10, quote, backslash, unicodeLetter, 48, 48, 54, 101, 97,
    109, 101, quote, colon, quote, 98, quote, comma, quote, 120, quote, 9,
    colon, 32] ++ idleValue ++
  [comma, 13, quote, 105, 100, quote, colon, quote, 97, quote, 32, closeObject,
    10]

theorem idleValue_value : Grammar .value idleValue := by
  have key : IsString [107] := .plain (by decide) .nil
  have half : IsString [backslash, unicodeLetter, 100, 56, 48, 48] :=
    .unit rfl .nil
  have object : Grammar .value _ :=
    .object (.member (.opening isGap_nil) key isGap_nil isGap_nil
      (.scalar (.string half)) (.objectEnd isGap_nil))
  have number : IsMagnitude ([49] ++ ([46, 53] ++ [101, 51])) _ :=
    .parts (.digits (by decide) (by decide)) (.some (by decide))
      (.bare (by decide) (by decide))
  have list : Grammar .value _ :=
    .list (.element (.opening isGap_nil) object
      (.element separates_comma (.scalar (.negative number))
        (.listEnd isGap_nil)))
  exact list

theorem oddText_object : IsObject oddMembers oddText := by
  have label : Spelling
      [backslash, unicodeLetter, 48, 48, 54, 101, 97, 109, 101]
      (Bytes.ofText "name") := by
    have letters : Spelling [97, 109, 101] [97, 109, 101] :=
      .plain (by decide) (.plain (by decide) (.plain (by decide) .nil))
    have number : hexNumber? [48, 48, 54, 101] = some ('n').toNat := rfl
    exact .unit (by decide) number letters
  have idle : Spelling [120] (Bytes.ofText "x") := .plain (by decide) .nil
  have id : Spelling [105, 100] (Bytes.ofText "id") :=
    .plain (by decide) (.plain (by decide) .nil)
  have space : IsGap [32] := by decide
  have tab : IsGap [9] := by decide
  have line : IsGap [10] := by decide
  have feed : IsGap [13] := by decide
  have body : ObjectBody true oddMembers _ :=
    .member (.opening line) label isGap_nil isGap_nil
      (.member separates_comma idle tab space
        (.member (.between isGap_nil feed) id isGap_nil isGap_nil
          (.closed space)))
  have whole : IsObject oddMembers _ := .braces space body line
  exact whole

theorem oddMembers_describe :
    Describes oddMembers (LaunchSpec.slots { id := "a", label := "b" }) where
  known := by
    simp only [LaunchSpec.slots, List.forall_mem_cons]
    exact ⟨.present (takes_text "a").decodes,
      .present (takes_text "b").decodes, ⟨none, .missing, rfl⟩,
      ⟨none, .missing, rfl⟩, ⟨none, .missing, rfl⟩, ⟨none, .missing, rfl⟩,
      nofun⟩
  unknown := by
    simp only [oddMembers, List.forall_mem_cons]
    refine ⟨?_, ?_, ?_, nofun⟩
    · intro unnamed
      exact absurd rfl (unnamed _ (.tail _ (.head _)))
    · exact fun _ => idleValue_value
    · intro unnamed
      exact absurd rfl (unnamed _ (.head _))

/-- The texts of the fields of the same launch specification. -/
def listedTexts : List Bytes := [
  writeText "a", writeText "b", writeText "", [openList, closeList],
  [openObject, closeObject], [openList, closeList]]

theorem writeList_listedTexts : IsList listedTexts (writeList listedTexts) := by
  have begins : ∀ text ∈ listedTexts, Begins text := by
    simp only [listedTexts, List.forall_mem_cons]
    exact ⟨⟨quote, _, rfl, by decide⟩, ⟨quote, _, rfl, by decide⟩,
      ⟨quote, _, rfl, by decide⟩, ⟨openList, _, rfl, by decide⟩,
      ⟨openObject, _, rfl, by decide⟩, ⟨openList, _, rfl, by decide⟩, nofun⟩
  have list : IsList listedTexts
      ([] ++ openList :: (separated listedTexts ++ [closeList] ++ [])) :=
    .brackets isGap_nil (listForm_written begins) isGap_nil
  rwa [List.nil_append, List.append_nil] at list

theorem listedTexts_hold :
    List.Forall₂ (fun slot text => slot.holds [text])
      (LaunchSpec.slots { id := "a", label := "b" }) listedTexts := by
  have commands : Reader.text.list.Takes [openList, closeList] [] :=
    takes_list (.closed isGap_nil) .nil
  have environment : Reader.text.keyMap.Takes [openObject, closeObject] ∅ :=
    takes_keyMap (.closed isGap_nil) .nil
  have ports : Reader.port.list.Takes [openList, closeList] [] :=
    takes_list (.closed isGap_nil) .nil
  refine .cons (.present (takes_text "a").decodes)
    (.cons (.present (takes_text "b").decodes) ?_)
  refine .cons ⟨_, .present (takes_text "").decodes, rfl⟩ ?_
  refine .cons ⟨_, .present commands.decodes, rfl⟩ ?_
  refine .cons ⟨_, .present environment.decodes, rfl⟩ ?_
  exact .cons ⟨_, .present ports.decodes, rfl⟩ .nil

theorem messages_read_however_written_odd :
    LaunchSpec.reader.readAll oddText = .ok { id := "a", label := "b" } ∧
      LaunchSpec.reader.readAll (writeList listedTexts) =
        .ok { id := "a", label := "b" } :=
  ⟨messages_read_however_written.1.object oddMembers_describe oddText_object,
    messages_read_however_written.1.list listedTexts_hold
      writeList_listedTexts⟩

end Workloads
