import Workloads.Message.Task
import Workloads.Proofs.Json.Forms
import Workloads.Proofs.KeyMap

/-!
# What is written is read back

Launch specifications, statuses, summaries and listings come back from their
written forms as they were: every text with all its controls, quotes and
backslashes, every list, and the environment in whatever order it was written.

A record is followed through its members: each of them finds its own field
still vacant, and the draft at the end holds the value that was written.
-/

namespace Workloads

open Json

/-! ## Lists and maps of texts -/

theorem begins_writeText (text : String) : Begins (writeText text) :=
  ⟨quote, _, rfl, rfl, by decide⟩

theorem begins_writeNat (value : Nat) : Begins (writeNat value) := by
  rcases writeNat_eq_cons value with ⟨octet, digits, written, _⟩
  have digit := isDigit_of_mem_writeNat value octet (by simp [written])
  exact ⟨octet, digits, written, solid_of_isDigit octet digit⟩

theorem listForm_map {Value : Type} {write : Value → Bytes}
    (begins : ∀ value, Begins (write value)) (values : List Value) :
    ListForm true (values.map write)
      (separated (values.map write) ++ [closeList]) := by
  refine listForm_written ?_
  intro text member
  rcases List.mem_map.mp member with ⟨value, _, rfl⟩
  exact begins value

/-- A list comes back if each of its elements does. -/
theorem takes_writeList {Value : Type} {reader : Reader Value}
    {write : Value → Bytes} (takes : ∀ value, reader.Takes (write value) value)
    (begins : ∀ value, Begins (write value)) (values : List Value) :
    reader.list.Takes (writeList (values.map write)) values := by
  have read : List.Forall₂ reader.Takes (values.map write) values := by
    rw [List.forall₂_map_left_iff]
    exact List.forall₂_same.mpr fun value _ => takes value
  exact takes_list (listForm_map begins values) read

theorem takes_texts (texts : List String) :
    Reader.text.list.Takes (writeList (texts.map writeText)) texts :=
  takes_writeList takes_text begins_writeText texts

theorem takes_ports (ports : List UInt16) :
    Reader.port.list.Takes
      (writeList (ports.map (fun port => writeNat port.toNat))) ports :=
  takes_writeList takes_port (fun port => begins_writeNat port.toNat) ports

/-- An environment comes back from its entries in any order. -/
theorem takes_environment {environment : KeyMap String}
    {entries : List (String × String)}
    (perm : entries.Perm environment.entries) :
    Reader.text.keyMap.Takes
      (writeObject
        (entries.map (fun entry => (entry.1, writeText entry.2))))
      environment := by
  have read : List.Forall₂ Reader.text.TakesMember
      (entries.map (fun entry => (entry.1, writeText entry.2))) entries := by
    rw [List.forall₂_map_left_iff]
    exact List.forall₂_same.mpr fun entry _ => ⟨rfl, takes_text entry.2⟩
  have takes := takes_keyMap (objectForm_written _) read
  rw [KeyMap.ofList_of_perm perm] at takes
  exact takes

/-! ## Statuses -/

theorem Status.takes_write (status : Status) :
    Status.reader.Takes status.write status := by
  have names : Status.enumeration.ofWord status.word = .ok status := by
    cases status <;> rfl
  exact Enumeration.takes_word names

/-! ## Records -/

namespace LaunchSpec

/-- A draft in which every field is there. -/
def drafted (spec : LaunchSpec) : Draft where
  id := some spec.id
  label := some spec.label
  image := some spec.image
  command := some spec.command
  environment := some spec.environment
  ports := some spec.ports

theorem fills_members {spec : LaunchSpec}
    {environment : List (String × String)}
    (perm : environment.Perm spec.environment.entries) :
    Record.Fills record.fields record.blank
      (spec.membersInOrder environment) spec.drafted := by
  refine .known rfl rfl ((takes_text spec.id).map _) ?_
  refine .known rfl rfl ((takes_text spec.label).map _) ?_
  refine .known rfl rfl ((takes_text spec.image).map _) ?_
  refine .known rfl rfl ((takes_texts spec.command).map _) ?_
  refine .known rfl rfl ((takes_environment perm).map _) ?_
  refine .known rfl rfl ((takes_ports spec.ports).map _) ?_
  exact .done

theorem takes_writeInOrder {spec : LaunchSpec}
    {environment : List (String × String)}
    (perm : environment.Perm spec.environment.entries) :
    reader.Takes (spec.writeInOrder environment) spec :=
  Record.takes_object (objectForm_written _) (fills_members perm) rfl

end LaunchSpec

namespace Summary

/-- A draft in which every field is there. -/
def drafted (summary : Summary) : Draft where
  id := some summary.id
  status := some summary.status
  containerName := some summary.containerName
  containerId := some summary.containerId
  reason := some summary.reason
  message := some summary.message

theorem fills_members (summary : Summary) :
    Record.Fills record.fields record.blank summary.members
      summary.drafted := by
  refine .known rfl rfl ((takes_text summary.id).map _) ?_
  refine .known rfl rfl (summary.status.takes_write.map _) ?_
  refine .known rfl rfl ((takes_text summary.containerName).map _) ?_
  refine .known rfl rfl ((takes_optional summary.containerId).map _) ?_
  refine .known rfl rfl ((takes_optional summary.reason).map _) ?_
  refine .known rfl rfl ((takes_optional summary.message).map _) ?_
  exact .done

theorem takes_write (summary : Summary) :
    reader.Takes summary.write summary :=
  Record.takes_object (objectForm_written _) summary.fills_members rfl

end Summary

theorem Listing.takes_write (listing : Listing) :
    Listing.reader.Takes listing.write listing :=
  Record.takes_object (objectForm_written _)
    (.known rfl rfl ((takes_texts listing.ids).map _) .done) rfl

/-! ## All messages -/

/-- Every message is read back from its written form as it was, a launch
specification with its environment in any order. -/
theorem written_messages_read_back :
    (∀ (spec : LaunchSpec) (environment : List (String × String)),
      environment.Perm spec.environment.entries →
        LaunchSpec.reader.readAll (spec.writeInOrder environment) =
          .ok spec) ∧
      (∀ summary : Summary,
        Summary.reader.readAll summary.write = .ok summary) ∧
      (∀ listing : Listing,
        Listing.reader.readAll listing.write = .ok listing) ∧
      ∀ status : Status, Status.reader.readAll status.write = .ok status := by
  refine ⟨?_, ?_, ?_, ?_⟩
  · intro spec environment perm
    exact (LaunchSpec.takes_writeInOrder perm).readAll
  · intro summary
    exact summary.takes_write.readAll
  · intro listing
    exact listing.takes_write.readAll
  · intro status
    exact status.takes_write.readAll

/-! A launch specification with controls, quotes and backslashes in its texts,
and its environment written in the order that the map does not keep. -/

/-- A launch specification whose texts need escapes. -/
def escapedSpec : LaunchSpec where
  id := "\x00\n"
  label := "\"\\\u2028"
  command := ["", "\x1f"]
  environment := ⟨[("A", "\t"), ("B", "é")], by decide⟩
  ports := [0, 65535]

theorem written_messages_read_back_escaped :
    [("B", "é"), ("A", "\t")].Perm escapedSpec.environment.entries ∧
      LaunchSpec.reader.readAll
          (escapedSpec.writeInOrder [("B", "é"), ("A", "\t")]) =
        .ok escapedSpec := by
  have perm : [("B", "é"), ("A", "\t")].Perm
      escapedSpec.environment.entries :=
    .swap ..
  exact ⟨perm, written_messages_read_back.1 escapedSpec _ perm⟩

end Workloads
