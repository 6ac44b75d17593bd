import Workloads.Proofs.Json.Truncation
import Workloads.Proofs.Message.RoundTrip

/-!
# A message that is cut off is not accepted

Wherever a written launch specification, status, summary or listing breaks off,
within a key, an escape, a character or a number as well as between them, the
reader finds that the text ends too early: it accepts nothing, and it complains
of nothing else, such as a field that is still missing.
-/

namespace Workloads

open Json

/-! ## Parts of messages -/

theorem runsOut_port (port : UInt16) :
    Reader.port.RunsOut (writeNat port.toNat) := by
  have below := port.toNat_lt
  have runs : (Reader.integer .unsigned16).RunsOut (writeNat port.toNat) :=
    runsOut_integer (by simp [wordLimit]; omega)
      (by simp [IntegerRange.unsigned16])
      (by simp [IntegerRange.unsigned16]; omega)
  exact runs.map _

/-- A list breaks off if each of its elements breaks off or runs out. -/
theorem breaksOff_writeList {Value : Type} {reader : Reader Value}
    {write : Value → Bytes} (takes : ∀ value, reader.Takes (write value) value)
    (runs : ∀ value, reader.RunsOut (write value))
    (begins : ∀ value, Begins (write value)) (values : List Value) :
    reader.list.BreaksOff (writeList (values.map write)) := by
  refine breaksOff_list (listForm_map begins values) ?_
  intro text member
  rcases List.mem_map.mp member with ⟨value, _, rfl⟩
  exact ⟨⟨value, takes value⟩, runs value⟩

theorem breaksOff_texts (texts : List String) :
    Reader.text.list.BreaksOff (writeList (texts.map writeText)) :=
  breaksOff_writeList takes_text (fun text => (breaksOff_writeText text).runsOut)
    begins_writeText texts

theorem breaksOff_ports (ports : List UInt16) :
    Reader.port.list.BreaksOff
      (writeList (ports.map (fun port => writeNat port.toNat))) :=
  breaksOff_writeList takes_port runsOut_port
    (fun port => begins_writeNat port.toNat) ports

theorem breaksOff_environment (entries : List (String × String)) :
    Reader.text.keyMap.BreaksOff
      (writeObject
        (entries.map (fun entry => (entry.1, writeText entry.2)))) := by
  refine breaksOff_keyMap (objectForm_written _) ?_
  intro member listed
  rcases List.mem_map.mp listed with ⟨entry, _, rfl⟩
  exact ⟨⟨entry.2, takes_text entry.2⟩,
    (breaksOff_writeText entry.2).runsOut⟩

/-! ## Messages -/

theorem Status.breaksOff (status : Status) :
    Status.reader.BreaksOff status.write :=
  Status.enumeration.breaksOff_word (spells_written status.word)

theorem LaunchSpec.breaksOff {spec : LaunchSpec}
    {environment : List (String × String)}
    (perm : environment.Perm spec.environment.entries) :
    LaunchSpec.reader.BreaksOff (spec.writeInOrder environment) := by
  refine Record.breaksOff_object (objectForm_written _) (fills_members perm) ?_
  simp only [membersInOrder, List.forall_mem_cons]
  exact ⟨⟨_, rfl, (breaksOff_writeText spec.id).runsOut.map _⟩,
    ⟨_, rfl, (breaksOff_writeText spec.label).runsOut.map _⟩,
    ⟨_, rfl, (breaksOff_writeText spec.image).runsOut.map _⟩,
    ⟨_, rfl, (breaksOff_texts spec.command).runsOut.map _⟩,
    ⟨_, rfl, (breaksOff_environment environment).runsOut.map _⟩,
    ⟨_, rfl, (breaksOff_ports spec.ports).runsOut.map _⟩, nofun⟩

theorem Summary.breaksOff (summary : Summary) :
    Summary.reader.BreaksOff summary.write := by
  refine Record.breaksOff_object (objectForm_written _) summary.fills_members ?_
  simp only [members, List.forall_mem_cons]
  exact ⟨⟨_, rfl, (breaksOff_writeText summary.id).runsOut.map _⟩,
    ⟨_, rfl, summary.status.breaksOff.runsOut.map _⟩,
    ⟨_, rfl, (breaksOff_writeText summary.containerName).runsOut.map _⟩,
    ⟨_, rfl, (breaksOff_optional summary.containerId).runsOut.map _⟩,
    ⟨_, rfl, (breaksOff_optional summary.reason).runsOut.map _⟩,
    ⟨_, rfl, (breaksOff_optional summary.message).runsOut.map _⟩, nofun⟩

theorem Listing.breaksOff (listing : Listing) :
    Listing.reader.BreaksOff listing.write := by
  refine Record.breaksOff_object (objectForm_written _)
    (.known rfl rfl ((takes_texts listing.ids).map _) .done) ?_
  simp only [List.forall_mem_cons]
  exact ⟨⟨_, rfl, (breaksOff_texts listing.ids).runsOut.map _⟩, nofun⟩

/-- Every message that is cut off before its end is found to end too early, a
launch specification with its environment in any order. -/
theorem truncated_messages_end_early :
    (∀ (spec : LaunchSpec) (environment : List (String × String))
      (front : Bytes), environment.Perm spec.environment.entries →
        CutFrom front (spec.writeInOrder environment) →
          EndsEarly (LaunchSpec.reader.readAll front)) ∧
      (∀ (summary : Summary) (front : Bytes),
        CutFrom front summary.write →
          EndsEarly (Summary.reader.readAll front)) ∧
      (∀ (listing : Listing) (front : Bytes),
        CutFrom front listing.write →
          EndsEarly (Listing.reader.readAll front)) ∧
      ∀ (status : Status) (front : Bytes), CutFrom front status.write →
        EndsEarly (Status.reader.readAll front) := by
  refine ⟨?_, ?_, ?_, ?_⟩
  · intro spec environment front perm cut
    exact (LaunchSpec.breaksOff perm).readAll cut
  · intro summary front cut
    exact summary.breaksOff.readAll cut
  · intro listing front cut
    exact listing.breaksOff.readAll cut
  · intro status front cut
    exact status.breaksOff.readAll cut

/-! The launch specification with escapes, cut off within the number of its
first octet. -/

/-- The beginning of the written launch specification. -/
def cutSpec : Bytes := [
  openObject, quote, 105, 100, quote, colon, quote, backslash, unicodeLetter,
  48]

theorem truncated_messages_end_early_escaped :
    CutFrom cutSpec (escapedSpec.writeInOrder [("B", "é"), ("A", "\t")]) ∧
      EndsEarly (LaunchSpec.reader.readAll cutSpec) := by
  have perm : [("B", "é"), ("A", "\t")].Perm
      escapedSpec.environment.entries :=
    .swap ..
  have cut :
      CutFrom cutSpec (escapedSpec.writeInOrder [("B", "é"), ("A", "\t")]) := by
    refine ⟨_, ?_, rfl⟩
    exact List.cons_ne_nil _ _
  exact ⟨cut,
    truncated_messages_end_early.1 escapedSpec _ cutSpec perm cut⟩

end Workloads
