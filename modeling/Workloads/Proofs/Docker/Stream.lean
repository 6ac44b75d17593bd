import Workloads.Docker.Daemon
import Workloads.Proofs.Json.Truncation

/-!
# The stream of a pull

A daemon that replies to a pull writes its steps line by line.  The stream comes
to its reader in portions that do not keep to the lines: a line may arrive in
pieces, and without its end.  Nevertheless the items of the pull are the steps
that were written, in their order, however long the stream is and wherever the
portions fall.
-/

namespace Workloads.Docker

open Json

/-! ## Written steps -/

/-- A step of a pull as the daemon writes it. -/
def Progress.write (step : Progress) : Bytes :=
  writeObject [
    ("status", writeOptional step.status),
    ("error", writeOptional step.error)]

/-- Steps of a pull, each on a line of its own. -/
def writeSteps (steps : List Progress) : Bytes :=
  steps.flatMap (fun step => step.write ++ [Intake.lineFeed])

/-- The reply to a pull that comes to these steps. -/
def Reply.ofSteps (steps : List Progress) : Reply where
  status := 200
  body := writeSteps steps

theorem writeSteps_cons (step : Progress) (steps : List Progress) :
    writeSteps (step :: steps) =
      step.write ++ Intake.lineFeed :: writeSteps steps := by
  simp [writeSteps]

theorem lineFeed_not_mem_writeOctet :
    ∀ octet : UInt8, Intake.lineFeed ∉ writeOctet octet :=
  Bytes.forall_octet (by decide +kernel)

theorem lineFeed_not_mem_writeText (text : String) :
    Intake.lineFeed ∉ writeText text := by
  have plain := fun octet (_ : octet ∈ Bytes.ofText text) =>
    lineFeed_not_mem_writeOctet octet
  have other : Intake.lineFeed ≠ quote := by decide
  simpa [writeText, other] using plain

theorem lineFeed_not_mem_writeOptional (text : Option String) :
    Intake.lineFeed ∉ writeOptional text := by
  cases text with
  | none => decide
  | some text => exact lineFeed_not_mem_writeText text

namespace Progress

variable (step : Progress)

/-- A line holds a step whole. -/
theorem lineFeed_not_mem_write : Intake.lineFeed ∉ step.write := by
  have signs : Intake.lineFeed ≠ openObject ∧
      Intake.lineFeed ≠ closeObject ∧ Intake.lineFeed ≠ comma ∧
      Intake.lineFeed ≠ colon := by
    decide
  simp [write, writeObject, separated, writeMember, signs,
    lineFeed_not_mem_writeText, lineFeed_not_mem_writeOptional]

/-- A draft of a written step. -/
def drafted : ProgressDraft where
  status := some step.status
  error := some step.error

theorem fills_write :
    Record.Fills progressRecord.fields progressRecord.blank
      [("status", writeOptional step.status),
        ("error", writeOptional step.error)] step.drafted := by
  refine .known rfl rfl ((takes_optional step.status).map _) ?_
  refine .known rfl rfl ((takes_optional step.error).map _) ?_
  exact .done

theorem takes_write : progressRecord.reader.Takes step.write step :=
  Record.takes_object (objectForm_written _) step.fills_write rfl

theorem breaksOff_write : progressRecord.reader.BreaksOff step.write := by
  refine Record.breaksOff_object (objectForm_written _) step.fills_write ?_
  simp only [List.forall_mem_cons]
  exact ⟨⟨_, rfl, (breaksOff_optional step.status).runsOut.map _⟩,
    ⟨_, rfl, (breaksOff_optional step.error).runsOut.map _⟩, nofun⟩

theorem readPullPiece_write : readPullPiece step.write = .item step := by
  have takes : progressRecord.reader.nullable.Takes step.write (some step) :=
    step.takes_write.nullable rfl (by decide)
  rw [readPullPiece, takes.readAll]

/-- A step that is cut off is unfinished. -/
theorem readPullPiece_cut {front : Bytes} (cut : CutFrom front step.write) :
    readPullPiece front = .unfinished := by
  have breaks : progressRecord.reader.nullable.BreaksOff step.write :=
    step.breaksOff_write.nullable rfl (by decide)
  rcases breaks.readAll cut with ⟨fault, early, truncated⟩
  rw [readPullPiece, early]
  simp only [truncated]

end Progress

/-! ## Looking at an intake -/

namespace Intake

variable {intake : Intake}

/-- A line with its end is the first line, and what is behind it stands behind
its end. -/
theorem line?_of_octets {line rest : Bytes}
    (octets : intake.octets = line ++ lineFeed :: rest)
    (plain : lineFeed ∉ line) :
    intake.line? = some line ∧
      (intake.behind line.length).octets = rest := by
  have before : ∀ octet ∈ line, decide (octet ≠ lineFeed) = true := by
    intro octet member
    rw [decide_eq_true_iff]
    rintro rfl
    exact plain member
  constructor
  · have held : intake.octets.contains lineFeed = true := by
      simp [octets]
    rw [line?, if_pos held, octets, List.takeWhile_append_of_pos before]
    simp
  · have cut : line ++ lineFeed :: rest = (line ++ [lineFeed]) ++ rest := by
      simp
    rw [behind, octets, cut]
    exact List.drop_left' (by simp)

theorem line?_of_plain (plain : lineFeed ∉ intake.octets) :
    intake.line? = none := by
  simp [line?, plain]

/-- A step is taken out with the end of its line, -/
theorem look_step {step : Progress} {rest : Bytes}
    (octets : intake.octets = step.write ++ lineFeed :: rest) :
    ∃ left, intake.look = .step step left ∧ left.octets = rest := by
  rcases line?_of_octets octets step.lineFeed_not_mem_write with
    ⟨line, behind⟩
  refine ⟨_, ?_, behind⟩
  rw [look, line]
  simp only [step.readPullPiece_write]

/-- or without it if that has not arrived. -/
theorem look_unended {step : Progress} (octets : intake.octets = step.write) :
    ∃ left, intake.look = .step step left ∧ left.octets = [] := by
  have plain := step.lineFeed_not_mem_write
  rw [← octets] at plain
  refine ⟨intake.clear, ?_, rfl⟩
  rw [look, line?_of_plain plain, octets]
  simp only [step.readPullPiece_write]

/-- A step that has not arrived whole is left as it is. -/
theorem look_cut {step : Progress}
    (cut : CutFrom intake.octets step.write) :
    intake.look = .nothing intake := by
  have plain : lineFeed ∉ intake.octets := by
    rcases cut with ⟨back, _, whole⟩
    have plain := step.lineFeed_not_mem_write
    rw [whole] at plain
    exact fun member => plain (List.mem_append_left back member)
  rw [look, line?_of_plain plain]
  simp only [step.readPullPiece_cut cut]

theorem look_nil (octets : intake.octets = []) :
    intake.look = .nothing intake := by
  have nothing : readPullPiece [] = .unfinished := by
    decide +kernel
  rw [look, line?_of_plain (by simp [octets]), octets]
  simp only [nothing]

/-- The end of a line that was taken out without it is passed over. -/
theorem look_lineFeed {rest : Bytes}
    (octets : intake.octets = lineFeed :: rest) :
    ∃ left, intake.look = .nothing left ∧ left.octets = rest := by
  have nothing : readPullPiece [] = .unfinished := by
    decide +kernel
  have empty : intake.octets = [] ++ lineFeed :: rest := octets
  rcases line?_of_octets empty List.not_mem_nil with ⟨line, behind⟩
  refine ⟨_, ?_, behind⟩
  rw [look, line]
  simp only [nothing, joinLine]
  rfl

/-! ## Taking in -/

theorem octets_makeRoom (intake : Intake) :
    intake.makeRoom.octets = intake.octets := by
  simp only [makeRoom]
  split_ifs <;> rfl

/-- There is always room for another octet. -/
theorem length_lt_limit_makeRoom (intake : Intake) :
    intake.octets.length < intake.makeRoom.limit := by
  simp only [makeRoom]
  split_ifs with room used closed
  · exact room
  · exact Nat.lt_succ_self _
  · simp at closed
    exact closed.1
  · simp only []
    omega

/-- Some of a portion is taken in, and the rest waits in front of the portions
behind it. -/
theorem takeIn_split (intake : Intake) {portion : Bytes} {rest : List Bytes}
    (nonempty : ∀ other ∈ portion :: rest, other ≠ []) :
    ∃ taken later,
      taken ≠ [] ∧ (intake.takeIn portion).1.octets = intake.octets ++ taken ∧
        (if (intake.takeIn portion).2.isEmpty then rest
          else (intake.takeIn portion).2 :: rest) = later ∧
        (portion :: rest).flatten = taken ++ later.flatten ∧
        ∀ other ∈ later, other ≠ [] := by
  have room := length_lt_limit_makeRoom intake
  rw [List.forall_mem_cons] at nonempty
  have split := List.take_append_drop
    (intake.makeRoom.limit - intake.octets.length) portion
  simp only [takeIn, octets_makeRoom]
  refine ⟨_, _, ?_, rfl, rfl, ?_, ?_⟩
  · rw [Ne, List.take_eq_nil_iff, not_or]
    exact ⟨by omega, nonempty.1⟩
  · split_ifs with none
    · rw [List.isEmpty_iff] at none
      rw [none, List.append_nil] at split
      rw [split, List.flatten_cons]
    · rw [List.flatten_cons, List.flatten_cons, ← List.append_assoc, split]
  · split_ifs with none
    · exact nonempty.2
    · rw [List.forall_mem_cons]
      exact ⟨fun empty => none (List.isEmpty_iff.mpr empty), nonempty.2⟩

end Intake

/-! ## Items -/

theorem length_le_writeSteps (steps : List Progress) :
    steps.length ≤ (writeSteps steps).length := by
  induction steps with
  | nil => exact Nat.zero_le _
  | cons step steps hypothesis =>
      rw [writeSteps_cons, List.length_append, List.length_cons,
        List.length_cons]
      omega

theorem lastItems_writeSteps {steps : List Progress} {fuel : Nat}
    {intake : Intake} (octets : intake.octets = writeSteps steps)
    (enough : steps.length < fuel) :
    lastItems fuel intake = steps.map Progress.item := by
  induction steps generalizing fuel intake with
  | nil =>
      rcases Nat.exists_eq_succ_of_ne_zero (by omega : fuel ≠ 0) with
        ⟨fuel, rfl⟩
      rw [lastItems, Intake.look_nil octets]
      simp [octets, writeSteps]
  | cons step steps hypothesis =>
      rw [writeSteps_cons] at octets
      rw [List.length_cons] at enough
      rcases Nat.exists_eq_succ_of_ne_zero (by omega : fuel ≠ 0) with
        ⟨fuel, rfl⟩
      rcases Intake.look_step octets with ⟨left, look, behind⟩
      rw [lastItems, look, List.map_cons]
      simp only [hypothesis behind (Nat.lt_of_succ_lt_succ enough)]

/-- What has arrived and what is to arrive are written steps, perhaps behind the
end of a line whose step was taken out before. -/
inductive Pending (arrived coming : Bytes) (steps : List Progress) : Prop where
  | lines (whole : arrived ++ coming = writeSteps steps)
  | ended (whole : arrived ++ coming = Intake.lineFeed :: writeSteps steps)

/-- A line that is to arrive has been cut off, is there without its end, or is
there. -/
theorem line_cases {arrived coming line more : Bytes}
    (whole : arrived ++ coming = line ++ Intake.lineFeed :: more) :
    (CutFrom arrived line ∧ coming ≠ []) ∨
      (arrived = line ∧ coming = Intake.lineFeed :: more) ∨
      ∃ rest, arrived = line ++ Intake.lineFeed :: rest ∧
        rest ++ coming = more := by
  rcases List.append_eq_append_iff.mp whole with
    ⟨back, rfl, rfl⟩ | ⟨beyond, rfl, later⟩
  · cases back with
    | nil => exact .inr (.inl ⟨(List.append_nil _).symm, rfl⟩)
    | cons octet back =>
        exact .inl ⟨⟨octet :: back, nofun, rfl⟩, nofun⟩
  · cases beyond with
    | nil => exact .inr (.inl ⟨List.append_nil _, later.symm⟩)
    | cons octet rest =>
        cases later
        exact .inr (.inr ⟨rest, rfl, rfl⟩)

/-- Whether so much fuel brings out all the steps that it has to: an octet takes
two units while it is to arrive and one when it has arrived. -/
def BringsOut (fuel : Nat) : Prop :=
  ∀ (steps : List Progress) (intake : Intake) (incoming : List Bytes),
    (∀ portion ∈ incoming, portion ≠ []) →
    Pending intake.octets incoming.flatten steps →
    intake.octets.length + 2 * incoming.flatten.length < fuel →
      pullItems fuel intake incoming = steps.map Progress.item

section

variable {fuel : Nat} {intake left : Intake} {incoming : List Bytes}
  {steps : List Progress}

/-- A step that can be read is taken out. -/
theorem BringsOut.step (bringsOut : BringsOut fuel) {step : Progress}
    (look : intake.look = .step step left)
    (nonempty : ∀ portion ∈ incoming, portion ≠ [])
    (pending : Pending left.octets incoming.flatten steps)
    (enough : left.octets.length + 2 * incoming.flatten.length < fuel) :
    pullItems (fuel + 1) intake incoming =
      (step :: steps).map Progress.item := by
  rw [pullItems, look, List.map_cons]
  simp only [bringsOut steps left incoming nonempty pending enough]

/-- Where no step can be read, a portion is taken in, or all is there. -/
theorem BringsOut.wait (bringsOut : BringsOut fuel)
    (look : intake.look = .nothing left)
    (nonempty : ∀ portion ∈ incoming, portion ≠ [])
    (pending : Pending left.octets incoming.flatten steps)
    (last : incoming = [] → left.octets = writeSteps steps)
    (enough : left.octets.length + 2 * incoming.flatten.length < fuel + 1) :
    pullItems (fuel + 1) intake incoming = steps.map Progress.item := by
  rw [pullItems, look]
  cases incoming with
  | nil =>
      refine lastItems_writeSteps (last rfl) (Nat.lt_succ_of_le ?_)
      rw [last rfl]
      exact length_le_writeSteps steps
  | cons portion rest =>
      rcases left.takeIn_split nonempty with
        ⟨taken, later, held, octets, queue, split, nonempty⟩
      have positive := List.length_pos_of_ne_nil held
      rw [split] at pending enough
      rw [List.length_append] at enough
      simp only [queue]
      refine bringsOut steps _ later nonempty ?_ ?_
      · rw [octets]
        cases pending with
        | lines whole => exact .lines (by simpa using whole)
        | ended whole => exact .ended (by simpa using whole)
      · rw [octets, List.length_append]
        omega

end

/-- Any fuel does, by induction on it: what is left after a step or after a
portion needs less. -/
theorem bringsOut (fuel : Nat) : BringsOut fuel := by
  induction fuel with
  | zero => exact fun _ _ _ _ _ enough => absurd enough (Nat.not_lt_zero _)
  | succ fuel hypothesis =>
      intro steps intake incoming nonempty pending enough
      cases pending with
      | ended whole =>
          cases arrived : intake.octets with
          | nil =>
              refine hypothesis.wait (Intake.look_nil arrived) nonempty
                (.ended whole) ?_ enough
              rintro rfl
              rw [arrived] at whole
              cases whole
          | cons octet rest =>
              rw [arrived, List.cons_append, List.cons.injEq] at whole
              rcases whole with ⟨rfl, whole⟩
              rcases Intake.look_lineFeed arrived with ⟨left, look, rfl⟩
              rw [arrived, List.length_cons] at enough
              refine hypothesis.wait look nonempty (.lines whole) ?_ (by omega)
              rintro rfl
              simpa using whole
      | lines whole =>
          cases steps with
          | nil =>
              have arrived := (List.append_eq_nil_iff.mp whole).1
              exact hypothesis.wait (Intake.look_nil arrived) nonempty
                (.lines whole) (fun _ => arrived) enough
          | cons step steps =>
              have lines := whole
              rw [writeSteps_cons] at lines
              rcases line_cases lines with
                ⟨cut, more⟩ | ⟨arrived, ended⟩ | ⟨rest, arrived, behind⟩
              · refine hypothesis.wait (Intake.look_cut cut) nonempty
                  (.lines whole) ?_ enough
                rintro rfl
                exact absurd rfl more
              · rcases Intake.look_unended arrived with ⟨left, look, none⟩
                have positive : 0 < intake.octets.length := by
                  rw [arrived]
                  exact Nat.zero_lt_succ _
                refine hypothesis.step look nonempty (.ended ?_) ?_
                · rw [none, ended, List.nil_append]
                · rw [none, List.length_nil]
                  omega
              · rcases Intake.look_step arrived with ⟨left, look, rfl⟩
                rw [arrived, List.length_append, List.length_cons] at enough
                exact hypothesis.step look nonempty (.lines behind) (by omega)

/-! ## Replies -/

theorem portions_split {fuel first following : Nat} {content : Bytes}
    (enough : content.length ≤ fuel) (begins : 0 < first)
    (proceeds : 0 < following) :
    (portions fuel first following content).flatten = content ∧
      ∀ portion ∈ portions fuel first following content, portion ≠ [] := by
  induction fuel generalizing first following content with
  | zero =>
      rw [Nat.le_zero, List.length_eq_zero_iff] at enough
      rw [enough, portions]
      exact ⟨rfl, nofun⟩
  | succ fuel hypothesis =>
      rw [portions]
      split_ifs with empty
      · rw [List.isEmpty_iff] at empty
        rw [empty]
        exact ⟨rfl, nofun⟩
      · rw [List.isEmpty_iff] at empty
        have positive := List.length_pos_of_ne_nil empty
        have shorter : (content.drop first).length ≤ fuel := by
          rw [List.length_drop]
          omega
        have later : 0 < min (2 * following) largestReading := by
          rw [largestReading]
          omega
        rcases hypothesis shorter proceeds later with ⟨whole, nonempty⟩
        refine ⟨?_, ?_⟩
        · rw [List.flatten_cons, whole, List.take_append_drop]
        · rw [List.forall_mem_cons]
          refine ⟨?_, nonempty⟩
          rw [Ne, List.take_eq_nil_iff, not_or]
          exact ⟨by omega, empty⟩

/-- Written steps are the items of a pull, however much is read at first and how
much later. -/
theorem pullItems_portions (steps : List Progress) {first following : Nat}
    (begins : 0 < first) (proceeds : 0 < following) :
    pullItems (2 * (writeSteps steps).length + 1) (.ofOctets [])
        (portions (writeSteps steps).length first following
          (writeSteps steps)) =
      steps.map Progress.item := by
  have enough := Nat.le_refl (writeSteps steps).length
  rcases portions_split enough begins proceeds with ⟨whole, nonempty⟩
  refine bringsOut _ steps _ _ nonempty (.lines ?_) ?_
  · rw [whole]
    rfl
  · rw [whole]
    exact Nat.lt_succ_of_le (Nat.le_of_eq (Nat.zero_add _))

/-- The items of a pull are the steps that the daemon has written. -/
theorem Reply.pullItems_ofSteps (steps : List Progress) :
    (Reply.ofSteps steps).pullItems = steps.map Progress.item := by
  have succeeds : (Reply.ofSteps steps).succeeds = true := rfl
  have content : (Reply.ofSteps steps).content = writeSteps steps := rfl
  rw [pullItems, if_pos succeeds, Reply.portions, content]
  exact pullItems_portions steps (by decide) (by decide)

/-- A refusal is heard as one error, with the daemon's own message. -/
example :
    ({ status := 404
       body := Bytes.ofText "\x7b\"message\":\"no such image\"\x7d" } :
      Reply).pullItems =
        [.failed "Docker responded with status code 404: no such image"] := by
  decide +kernel

end Workloads.Docker
