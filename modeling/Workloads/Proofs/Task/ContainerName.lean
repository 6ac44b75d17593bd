import Mathlib.Data.List.OfFn
import Workloads.Task.Basic

/-!
# Container names tell labels apart

A container name ends in a suffix of one width, so that the label in front of
it can be read off, whatever signs it holds.  The suffix spells the first four
octets of the digest and nothing else: two names are the same if and only if
their labels are and their digests agree in these octets.
-/

namespace Workloads

/-! ## Codes of one width -/

section

variable {α β : Type} {code : α → List β} {width : Nat}

/-- What is written with one width tells the members of a list, if it is known
how many there are. -/
theorem eq_of_flatMap_eq
    (wide : ∀ value, (code value).length = width)
    (faithful : Function.Injective code) {first second : List α}
    (lengths : first.length = second.length)
    (same : first.flatMap code = second.flatMap code) : first = second := by
  induction first generalizing second with
  | nil => exact (List.eq_nil_of_length_eq_zero lengths.symm).symm
  | cons head rest hypothesis =>
      cases second with
      | nil => cases lengths
      | cons other others =>
          rw [List.flatMap_cons, List.flatMap_cons] at same
          rcases List.append_inj same (by rw [wide, wide]) with
            ⟨heads, tails⟩
          rw [faithful heads,
            hypothesis (Nat.succ.inj lengths) tails]

/-- The beginning of what is written with one width is the beginning of the
list, written. -/
theorem take_flatMap
    (wide : ∀ value, (code value).length = width)
    (count : Nat) (list : List α) :
    (list.flatMap code).take (count * width) =
      (list.take count).flatMap code := by
  induction list generalizing count with
  | nil => simp
  | cons head rest hypothesis =>
      cases count with
      | zero => simp
      | succ count =>
          have longer : (count + 1) * width = (code head).length +
              count * width := by
            rw [wide, Nat.succ_mul, Nat.add_comm]
          rw [List.take_succ_cons, List.flatMap_cons, List.flatMap_cons,
            longer, List.take_length_add_append, hypothesis]

end

/-! ## Bits and hexadecimal digits -/

namespace Bytes

/-- The bits of an octet, the most significant one first. -/
def octetBits (octet : UInt8) : List Bool :=
  List.ofFn (fun place : Fin 8 => octet.toBitVec.getMsbD place)

/-- The bits of octets, one octet after the other. -/
def bits (octets : Bytes) : List Bool :=
  octets.flatMap octetBits

theorem octetBits_injective : Function.Injective octetBits := by
  intro first second same
  have alike := List.ofFn_injective same
  refine UInt8.toBitVec_inj.mp (BitVec.eq_of_getMsbD_eq ?_)
  intro place inside
  exact congrFun alike ⟨place, inside⟩

/-- Octets agree in their first bits if they agree in their first octets. -/
theorem take_bits_eq_iff {first second : Bytes} {count : Nat}
    (firstLong : count ≤ first.length) (secondLong : count ≤ second.length) :
    (bits first).take (count * 8) = (bits second).take (count * 8) ↔
      first.take count = second.take count := by
  have wide (octet : UInt8) : (octetBits octet).length = 8 :=
    List.length_ofFn
  rw [bits, bits, take_flatMap wide, take_flatMap wide]
  constructor
  · refine eq_of_flatMap_eq wide octetBits_injective ?_
    rw [List.length_take_of_le firstLong, List.length_take_of_le secondLong]
  · intro same
    rw [same]

/-- Whether a letter is a hexadecimal digit in lower case. -/
def IsHexDigit (letter : Char) : Prop :=
  ('0' ≤ letter ∧ letter ≤ '9') ∨ ('a' ≤ letter ∧ letter ≤ 'f')

instance (letter : Char) : Decidable (IsHexDigit letter) :=
  inferInstanceAs (Decidable (_ ∨ _))

theorem isHexDigit_hexDigit :
    ∀ value < 16, IsHexDigit (hexDigit value) := by
  decide

theorem hexDigit_inj :
    ∀ first < 16, ∀ second < 16,
      hexDigit first = hexDigit second → first = second := by
  decide

/-- The two halves of an octet have a digit each. -/
theorem halves_lt (octet : UInt8) :
    octet.toNat / 16 < 16 ∧ octet.toNat % 16 < 16 := by
  have bound := octet.toNat_lt
  omega

theorem isHexDigit_of_mem_hexPair {octet : UInt8} {letter : Char}
    (member : letter ∈ hexPair octet) : IsHexDigit letter := by
  rcases halves_lt octet with ⟨high, low⟩
  rw [hexPair, List.mem_cons, List.mem_singleton] at member
  rcases member with rfl | rfl
  · exact isHexDigit_hexDigit _ high
  · exact isHexDigit_hexDigit _ low

theorem hexPair_injective : Function.Injective hexPair := by
  intro first second same
  rcases halves_lt first with ⟨firstHigh, firstLow⟩
  rcases halves_lt second with ⟨secondHigh, secondLow⟩
  rw [hexPair, hexPair, List.cons.injEq, List.cons.injEq] at same
  have high := hexDigit_inj _ firstHigh _ secondHigh same.1
  have low := hexDigit_inj _ firstLow _ secondLow same.2.1
  apply UInt8.toNat_inj.mp
  omega

end Bytes

/-! ## Names -/

namespace ContainerName

/-- The first thirty-two bits of a digest. -/
def leadingBits (digest : Vector UInt8 32) : List Bool :=
  (Bytes.bits digest.toList).take 32

/-- Whether a name is a label, a dash and eight hexadecimal digits in lower
case. -/
def IsSuffixed (label name : String) : Prop :=
  ∃ digits, name = label ++ "-" ++ digits ∧ digits.length = 8 ∧
    ∀ digit ∈ digits.toList, Bytes.IsHexDigit digit

theorem length_suffix (digest : Vector UInt8 32) :
    (suffix digest).length = 8 := by
  rw [suffix, String.length_ofList, List.length_flatMap]
  simp [Bytes.hexPair, List.map_const']

theorem isSuffixed_derive (label id : String) :
    IsSuffixed label (derive label id) := by
  refine ⟨suffix (digest label id), rfl, length_suffix _, ?_⟩
  intro digit member
  rw [suffix, String.toList_ofList, List.mem_flatMap] at member
  rcases member with ⟨octet, _, inside⟩
  exact Bytes.isHexDigit_of_mem_hexPair inside

/-- A suffix tells the first thirty-two bits and nothing else. -/
theorem suffix_eq_iff {first second : Vector UInt8 32} :
    suffix first = suffix second ↔ leadingBits first = leadingBits second := by
  have long (digest : Vector UInt8 32) : 4 ≤ digest.toList.length := by
    simp
  rw [leadingBits, leadingBits,
    Bytes.take_bits_eq_iff (long first) (long second)]
  constructor
  · intro same
    have wide (octet : UInt8) : (Bytes.hexPair octet).length = 2 := rfl
    refine eq_of_flatMap_eq wide Bytes.hexPair_injective ?_
      (String.ofList_injective same)
    rw [List.length_take_of_le (long first),
      List.length_take_of_le (long second)]
  · intro same
    rw [suffix, suffix, same]

/-- The label and the suffix of a name can be read off it. -/
theorem derive_eq_iff {label id otherLabel otherId : String} :
    derive label id = derive otherLabel otherId ↔
      label = otherLabel ∧
        leadingBits (digest label id) =
          leadingBits (digest otherLabel otherId) := by
  rw [← suffix_eq_iff]
  constructor
  · intro same
    have letters := congrArg String.toList same
    simp only [derive, String.toList_append] at letters
    have equal : (suffix (digest label id)).toList.length =
        (suffix (digest otherLabel otherId)).toList.length := by
      rw [String.length_toList, String.length_toList, length_suffix,
        length_suffix]
    rcases List.append_inj' letters equal with ⟨front, back⟩
    have labels := (List.append_inj' front rfl).1
    exact ⟨String.toList_inj.mp labels, String.toList_inj.mp back⟩
  · rintro ⟨rfl, same⟩
    rw [derive, derive, same]

/-- A container name is its label with the first eight digits of the SHA-256
digest of label and id, and it tells the label and the first bits of that digest.
So tasks whose labels differ have containers of different names, and where label
and id run together to the same text it is the labels alone that count. -/
theorem derive_separates (label id otherLabel otherId : String) :
    IsSuffixed label (derive label id) ∧
      derive label id =
        label ++ "-" ++
          suffix (Text.Digest.sha256 (Bytes.ofText (label ++ "/" ++ id))) ∧
      (derive label id = derive otherLabel otherId ↔
        label = otherLabel ∧
          leadingBits
              (Text.Digest.sha256 (Bytes.ofText (label ++ "/" ++ id))) =
            leadingBits
              (Text.Digest.sha256
                (Bytes.ofText (otherLabel ++ "/" ++ otherId)))) ∧
      (label ++ "/" ++ id = otherLabel ++ "/" ++ otherId →
        (derive label id = derive otherLabel otherId ↔
          label = otherLabel)) ∧
      ∀ first second : LaunchSpec, first.label ≠ second.label →
        (Task.ofSpec first).containerName ≠
          (Task.ofSpec second).containerName := by
  refine ⟨isSuffixed_derive label id, rfl, derive_eq_iff, ?_, ?_⟩
  · intro texts
    have digests : digest label id = digest otherLabel otherId := by
      rw [digest, digest, seed, seed, texts]
    rw [derive_eq_iff, digests, and_iff_left rfl]
  · intro first second apart same
    exact apart (derive_eq_iff.mp same).1

/-- The name of a task with a label of several parts. -/
example :
    derive "vllm-0-0" "66a886db-86db-4cf9-8c06-8984ad15dde2" =
      "vllm-0-0-cff1b8da" := by
  decide +kernel

/-- One text comes of several labels and ids. -/
example : seed "svc" "a/b" = seed "svc/a" "b" := by
  decide

end ContainerName

end Workloads
