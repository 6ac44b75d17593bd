import Workloads.Proofs.Docker.Environment
import Workloads.Proofs.Text.Decimal

/-!
# What a blueprint tells

A blueprint tells the image, the command, the environment as a map and the
ports as a set, and it depends on nothing else.  The environment is told as far
as its assignments tell it.
-/

namespace Workloads.Docker

/-! ## Ports -/

theorem portName_injective : Function.Injective portName := by
  intro first second same
  have digits : toString first.toNat = toString second.toNat :=
    (String.append_left_inj "/tcp").mp same
  exact UInt16.toNat_inj.mp (Decimal.toString_injective digits)

/-- The ports that a blueprint exposes, under their names. -/
theorem exposed_iff {ports : List UInt16} {port : UInt16} :
    portName port ∈
        (KeyMap.ofList (ports.map (fun port => (portName port, ())))).keys ↔
      port ∈ ports := by
  rw [KeyMap.mem_keys_ofList, List.map_map, List.mem_map]
  constructor
  · rintro ⟨other, member, same⟩
    exact portName_injective same ▸ member
  · intro member
    exact ⟨port, member, rfl⟩

/-- Blueprints expose the same ports if these are the same set. -/
theorem exposed_eq_iff {first second : List UInt16} :
    KeyMap.ofList (first.map (fun port => (portName port, ()))) =
        KeyMap.ofList (second.map (fun port => (portName port, ()))) ↔
      ∀ port, port ∈ first ↔ port ∈ second := by
  constructor
  · intro same port
    rw [← exposed_iff, same, exposed_iff]
  · intro same
    refine KeyMap.eq_of_keys ?_
    intro name
    rw [KeyMap.mem_keys_ofList, KeyMap.mem_keys_ofList, List.map_map,
      List.map_map, List.mem_map, List.mem_map]
    simp only [same]

/-! ## Commands -/

/-- No command is told as a command is not. -/
theorem told_command_injective :
    Function.Injective (fun command : List String =>
      if command.isEmpty then none else some command) := by
  intro first second same
  rcases first with _ | ⟨word, rest⟩ <;> rcases second with _ | ⟨other, others⟩
  · rfl
  · cases same
  · cases same
  · exact Option.some_inj.mp same

/-! ## Blueprints -/

/-- What the blueprints of two launch specifications have in common if they
are the same. -/
structure SameLaunch (first second : LaunchSpec) : Prop where
  image : first.image = second.image
  command : first.command = second.command
  environment :
    ∀ key, first.environment.get? key = second.environment.get? key
  ports : ∀ port, port ∈ first.ports ↔ port ∈ second.ports

/-- Whether no key of an environment holds an equals sign. -/
def PlainKeys (spec : LaunchSpec) : Prop :=
  ∀ key ∈ spec.environment.keys, '=' ∉ key.toList

namespace Blueprint

variable {first second : LaunchSpec}
  {firstOrder secondOrder : List (String × String)}

/-- A blueprint depends on nothing else. -/
theorem inOrder_eq_of_same
    (firstPerm : firstOrder.Perm first.environment.entries)
    (secondPerm : secondOrder.Perm second.environment.entries)
    (same : SameLaunch first second) :
    inOrder first firstOrder = inOrder second secondOrder := by
  have environment : first.environment = second.environment :=
    KeyMap.eq_of_get? same.environment
  have assigned : assignments firstOrder = assignments secondOrder := by
    rw [environment] at firstPerm
    exact assignments_eq_of_perm (firstPerm.trans secondPerm.symm)
  have exposed := exposed_eq_iff.mpr same.ports
  have published : first.ports.isEmpty = second.ports.isEmpty := by
    rw [Bool.eq_iff_iff, List.isEmpty_iff, List.isEmpty_iff,
      List.eq_nil_iff_forall_not_mem, List.eq_nil_iff_forall_not_mem]
    simp only [same.ports]
  simp only [inOrder, same.image, same.command, assigned, exposed, published]

/-- A blueprint tells all of this. -/
theorem same_of_inOrder_eq
    (firstPerm : firstOrder.Perm first.environment.entries)
    (secondPerm : secondOrder.Perm second.environment.entries)
    (firstPlain : PlainKeys first) (secondPlain : PlainKeys second)
    (equal : inOrder first firstOrder = inOrder second secondOrder) :
    SameLaunch first second := by
  rw [inOrder, inOrder, mk.injEq] at equal
  rcases equal with ⟨image, command, assigned, exposed, _⟩
  have plain {spec : LaunchSpec} {order : List (String × String)}
      (keys : PlainKeys spec) (perm : order.Perm spec.environment.entries) :
      ∀ entry ∈ order, '=' ∉ entry.1.toList := by
    intro entry member
    exact keys _ (List.mem_map_of_mem (perm.mem_iff.mp member))
  have entered : firstOrder.Perm secondOrder :=
    perm_of_assignments_eq (plain firstPlain firstPerm)
      (plain secondPlain secondPerm) assigned
  have environment : first.environment = second.environment :=
    KeyMap.eq_of_perm ((firstPerm.symm.trans entered).trans secondPerm)
  exact {
    image
    command := told_command_injective command
    environment := fun key => by rw [environment]
    ports := exposed_eq_iff.mp exposed }

/-- All ports are published if there is one to be exposed. -/
theorem publishAllPorts_iff (spec : LaunchSpec)
    (order : List (String × String)) :
    (inOrder spec order).publishAllPorts = true ↔
      (inOrder spec order).exposedPorts.keys ≠ [] := by
  have exposed : (inOrder spec order).exposedPorts.keys = [] ↔
      spec.ports = [] := by
    simp only [List.eq_nil_iff_forall_not_mem, inOrder,
      KeyMap.mem_keys_ofList, List.map_map, List.mem_map, not_exists, not_and]
    constructor
    · intro none port member
      exact none _ port member rfl
    · intro none name port member
      exact absurd member (none port)
  rw [Ne, exposed]
  simp [inOrder]

end Blueprint

/-- Two tasks get the same blueprint, in whatever order their environments are
gone through, if and only if they are launched alike. -/
theorem blueprints_agree_iff {first second : Task}
    {firstOrder secondOrder : List (String × String)}
    (firstPerm : firstOrder.Perm first.spec.environment.entries)
    (secondPerm : secondOrder.Perm second.spec.environment.entries)
    (firstPlain : PlainKeys first.spec)
    (secondPlain : PlainKeys second.spec) :
    (Blueprint.inOrder first.spec firstOrder =
        Blueprint.inOrder second.spec secondOrder ↔
      SameLaunch first.spec second.spec) ∧
      Blueprint.inOrder first.spec firstOrder = Blueprint.ofTask first ∧
      ((Blueprint.ofTask first).publishAllPorts = true ↔
        (Blueprint.ofTask first).exposedPorts.keys ≠ []) := by
  refine ⟨⟨?_, ?_⟩, ?_, ?_⟩
  · exact Blueprint.same_of_inOrder_eq firstPerm secondPerm firstPlain
      secondPlain
  · exact Blueprint.inOrder_eq_of_same firstPerm secondPerm
  · exact Blueprint.inOrder_eq_of_same firstPerm (.refl _)
      ⟨rfl, rfl, fun _ => rfl, fun _ => Iff.rfl⟩
  · exact Blueprint.publishAllPorts_iff first.spec _

/-! Two tasks that share what they launch and nothing else: the ports are in
another order, one of them twice, and the environment is gone through in
another order. -/

/-- A task that is pending. -/
def webTask : Task :=
  Task.ofSpec {
    id := "1"
    label := "web"
    image := "nginx"
    environment := ⟨[("A", "x=y"), ("B", "")], by decide⟩
    ports := [80, 443, 80] }

/-- A task of another name that has ended. -/
def edgeTask : Task :=
  (Task.ofSpec {
    id := "2"
    label := "edge"
    image := "nginx"
    environment := ⟨[("A", "x=y"), ("B", "")], by decide⟩
    ports := [443, 80] }).terminate "done" ""

theorem blueprints_agree_iff_apart :
    [("B", ""), ("A", "x=y")].Perm webTask.spec.environment.entries ∧
      [("A", "x=y"), ("B", "")].Perm edgeTask.spec.environment.entries ∧
      PlainKeys webTask.spec ∧ PlainKeys edgeTask.spec ∧
      Blueprint.inOrder webTask.spec [("B", ""), ("A", "x=y")] =
        Blueprint.inOrder edgeTask.spec [("A", "x=y"), ("B", "")] := by
  have webPerm : [("B", ""), ("A", "x=y")].Perm
      webTask.spec.environment.entries :=
    .swap ..
  have edgePerm : [("A", "x=y"), ("B", "")].Perm
      edgeTask.spec.environment.entries :=
    .refl _
  have webPlain : PlainKeys webTask.spec := by
    simp [PlainKeys, webTask, Task.ofSpec, KeyMap.keys]
  have edgePlain : PlainKeys edgeTask.spec := by
    simp [PlainKeys, edgeTask, Task.ofSpec, Task.terminate, KeyMap.keys]
  have ports : ∀ port,
      port ∈ webTask.spec.ports ↔ port ∈ edgeTask.spec.ports := by
    intro port
    simp only [webTask, edgeTask, Task.ofSpec, Task.terminate,
      List.mem_cons, List.not_mem_nil]
    tauto
  have alike : SameLaunch webTask.spec edgeTask.spec :=
    ⟨rfl, rfl, fun _ => rfl, ports⟩
  exact ⟨webPerm, edgePerm, webPlain, edgePlain,
    (blueprints_agree_iff webPerm edgePerm webPlain edgePlain).1.mpr alike⟩

end Workloads.Docker
