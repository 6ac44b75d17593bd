import Mathlib.Data.List.TakeWhile
import Workloads.Http.Endpoint
import Workloads.Proofs.Text.Order

/-!
# The addresses of tasks

An id is any text, while a path segment is made of few octets.  A client writes
the UTF-8 form of an id with percent signs where it has to, and anywhere else
if it likes.  Whatever stands in an id, the service reads it back; the one id
whose own address leads nowhere is the empty one.
-/

namespace Workloads.Http

/-! ## Segments that stand for octets -/

namespace Percent

/-- The octets that may stand for themselves in a segment. -/
def mayStand (octet : UInt8) : Bool :=
  Bytes.isDigit octet || (65 ≤ octet && octet ≤ 90) ||
    (97 ≤ octet && octet ≤ 122) ||
    [33, 36, 38, 39, 40, 41, 42, 43, 44, 45, 46, 58, 59, 61, 64, 95,
      126].contains octet

/-- The segments by which octets can be written. -/
inductive Encodes : Bytes → Bytes → Prop where
  | nil : Encodes [] []
  | plain {octet : UInt8} {octets written : Bytes}
      (stands : mayStand octet = true) (rest : Encodes octets written) :
      Encodes (octet :: octets) (octet :: written)
  | escaped {octet high low : UInt8} {octets written : Bytes}
      (pair : pair? high low = some octet) (rest : Encodes octets written) :
      Encodes (octet :: octets) (sign :: high :: low :: written)

/-- The upper-case hexadecimal digit of a value below sixteen. -/
def digit (value : Nat) : UInt8 :=
  if value < 10 then (48 + value).toUInt8 else (55 + value).toUInt8

/-- The segment with a percent sign wherever one is needed. -/
def encode : Bytes → Bytes
  | [] => []
  | octet :: rest =>
    if mayStand octet then octet :: encode rest
    else
      sign :: digit (octet.toNat / 16) :: digit (octet.toNat % 16) ::
        encode rest

theorem pair?_digit :
    ∀ octet : UInt8,
      pair? (digit (octet.toNat / 16)) (digit (octet.toNat % 16)) =
        some octet :=
  Bytes.forall_octet (by decide +kernel)

/-- Whatever the octets are, there is a segment for them. -/
theorem encodes_encode (octets : Bytes) : Encodes octets (encode octets) := by
  induction octets with
  | nil => exact .nil
  | cons octet rest hypothesis =>
      unfold encode
      split
      · exact .plain ‹_› hypothesis
      · exact .escaped (pair?_digit octet) hypothesis

/-- A percent sign is the only octet that does not stand for itself. -/
theorem decode_cons {octet : UInt8} (other : octet ≠ sign) (rest : Bytes) :
    decode (octet :: rest) = octet :: decode rest := by
  match rest with
  | [] => rfl
  | [_] => rfl
  | _ :: _ :: _ => rw [decode, if_neg other]

/-- A segment is read back as what it was written for. -/
theorem Encodes.decode {octets written : Bytes}
    (encodes : Encodes octets written) :
    decode written = octets := by
  induction encodes with
  | nil => rfl
  | @plain octet octets written stands rest hypothesis =>
      have other : octet ≠ sign := by
        rintro rfl
        cases stands
      rw [decode_cons other, hypothesis]
  | escaped pair rest hypothesis =>
      rw [Percent.decode, if_pos rfl, pair, hypothesis]

/-- The octets that a segment may be made of: those of ASCII that end neither
the segment nor the path. -/
def isInner (octet : UInt8) : Bool :=
  octet < 128 && octet ≠ Path.slash && octet ≠ 63 && octet ≠ 35

theorem isInner_iff {octet : UInt8} :
    isInner octet = true ↔
      octet < 128 ∧ octet ≠ Path.slash ∧ octet ≠ 63 ∧ octet ≠ 35 := by
  simp only [isInner, Bool.and_eq_true, decide_eq_true_eq, and_assoc]

theorem isInner_of_mayStand :
    ∀ octet, mayStand octet = true → isInner octet = true :=
  Bytes.forall_octet (by decide +kernel)

theorem isInner_of_hexValue? :
    ∀ octet, (Bytes.hexValue? octet).isSome = true →
      isInner octet = true :=
  Bytes.forall_octet (by decide +kernel)

theorem Encodes.isInner {octets written : Bytes}
    (encodes : Encodes octets written) :
    ∀ octet ∈ written, isInner octet = true := by
  induction encodes with
  | nil => exact nofun
  | plain stands rest hypothesis =>
      exact List.forall_mem_cons.mpr ⟨isInner_of_mayStand _ stands, hypothesis⟩
  | @escaped octet high low octets written pair rest hypothesis =>
      unfold pair? at pair
      split at pair
      next left right highDigit lowDigit =>
        simp only [List.forall_mem_cons]
        exact ⟨rfl, isInner_of_hexValue? high (by simp [highDigit]),
          isInner_of_hexValue? low (by simp [lowDigit]), hypothesis⟩
      next => cases pair

end Percent

/-! ## The parts of a path -/

namespace Path

theorem segments_eq_singleton {piece : Bytes} (free : slash ∉ piece) :
    segments piece = [piece] := by
  induction piece with
  | nil => rfl
  | cons octet rest hypothesis =>
      rw [List.mem_cons, not_or] at free
      rcases free with ⟨other, free⟩
      rw [segments, if_neg (Ne.symm other), hypothesis free]

theorem segments_append_slash {piece : Bytes} (free : slash ∉ piece)
    (rest : Bytes) :
    segments (piece ++ slash :: rest) = piece :: segments rest := by
  induction piece with
  | nil => rfl
  | cons octet piece hypothesis =>
      rw [List.mem_cons, not_or] at free
      rcases free with ⟨other, free⟩
      rw [List.cons_append, segments, if_neg (Ne.symm other),
        hypothesis free]

end Path

/-! ## Paths of tasks -/

/-- The text of ASCII octets. -/
def asciiText (octets : Bytes) : String :=
  String.ofList (octets.map (fun octet => Char.ofNat octet.toNat))

theorem encoded_ascii :
    ∀ octet : UInt8, octet < 128 →
      String.utf8EncodeChar (Char.ofNat octet.toNat) = [octet] :=
  Bytes.forall_octet (by decide +kernel)

theorem ofText_asciiText {octets : Bytes}
    (ascii : ∀ octet ∈ octets, octet < 128) :
    Bytes.ofText (asciiText octets) = octets := by
  rw [Bytes.ofText_eq_flatMap, asciiText, String.toList_ofList]
  induction octets with
  | nil => rfl
  | cons octet rest hypothesis =>
      rcases List.forall_mem_cons.mp ascii with ⟨first, others⟩
      rw [List.map_cons, List.flatMap_cons, encoded_ascii octet first,
        hypothesis others]
      rfl

/-- Whether a path names a task by a segment that stands for its id, with this
text behind it. -/
def Names (path id suffix : String) : Prop :=
  ∃ segment, Percent.Encodes (Bytes.ofText id) segment ∧
    Bytes.ofText path =
      Bytes.ofText "/api/tasks/" ++ segment ++ Bytes.ofText suffix

/-- Every id has a path. -/
theorem exists_names (id suffix : String) : ∃ path, Names path id suffix := by
  have encodes := Percent.encodes_encode (Bytes.ofText id)
  have ascii :
      ∀ octet ∈ Percent.encode (Bytes.ofText id), octet < 128 :=
    fun octet member =>
      (Percent.isInner_iff.mp (encodes.isInner octet member)).1
  refine ⟨"/api/tasks/" ++ asciiText (Percent.encode (Bytes.ofText id)) ++
    suffix, _, encodes, ?_⟩
  rw [Bytes.ofText_append, Bytes.ofText_append, ofText_asciiText ascii]

namespace Resource

/-- What follows the collection of all tasks is looked at segment by
segment. -/
theorem ofPath?_of_tasks {path : String} {tail : Bytes}
    (form : Bytes.ofText path = Bytes.ofText "/api/tasks/" ++ tail)
    (inner : ∀ octet ∈ tail, octet ≠ 63 ∧ octet ≠ 35) :
    ofPath? path =
      ofSegments? (word "api" :: word "tasks" :: Path.segments tail) := by
  -- No scheme starts with a slash, so there is no host to skip,
  have own : withoutHost (Bytes.ofText path) = Bytes.ofText path := by
    rw [form]
    rfl
  -- and no octet starts a query.
  have bare : withoutQuery (Bytes.ofText path) = Bytes.ofText path := by
    rw [withoutQuery, form, List.takeWhile_eq_self_iff]
    have root :
        ∀ octet ∈ Bytes.ofText "/api/tasks/",
          (octet ≠ 63 && octet ≠ 35) = true := by
      decide +kernel
    refine List.forall_mem_append.mpr ⟨root, ?_⟩
    simpa using inner
  have parts :
      Bytes.ofText path =
        Path.slash :: (word "api" ++ Path.slash ::
          (word "tasks" ++ Path.slash :: tail)) := by
    rw [form]
    rfl
  rw [ofPath?, own, bare, parts]
  simp only [if_true]
  rw [Path.segments_append_slash (by decide),
    Path.segments_append_slash (by decide)]

/-- A path that names a task is looked at from its segment on. -/
theorem ofPath?_of_names {path id suffix : String}
    (names : Names path id suffix)
    (inner : ∀ octet ∈ Bytes.ofText suffix, octet ≠ 63 ∧ octet ≠ 35) :
    ∃ segment, Percent.Encodes (Bytes.ofText id) segment ∧
      Path.slash ∉ segment ∧
      ofPath? path =
        ofSegments? (word "api" :: word "tasks" ::
          Path.segments (segment ++ Bytes.ofText suffix)) := by
  rcases names with ⟨segment, encodes, form⟩
  have within :
      ∀ octet ∈ segment, octet ≠ Path.slash ∧ octet ≠ 63 ∧ octet ≠ 35 :=
    fun octet member =>
      (Percent.isInner_iff.mp (encodes.isInner octet member)).2
  refine ⟨segment, encodes, fun member => (within _ member).1 rfl, ?_⟩
  rw [List.append_assoc] at form
  apply ofPath?_of_tasks form
  intro octet member
  rcases List.mem_append.mp member with here | behind
  · exact (within octet here).2
  · exact inner octet behind

/-- A task of its own is found if its id is not empty, -/
theorem ofPath?_of_task {path id : String} (names : Names path id "")
    (named : id ≠ "") :
    ∃ segment, Percent.decode segment = Bytes.ofText id ∧
      ofPath? path = some (.task segment) := by
  rcases ofPath?_of_names names (by decide +kernel) with
    ⟨segment, encodes, free, found⟩
  -- The service only asks whether the segment is empty.
  have nonempty : segment ≠ [] := by
    rintro rfl
    exact named (Bytes.ofText_injective encodes.decode.symm)
  refine ⟨segment, encodes.decode, ?_⟩
  have whole : segment ++ Bytes.ofText "" = segment := List.append_nil _
  rw [found, whole, Path.segments_eq_singleton free, ofSegments?,
    if_pos ⟨rfl, rfl, nonempty⟩]

/-- and not otherwise. -/
theorem ofPath?_of_unnamed {path : String} (names : Names path "" "") :
    ofPath? path = none := by
  rcases ofPath?_of_names names (by decide +kernel) with
    ⟨segment, encodes, free, found⟩
  cases encodes
  exact found

/-- An action on a task is found whatever the id is. -/
theorem ofPath?_of_action (action : String) {path id suffix : String}
    (names : Names path id suffix)
    (form : Bytes.ofText suffix = Path.slash :: word action)
    (inner : ∀ octet ∈ word action,
      octet ≠ Path.slash ∧ octet ≠ 63 ∧ octet ≠ 35) :
    ∃ segment, Percent.decode segment = Bytes.ofText id ∧
      ofPath? path =
        ofSegments? [word "api", word "tasks", segment, word action] := by
  have behind : ∀ octet ∈ Bytes.ofText suffix, octet ≠ 63 ∧ octet ≠ 35 := by
    rw [form]
    exact List.forall_mem_cons.mpr
      ⟨by decide, fun octet member => (inner octet member).2⟩
  have single : Path.slash ∉ word action :=
    fun member => (inner _ member).1 rfl
  rcases ofPath?_of_names names behind with ⟨segment, encodes, free, found⟩
  refine ⟨segment, encodes.decode, ?_⟩
  rw [found, form, Path.segments_append_slash free,
    Path.segments_eq_singleton single]

end Resource

/-! ## Requests for tasks -/

/-- The id is read back from its segment. -/
theorem idOf_of_decode {segment : Bytes} {id : String}
    (meant : Percent.decode segment = Bytes.ofText id) :
    idOf segment = .ok id := by
  simp [idOf, meant]

namespace Request

variable {request : Request} {id : String}

/-- A request for a task of its own looks up its id, -/
theorem endpoint_of_task (names : Names request.path id "")
    (named : id ≠ "") (get : request.method = "GET") :
    request.endpoint = .ok (.lookUp id) := by
  rcases Resource.ofPath?_of_task names named with ⟨segment, meant, found⟩
  simp [endpoint, found, get, Resource.methods, ask, idOf_of_decode meant]

/-- but the empty id is not looked up. -/
theorem endpoint_of_unnamed (names : Names request.path "" "") :
    request.endpoint = .error (.empty 404) := by
  rw [endpoint, Resource.ofPath?_of_unnamed names]

/-- A request for a termination terminates the id if its body can be read. -/
theorem endpoint_of_termination
    (names : Names request.path id "/terminate")
    (post : request.method = "POST") :
    request.endpoint =
      request.stopRequest.map (fun stop => .terminate id stop) := by
  rcases Resource.ofPath?_of_action "terminate" names rfl
      (by decide +kernel) with
    ⟨segment, meant, found⟩
  have leads : Resource.ofPath? request.path = some (.termination segment) :=
    found
  rw [endpoint, leads]
  simp only [post, Resource.methods, List.mem_singleton, if_true, ask,
    idOf_of_decode meant]
  cases request.stopRequest <;> rfl

/-- A request for a removal removes the id. -/
theorem endpoint_of_removal (names : Names request.path id "/remove")
    (post : request.method = "POST") :
    request.endpoint = .ok (.remove id) := by
  rcases Resource.ofPath?_of_action "remove" names rfl
      (by decide +kernel) with
    ⟨segment, meant, found⟩
  have leads : Resource.ofPath? request.path = some (.removal segment) :=
    found
  simp [endpoint, leads, post, Resource.methods, ask, idOf_of_decode meant]

end Request

end Workloads.Http
