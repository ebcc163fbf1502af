import CloudLifecycle.Director.Request
import CloudLifecycle.Proofs.Json.Order

/-!
# Arguments of requests

Each method has parameters at fixed positions (`Method.parameters`).  `Reads` says of a function
that it reads just some parameters: it fails with the complaint about the first one whose argument
is not taken, has a result if all are taken, and looks at nothing else.  It is kept by `bind`, so
the parameters of a method are found by following the code that reads its arguments
(`Command.reads_ofArguments`).

Two parameters are declared and not checked (`Method.PassesOver`): the VM whose metadata is set, and
the emptiness of the VM that a new disk shall be near to.
-/

set_option autoImplicit false

namespace CloudLifecycle

variable {α β : Type}

/-! ## Parameters -/

/-- A parameter at a position of the arguments. -/
structure Parameter where
  position : Nat
  name : String
  /-- What is wrong with a value, if it is not taken. -/
  fault? : Json → Option String

namespace Parameter

/-- A value that a decoder reads, and that has no further flaw. -/
def checked (position : Nat) (name : String) (d : Decoder α) (flaw? : α → Option String) :
    Parameter where
  position
  name
  fault? value := match d.fromJson value with
    | .ok a => flaw? a
    | .error e => some ("': " ++ e.message)

/-- Any value that a decoder reads. -/
def decoded (position : Nat) (name : String) (d : Decoder α) : Parameter :=
  checked position name d fun _ => none

/-- What is wrong with the id of a resource. -/
def emptiness? (id : String) : Option String :=
  if id.isEmpty then some "' must not be empty" else none

/-- The id of a resource. -/
def resource (position : Nat) (name : String) : Parameter :=
  checked position name Decoder.text emptiness?

/-- The id of a resource, or `null`. -/
def optionalResource (position : Nat) (name : String) : Parameter :=
  checked position name Decoder.text.optional fun id => id.bind emptiness?

/-- The error about an argument with a fault. -/
def complaint (p : Parameter) (fault : String) : CpiError :=
  .invalidArgument ("argument `" ++ p.name ++ fault)

/-- The error about the argument for a parameter, if it is not taken. -/
def refusal? (p : Parameter) (arguments : Arguments) : Option CpiError :=
  (p.fault? (arguments.value p.position)).map p.complaint

theorem refusal?_eq_some_iff {p : Parameter} {arguments : Arguments} {e : CpiError} :
    p.refusal? arguments = some e ↔
      ∃ fault, p.fault? (arguments.value p.position) = some fault ∧ p.complaint fault = e :=
  Option.map_eq_some_iff

end Parameter

/-- The error about the first argument that is not taken. -/
def firstRefusal? (parameters : List Parameter) (arguments : Arguments) : Option CpiError :=
  parameters.findSome? fun p => p.refusal? arguments

theorem firstRefusal?_append (parameters more : List Parameter) (arguments : Arguments) :
    firstRefusal? (parameters ++ more) arguments =
      (firstRefusal? parameters arguments).or (firstRefusal? more arguments) :=
  List.findSome?_append

/-! ## Readings -/

/-- Reading takes the arguments for some parameters, checks them in this order, and looks at no
others. -/
structure Reads (parameters : List Parameter) (read : Arguments → Except CpiError α) : Prop where
  refused {arguments : Arguments} {e : CpiError}
      (refusal : firstRefusal? parameters arguments = some e) : read arguments = .error e
  taken {arguments : Arguments} (none : firstRefusal? parameters arguments = none) :
      ∃ a, read arguments = .ok a
  alike {arguments others : Arguments}
      (same : ∀ p ∈ parameters, arguments.value p.position = others.value p.position) :
      read arguments = read others

theorem reads_pure (a : α) : Reads [] fun _ => pure a where
  refused refusal := nomatch refusal
  taken _ := ⟨a, rfl⟩
  alike _ := rfl

/-- One reading after another, which may use what was read. -/
theorem Reads.bind {parameters more : List Parameter} {f : Arguments → Except CpiError α}
    {g : α → Arguments → Except CpiError β} (hf : Reads parameters f)
    (hg : ∀ a, Reads more (g a)) :
    Reads (parameters ++ more) fun arguments => f arguments >>= fun a => g a arguments where
  refused {arguments e} refusal := by
    rw [firstRefusal?_append] at refusal
    cases first : firstRefusal? parameters arguments with
    | some own =>
      rw [first, Option.some_or, Option.some.injEq] at refusal
      rw [hf.refused first, refusal]
      rfl
    | none =>
      rw [first, Option.none_or] at refusal
      obtain ⟨a, read⟩ := hf.taken first
      rw [read]
      exact (hg a).refused refusal
  taken {arguments} none := by
    rw [firstRefusal?_append, Option.or_eq_none_iff] at none
    obtain ⟨a, read⟩ := hf.taken none.1
    obtain ⟨b, readMore⟩ := (hg a).taken none.2
    exact ⟨b, by rw [read]; exact readMore⟩
  alike {arguments others} same := by
    rw [hf.alike fun p hp => same p (List.mem_append_left _ hp)]
    refine bind_congr fun a => (hg a).alike fun p hp => same p (List.mem_append_right _ hp)

theorem Reads.map {parameters : List Parameter} {read : Arguments → Except CpiError α}
    (h : Reads parameters read) (f : α → β) :
    Reads parameters fun arguments => f <$> read arguments := by
  have made := h.bind fun a => reads_pure (f a)
  rw [List.append_nil] at made
  exact made

/-- A reading of one argument, which is decoded and may then still have a flaw. -/
theorem reads_checked {position : Nat} {name : String} {d : Decoder α} {flaw? : α → Option String}
    {read : Arguments → Except CpiError β}
    (undecoded : ∀ {arguments e}, d.fromJson (arguments.value position) = .error e →
      read arguments = .error (.invalidArgument ("argument `" ++ name ++ "': " ++ e.message)))
    (flawed : ∀ {arguments a fault}, d.fromJson (arguments.value position) = .ok a →
      flaw? a = some fault →
      read arguments = .error (.invalidArgument ("argument `" ++ name ++ fault)))
    (flawless : ∀ {arguments a}, d.fromJson (arguments.value position) = .ok a → flaw? a = none →
      ∃ b, read arguments = .ok b)
    (alike : ∀ {arguments others : Arguments},
      arguments.value position = others.value position → read arguments = read others) :
    Reads [.checked position name d flaw?] read where
  refused {arguments e} refusal := by
    rw [firstRefusal?, List.findSome?_singleton] at refusal
    obtain ⟨fault, fails, rfl⟩ := Parameter.refusal?_eq_some_iff.1 refusal
    simp only [Parameter.checked] at fails
    split at fails
    · exact flawed ‹_› fails
    · rename_i e failed
      obtain rfl := Option.some.inj fails
      rw [undecoded failed, Parameter.complaint, Parameter.checked, String.append_assoc,
        String.append_assoc]
  taken {arguments} none := by
    rw [firstRefusal?, List.findSome?_singleton] at none
    have passes := Option.map_eq_none_iff.1 none
    simp only [Parameter.checked] at passes
    split at passes
    · exact flawless ‹_› passes
    · cases passes
  alike same := alike (same _ List.mem_cons_self)

theorem reads_read (position : Nat) (name : String) (d : Decoder α) :
    Reads [.decoded position name d] fun arguments => arguments.read position name d := by
  refine reads_checked ?undecoded nofun ?flawless ?alike
  case undecoded =>
    intro arguments e failed
    rw [Arguments.read, failed]
    rfl
  case flawless =>
    intro arguments a decoded _
    exact ⟨a, by rw [Arguments.read, decoded]; rfl⟩
  case alike =>
    intro arguments others same
    rw [Arguments.read, Arguments.read, same]

theorem reads_resource (position : Nat) (name : String) :
    Reads [.resource position name] fun arguments => arguments.resource position name := by
  refine reads_checked ?undecoded ?flawed ?flawless ?alike
  case undecoded =>
    intro arguments e failed
    rw [Arguments.resource, Arguments.read, failed]
    rfl
  case flawed =>
    intro arguments id fault decoded flawed
    rw [Arguments.resource, Arguments.read, decoded]
    unfold Parameter.emptiness? at flawed
    split at flawed
    · rename_i empty
      obtain rfl := Option.some.inj flawed
      simp only [Except.mapError, bind, Except.bind, empty, if_true]
      rfl
    · cases flawed
  case flawless =>
    intro arguments id decoded flawless
    rw [Arguments.resource, Arguments.read, decoded]
    unfold Parameter.emptiness? at flawless
    split at flawless
    · cases flawless
    · rename_i filled
      exact ⟨⟨id⟩, by simp only [Except.mapError, bind, Except.bind, filled]; rfl⟩
  case alike =>
    intro arguments others same
    rw [Arguments.resource, Arguments.resource, Arguments.read, Arguments.read, same]

/-! ## Methods -/

namespace Method

/-- The parameters that a method looks at, in the order in which they are checked. -/
def parameters : Method → List Parameter
  | .info | .currentVmId => []
  | .createStemcell => [.decoded 1 "cloud_properties" StemcellProperties.decoder]
  | .deleteStemcell => [.resource 0 "stemcell_id"]
  | .createVm => [.decoded 0 "agent_id" Decoder.text, .resource 1 "stemcell_id",
      .decoded 2 "cloud_properties" VmCloudProperties.decoder,
      .decoded 3 "networks" NetworkSpec.decoder, .decoded 5 "env" Decoder.any.optional]
  | .deleteVm | .hasVm | .rebootVm | .setVmMetadata | .getDisks => [.resource 0 "vm_id"]
  | .configureNetworks => [.resource 0 "vm_id", .decoded 1 "networks" NetworkSpec.decoder]
  | .createDisk => [.decoded 0 "size" Decoder.word64, .optionalResource 2 "vm_locality"]
  | .deleteDisk | .hasDisk => [.resource 0 "disk_id"]
  | .attachDisk | .detachDisk => [.resource 0 "vm_id", .resource 1 "disk_id"]
  | .snapshotDisk => [.resource 0 "disk_id", .decoded 1 "metadata" Decoder.any]
  | .deleteSnapshot => [.resource 0 "snapshot_id"]

/-- The parameters as far as they are checked: not the VM whose metadata is set, and not that the VM
that a disk shall be near to has an id. -/
def checked : Method → List Parameter
  | .setVmMetadata => []
  | .createDisk =>
    [.decoded 0 "size" Decoder.word64, .decoded 2 "vm_locality" Decoder.text.optional]
  | method => method.parameters

end Method

theorem fault?_any (position : Nat) (name : String) (value : Json) :
    (Parameter.decoded position name Decoder.any).fault? value = none := by
  have read : Decoder.any.fromJson value = .ok value.sorted := Decoder.any_toTree trivial
  simp only [Parameter.decoded, Parameter.checked, read]

/-- A parameter that takes everything may be added. -/
theorem Reads.withAny {parameters : List Parameter} {read : Arguments → Except CpiError α}
    (h : Reads parameters read) (position : Nat) (name : String) :
    Reads (parameters ++ [.decoded position name Decoder.any]) read := by
  have none (arguments : Arguments) :
      firstRefusal? [.decoded position name Decoder.any] arguments = none := by
    rw [firstRefusal?, List.findSome?_singleton, Parameter.refusal?, fault?_any]
    rfl
  constructor
  case refused =>
    intro arguments e refusal
    rw [firstRefusal?_append, none, Option.or_none] at refusal
    exact h.refused refusal
  case taken =>
    intro arguments passes
    rw [firstRefusal?_append, none, Option.or_none] at passes
    exact h.taken passes
  case alike =>
    exact fun same => h.alike fun p hp => same p (List.mem_append_left _ hp)

namespace Arguments

theorem reads_vmAndDisk :
    Reads [.resource 0 "vm_id", .resource 1 "disk_id"] vmAndDisk :=
  (reads_resource 0 "vm_id").bind fun vm =>
    (reads_resource 1 "disk_id").bind fun disk => reads_pure (vm, disk)

theorem reads_vmRequest : Reads (Method.parameters .createVm) vmRequest :=
  (reads_read 0 "agent_id" _).bind fun _ => (reads_resource 1 "stemcell_id").bind fun _ =>
    (reads_read 2 "cloud_properties" _).bind fun _ => (reads_read 3 "networks" _).bind fun _ =>
      (reads_read 5 "env" _).bind fun _ => reads_pure _

theorem reads_diskSize : Reads (Method.checked .createDisk) diskSize :=
  (reads_read 0 "size" _).bind fun sizeMib =>
    ((reads_read 2 "vm_locality" _).map fun _ => ()).bind fun _ => reads_pure sizeMib

end Arguments

/-- **The arguments of a method.**  They are read at fixed positions, and each is checked. -/
theorem Command.reads_ofArguments (method : Method) :
    Reads method.checked fun arguments => ofArguments arguments method := by
  cases method with
  | info => exact reads_pure _
  | currentVmId => exact reads_pure _
  | createStemcell => exact (reads_read 1 "cloud_properties" _).map _
  | deleteStemcell => exact (reads_resource 0 "stemcell_id").map _
  | createVm => exact Arguments.reads_vmRequest.map _
  | deleteVm => exact (reads_resource 0 "vm_id").map _
  | hasVm => exact (reads_resource 0 "vm_id").map _
  | rebootVm => exact (reads_resource 0 "vm_id").map _
  | setVmMetadata => exact reads_pure _
  | configureNetworks =>
    exact (reads_resource 0 "vm_id").bind fun _ => (reads_read 1 "networks" _).bind fun _ =>
      reads_pure _
  | createDisk => exact Arguments.reads_diskSize.map _
  | deleteDisk => exact (reads_resource 0 "disk_id").map _
  | hasDisk => exact (reads_resource 0 "disk_id").map _
  | attachDisk => exact Arguments.reads_vmAndDisk.map _
  | detachDisk => exact Arguments.reads_vmAndDisk.map _
  | getDisks => exact (reads_resource 0 "vm_id").map _
  | snapshotDisk => exact ((reads_resource 0 "disk_id").map _).withAny 1 "metadata"
  | deleteSnapshot => exact (reads_resource 0 "snapshot_id").map _

/-! ## What is checked of what is declared -/

namespace Method

/-- A method takes a value for one of its parameters that the parameter does not take. -/
def PassesOver (method : Method) (p : Parameter) (value : Json) : Prop :=
  method = .setVmMetadata ∨ method = .createDisk ∧ p.position = 2 ∧ value = .text ""

/-- Only an empty id makes a difference between the id of a resource and any text. -/
theorem fault?_optionalResource (position : Nat) (name : String) {value : Json}
    (filled : value ≠ .text "") :
    (Parameter.optionalResource position name).fault? value =
      (Parameter.decoded position name Decoder.text.optional).fault? value := by
  simp only [Parameter.optionalResource, Parameter.decoded, Parameter.checked]
  cases value with
  | text id =>
    have filled : ¬id.isEmpty := by simpa using fun same => filled (congrArg Json.text same)
    simp [Decoder.fromJson, Json.toTree, Decoder.optional, Decoder.text, Except.map,
      Parameter.emptiness?, filled]
  | _ => rfl

theorem checked_of_ne {method : Method} (setting : method ≠ .setVmMetadata)
    (creating : method ≠ .createDisk) : method.checked = method.parameters := by
  cases method
  case setVmMetadata => exact absurd rfl setting
  case createDisk => exact absurd rfl creating
  all_goals rfl

/-- What is wrong with an argument as it is checked is wrong with it as it is declared, and
conversely unless the method passes it over. -/
theorem checked_fault_iff {method : Method} {position : Nat} {name fault : String} {value : Json} :
    (∃ q ∈ method.checked, q.position = position ∧ q.name = name ∧ q.fault? value = some fault) ↔
      ∃ p ∈ method.parameters, p.position = position ∧ p.name = name ∧
        p.fault? value = some fault ∧ ¬method.PassesOver p value := by
  by_cases setting : method = .setVmMetadata
  · subst setting
    refine iff_of_false (nofun) ?_
    rintro ⟨p, _, _, _, _, checked⟩
    exact checked (.inl rfl)
  by_cases creating : method = .createDisk
  · subst creating
    simp only [checked, parameters, List.exists_mem_cons_iff]
    refine or_congr ?size (or_congr ?locality (iff_of_false nofun nofun))
    case size =>
      refine and_congr_right fun _ => and_congr_right fun _ => (and_iff_left ?_).symm
      rintro (same | ⟨_, same, _⟩) <;> cases same
    case locality =>
      refine and_congr_right fun _ => and_congr_right fun _ => ?_
      by_cases empty : value = .text ""
      · subst empty
        exact iff_of_false nofun fun passed => passed.2 (.inr ⟨rfl, rfl, rfl⟩)
      · rw [fault?_optionalResource _ _ empty]
        refine (and_iff_left ?_).symm
        rintro (same | ⟨_, _, same⟩)
        · cases same
        · exact empty same
  · rw [checked_of_ne setting creating]
    refine exists_congr fun p => and_congr_right fun _ => and_congr_right fun _ =>
      and_congr_right fun _ => (and_iff_left ?_).symm
    rintro (same | ⟨same, _⟩)
    · exact setting same
    · exact creating same

end Method

theorem firstRefusal?_eq_none_iff {parameters : List Parameter} {arguments : Arguments} :
    firstRefusal? parameters arguments = none ↔
      ∀ p ∈ parameters, p.fault? (arguments.value p.position) = none := by
  simp only [firstRefusal?, List.findSome?_eq_none_iff, Parameter.refusal?, Option.map_eq_none_iff]

/-- The first refusal is one of a parameter. -/
theorem exists_of_firstRefusal? {parameters : List Parameter} {arguments : Arguments} {e : CpiError}
    (refusal : firstRefusal? parameters arguments = some e) :
    ∃ p ∈ parameters, ∃ fault, p.fault? (arguments.value p.position) = some fault ∧
      p.complaint fault = e := by
  obtain ⟨p, hp, own⟩ := List.exists_of_findSome?_eq_some refusal
  exact ⟨p, hp, Parameter.refusal?_eq_some_iff.1 own⟩

/-! ## Requests -/

namespace Request

variable {request : Request} {method : Method}

/-- The arguments by position. -/
def positional (request : Request) : Arguments := ⟨request.arguments⟩

/-- The same request with more arguments, all of them `null`. -/
def padded (request : Request) (count : Nat) : Request :=
  { request with arguments := request.arguments ++ List.replicate count .null }

theorem value_padded (request : Request) (count position : Nat) :
    (request.padded count).positional.value position = request.positional.value position := by
  simp only [positional, padded, Arguments.value, List.getElem?_append, List.getElem?_replicate]
  split
  · rfl
  · rename_i beyond
    rw [List.getElem?_eq_none (Nat.le_of_not_lt beyond)]
    split <;> rfl

/-- An argument for a parameter of the method is not taken, and the method does not pass it over. -/
def Faulty (request : Request) (method : Method) : Prop :=
  ∃ p ∈ method.parameters, ∃ fault,
    p.fault? (request.positional.value p.position) = some fault ∧
      ¬method.PassesOver p (request.positional.value p.position)

end Request

namespace Command

variable {request : Request} {method : Method}

theorem ofRequest_of_known (known : Method.ofName? request.method = some method) :
    ofRequest request = (ofArguments request.positional method).mapError .lifecycle := by
  unfold ofRequest
  rw [known]
  rfl

theorem ofRequest_of_unknown (unknown : Method.ofName? request.method = none) :
    ofRequest request = .error (.notImplemented request.method) := by
  unfold ofRequest
  rw [unknown]

/-- What is wrong with a request for a method that is known is an error of the lifecycle. -/
theorem cause_of_ofRequest (known : Method.ofName? request.method = some method)
    {failure : Failure} (refused : ofRequest request = .error failure) :
    ∃ cause, failure = .lifecycle cause := by
  rw [ofRequest_of_known known] at refused
  cases read : ofArguments request.positional method with
  | ok command => rw [read] at refused; cases refused
  | error cause =>
    rw [read] at refused
    exact ⟨cause, (Except.error.inj refused).symm⟩

/-- Arguments beyond the end are those that read as `null` anyway. -/
theorem ofRequest_padded (request : Request) (count : Nat) :
    ofRequest (request.padded count) = ofRequest request := by
  have unchanged : (request.padded count).method = request.method := rfl
  cases known : Method.ofName? request.method with
  | none => rw [ofRequest_of_unknown known, ofRequest_of_unknown (unchanged ▸ known), unchanged]
  | some method =>
    have same := (reads_ofArguments method).alike fun p _ => request.value_padded count p.position
    rw [ofRequest_of_known known, ofRequest_of_known (unchanged ▸ known), same]

/-- A request with a faulty argument is refused with a complaint about one of them. -/
theorem ofRequest_of_faulty (known : Method.ofName? request.method = some method)
    (faulty : request.Faulty method) :
    ∃ p ∈ method.parameters, ∃ fault,
      p.fault? (request.positional.value p.position) = some fault ∧
        ofRequest request = .error (.lifecycle (p.complaint fault)) := by
  obtain ⟨p, hp, fault, fails, checked⟩ := faulty
  obtain ⟨q, hq, position, name, failing⟩ :=
    Method.checked_fault_iff.2 ⟨p, hp, rfl, rfl, fails, checked⟩
  cases refusal : firstRefusal? method.checked request.positional with
  | none =>
    have passes := firstRefusal?_eq_none_iff.1 refusal q hq
    rw [position, failing] at passes
    cases passes
  | some e =>
    obtain ⟨first, hf, flaw, own, rfl⟩ := exists_of_firstRefusal? refusal
    obtain ⟨p', hp', position, name, declared, _⟩ :=
      Method.checked_fault_iff.1 ⟨first, hf, rfl, rfl, own⟩
    refine ⟨p', hp', flaw, by rw [position, declared], ?_⟩
    rw [ofRequest_of_known known, (reads_ofArguments method).refused refusal, Parameter.complaint,
      Parameter.complaint, name]
    rfl

/-- A request without a faulty argument is carried out. -/
theorem ofRequest_of_faultless (known : Method.ofName? request.method = some method)
    (faultless : ¬request.Faulty method) : ∃ command, ofRequest request = .ok command := by
  have taken : firstRefusal? method.checked request.positional = none := by
    refine firstRefusal?_eq_none_iff.2 fun q hq => Option.eq_none_iff_forall_not_mem.2 ?_
    intro fault fails
    obtain ⟨p, hp, position, _, declared, checked⟩ :=
      Method.checked_fault_iff.1 ⟨q, hq, rfl, rfl, fails⟩
    exact faultless ⟨p, hp, fault, by rw [position, declared], by rwa [position]⟩
  obtain ⟨command, read⟩ := (reads_ofArguments method).taken taken
  exact ⟨command, by rw [ofRequest_of_known known, read]; rfl⟩

end Command

end CloudLifecycle
