import CloudProvider.ControlPlane.Codec
import CloudProvider.Envelope
import CloudProvider.Settings.Basic
import CloudProvider.Proofs.Json.Decode

/-! # Documents that are read back

What is written of a resource, of the settings or of a request is read as the same again. For each kind of
value this is one fact about its decoder and its encoder (`Inverts`), made from those of its members: a
member that is left out because it is empty is one that reads as empty where it is missing.
-/

namespace CloudProvider
open Json (Decoder Record Field Place)

namespace Json

/-- The decoder undoes the encoder where `levels` may be entered, and no number is written that has a
fraction. -/
structure Inverts {α : Type} (levels : Nat) (d : Decoder α) (toJson : α → Json) : Prop where
  decodes : ∀ (x : α) (p : Place), levels ≤ p.levels → d p (.ofJson (toJson x)) = .ok x
  integersOnly : ∀ x, (toJson x).IntegersOnly

namespace Inverts
variable {α : Type} {n : Nat} {d : Decoder α} {toJson : α → Json}

theorem string : Inverts n .string .str := ⟨fun _ _ _ => rfl, fun _ => trivial⟩

theorem bool : Inverts n .bool .bool := ⟨fun _ _ _ => rfl, fun _ => trivial⟩

theorem natural : Inverts n .natural .natural := ⟨fun _ _ _ => rfl, fun _ => trivial⟩

theorem nullable (h : Inverts n d toJson) (present : ∀ x, toJson x ≠ .null) :
    Inverts n d.nullable (.nullable toJson) where
  decodes x? p hp := by
    cases x? with
    | none => rfl
    | some x => exact Decoder.nullable_ofJson (present x) (h.decodes x p hp)
  integersOnly x? := by
    cases x? with
    | none => trivial
    | some x => exact h.integersOnly x

theorem list (h : Inverts n d toJson) : Inverts (n + 1) d.list fun xs => .arr (xs.map toJson) where
  decodes xs p hp := Decoder.list_ofJson hp fun x _ => h.decodes x
  integersOnly xs := by
    refine integersOnlyItems.2 fun j hj => ?_
    obtain ⟨x, -, rfl⟩ := List.mem_map.1 hj
    exact h.integersOnly x

theorem map (h : Inverts n d toJson) : Inverts (n + 1) d.map (.ofMap toJson) where
  decodes m p hp := by
    obtain ⟨p', he, hl⟩ := Place.enter_succ hp
    have entries : ∀ es : Entries α,
        Decoder.members d p' (Tree.ofFields (es.map fun e => (e.1, toJson e.2))) = .ok es := by
      intro es
      induction es with
      | nil => rfl
      | cons e es ih =>
        rw [List.map_cons, Tree.ofFields, Decoder.members, h.decodes e.2 p' hl, ih]
        rfl
    rw [ofMap, Tree.ofJson, Decoder.map, he]
    show (do let entries ← Decoder.members d p' (Tree.ofFields _); _) = _
    rw [entries]
    show Except.ok (SortedMap.ofList m.entries) = _
    rw [show SortedMap.ofList m.entries = m from SortedMap.ext (Entries.ofList_of_ascending m.ascending)]
  integersOnly m := by
    refine integersOnlyFields.2 fun e he => ?_
    obtain ⟨f, -, rfl⟩ := List.mem_map.1 he
    exact h.integersOnly f.2

/-- A whole text is read back, if it nests no deeper than a text may. -/
theorem ofText (h : Inverts n d toJson) (hn : n ≤ 127) (x : α) : d.ofText (toJson x).text = .ok x := by
  rw [Decoder.ofText_text _ (h.integersOnly x)]
  exact h.decodes x .ofText hn

end Inverts

namespace Record.Reads
variable {α β : Type} {r : Record (α → β)} {n : Nat} {fields : List (String × Option Json)} {g : α → β}

/-- One more member, which is always written. -/
theorem put (h : r.Reads n fields g) (f : Field α) {toJson : α → Json} (hf : Inverts n f.decoder toJson)
    (x : α) (new : f.name ∉ fields.map (·.1)) :
    (r.field f).Reads n (fields ++ [(f.name, some (toJson x))]) (g x) :=
  h.field new (hf.decodes x)

/-- One more member, which may be left out if it has its default. -/
theorem putDefaulted (h : r.Reads n fields g) (name : String) (default : α) {x : α} {d : Decoder α} {j : Json}
    (hd : ∀ p : Place, n ≤ p.levels → d p (.ofJson j) = .ok x) {j? : Option Json}
    (told : j? = some j ∨ j? = none ∧ x = default) (new : name ∉ fields.map (·.1)) :
    (r.field (.defaulted name default d)).Reads n (fields ++ [(name, j?)]) (g x) := by
  rcases told with rfl | ⟨rfl, rfl⟩
  · exact h.field new hd
  · exact h.member new nofun fun _ => rfl

/-- One more text, which is left out when it is empty. -/
theorem putUnlessEmpty {r : Record (String → β)} {g : String → β} (h : r.Reads n fields g) (name s : String)
    (new : name ∉ fields.map (·.1)) :
    (r.field (.defaulted name "" .string)).Reads n
      (fields ++ [(name, if s = "" then none else some (.str s))]) (g s) := by
  refine h.putDefaulted (j := .str s) name "" (fun _ _ => rfl) ?_ new
  split
  · exact .inr ⟨rfl, ‹_›⟩
  · exact .inl rfl

end Record.Reads
end Json

open Json (Inverts)

/-! ## Tasks -/

theorem TaskState.inverts (n : Nat) : Inverts n TaskState.decoder TaskState.toJson where
  decodes s p _ := by
    have found : TaskState.variants.lookup s.name = some s := by cases s <;> decide
    exact Decoder.variant_ofJson found
  integersOnly _ := trivial

theorem Entity.inverts (n : Nat) : Inverts (n + 1) Entity.decoder Entity.toJson where
  decodes e p hp := by
    have reads := Record.Reads.pure (n := n) Entity.mk
      |>.put (.required "id" .string) .string e.id (by simp)
      |>.put (.defaulted "kind" "" .string) .string e.kind (by simp)
    exact reads.decoder _ hp
  integersOnly _ := ⟨trivial, trivial, trivial⟩

theorem ErrorDetail.inverts (n : Nat) : Inverts (n + 1) ErrorDetail.decoder ErrorDetail.toJson where
  decodes e p hp := by
    have reads := Record.Reads.pure (n := n) ErrorDetail.mk
      |>.put (.defaulted "code" "" .string) .string e.code (by simp)
      |>.put (.defaulted "message" "" .string) .string e.message (by simp)
    exact reads.decoder _ hp
  integersOnly _ := ⟨trivial, trivial, trivial⟩

theorem TaskStep.inverts (n : Nat) : Inverts (n + 3) TaskStep.decoder TaskStep.toJson where
  decodes s p hp := by
    have reads := Record.Reads.pure (n := n + 2) TaskStep.mk
      |>.put (.defaulted "operation" "" .string) .string s.operation (by simp)
      |>.put (.defaulted "errors" [] (.list ErrorDetail.decoder)) (ErrorDetail.inverts n).list s.errors (by simp)
    exact reads.decoder _ hp
  integersOnly s := ⟨trivial, (ErrorDetail.inverts n).list.integersOnly s.errors, trivial⟩

theorem Task.inverts (n : Nat) : Inverts (n + 5) Task.decoder Task.toJson where
  decodes t p hp := by
    have reads := Record.Reads.pure (n := n + 4) Task.mk
      |>.put (.required "id" .string) .string t.id (by simp)
      |>.put (.required "state" TaskState.decoder) (TaskState.inverts _) t.state (by simp)
      |>.put (.defaulted "operation" "" .string) .string t.operation (by simp)
      |>.put (.defaulted "entity" ⟨"", ""⟩ Entity.decoder) (Entity.inverts _) t.entity (by simp)
      |>.put (.defaulted "steps" [] (.list TaskStep.decoder)) (TaskStep.inverts n).list t.steps (by simp)
    exact reads.decoder _ hp
  integersOnly t := by
    have entity := (Entity.inverts n).integersOnly t.entity
    have steps := (TaskStep.inverts n).list.integersOnly t.steps
    exact ⟨trivial, trivial, trivial, entity, steps, trivial⟩

/-! ## Machines -/

/-- Of the members that may be empty, those are written that are not. -/
theorem AttachedDisk.fields_eq (d : AttachedDisk) :
    d.toJson = .obj (Record.written [("id", if d.id = "" then none else some (.str d.id)),
      ("name", some (.str d.name)), ("kind", some (.str d.kind)), ("flavor", some (.str d.flavor)),
      ("capacityGb", some (.natural d.capacityGb)), ("bootDisk", some (.bool d.bootDisk)),
      ("state", if d.state = "" then none else some (.str d.state))]) := by
  by_cases hi : d.id = "" <;> by_cases hs : d.state = "" <;>
    simp [toJson, Json.unlessEmpty, Record.written, hi, hs]

theorem AttachedDisk.inverts (n : Nat) : Inverts (n + 1) AttachedDisk.decoder AttachedDisk.toJson where
  decodes d p hp := by
    have reads := Record.Reads.pure (n := n) AttachedDisk.mk
      |>.putUnlessEmpty "id" d.id (by simp)
      |>.put (.required "name" .string) .string d.name (by simp)
      |>.put (.required "kind" .string) .string d.kind (by simp)
      |>.put (.required "flavor" .string) .string d.flavor (by simp)
      |>.put (.required "capacityGb" .natural) .natural d.capacityGb (by simp)
      |>.put (.required "bootDisk" .bool) .bool d.bootDisk (by simp)
      |>.putUnlessEmpty "state" d.state (by simp)
    rw [d.fields_eq]
    exact reads.decoder _ hp
  integersOnly d := by
    by_cases hi : d.id = "" <;> by_cases hs : d.state = "" <;>
      simp [toJson, Json.unlessEmpty, hi, hs, Json.IntegersOnly, Json.IntegersOnlyFields, Json.natural,
        Number.IsInteger]

theorem VmCreateSpec.inverts (n : Nat) : Inverts (n + 3) VmCreateSpec.decoder VmCreateSpec.toJson where
  decodes s p hp := by
    have reads := Record.Reads.pure (n := n + 2) VmCreateSpec.mk
      |>.put (.required "name" .string) .string s.name (by simp)
      |>.put (.required "flavor" .string) .string s.flavor (by simp)
      |>.put (.required "sourceImageId" .string) .string s.sourceImageId (by simp)
      |>.put (.required "attachedDisks" (.list AttachedDisk.decoder)) (AttachedDisk.inverts n).list
        s.attachedDisks (by simp)
    exact reads.decoder _ hp
  integersOnly s := by
    have disks := (AttachedDisk.inverts n).list.integersOnly s.attachedDisks
    exact ⟨trivial, trivial, trivial, disks, trivial⟩

theorem Vm.inverts (n : Nat) : Inverts (n + 3) Vm.decoder Vm.toJson where
  decodes v p hp := by
    have reads := Record.Reads.pure (n := n + 2) Vm.mk
      |>.put (.required "id" .string) .string v.id (by simp)
      |>.put (.defaulted "name" "" .string) .string v.name (by simp)
      |>.put (.defaulted "state" "" .string) .string v.state (by simp)
      |>.put (.defaulted "attachedDisks" [] (.list AttachedDisk.decoder)) (AttachedDisk.inverts n).list
        v.attachedDisks (by simp)
      |>.put (.defaulted "metadata" ∅ (.map .string)) (Inverts.map .string) v.metadata (by simp)
    exact reads.decoder _ hp
  integersOnly v := by
    have disks := (AttachedDisk.inverts n).list.integersOnly v.attachedDisks
    have metadata := (Inverts.string (n := n)).map.integersOnly v.metadata
    exact ⟨trivial, trivial, trivial, disks, metadata, trivial⟩

theorem VmMetadata.inverts (n : Nat) : Inverts (n + 2) VmMetadata.decoder VmMetadata.toJson where
  decodes m p hp := by
    have reads := Record.Reads.pure (n := n + 1) VmMetadata.mk
      |>.put (.required "metadata" (.map .string)) (Inverts.map .string) m.metadata (by simp)
    exact reads.decoder _ hp
  integersOnly m := ⟨(Inverts.string (n := n)).map.integersOnly m.metadata, trivial⟩

/-! ## Disks -/

theorem DiskCreateSpec.inverts (n : Nat) : Inverts (n + 1) DiskCreateSpec.decoder DiskCreateSpec.toJson where
  decodes s p hp := by
    have reads := Record.Reads.pure (n := n) DiskCreateSpec.mk
      |>.put (.required "name" .string) .string s.name (by simp)
      |>.put (.required "kind" .string) .string s.kind (by simp)
      |>.put (.required "flavor" .string) .string s.flavor (by simp)
      |>.put (.required "capacityGb" .natural) .natural s.capacityGb (by simp)
    exact reads.decoder _ hp
  integersOnly _ := ⟨trivial, trivial, trivial, trivial, trivial⟩

theorem PersistentDisk.inverts (n : Nat) : Inverts (n + 2) PersistentDisk.decoder PersistentDisk.toJson where
  decodes d p hp := by
    have reads := Record.Reads.pure (n := n + 1) PersistentDisk.mk
      |>.put (.required "id" .string) .string d.id (by simp)
      |>.put (.defaulted "name" "" .string) .string d.name (by simp)
      |>.put (.defaulted "flavor" "" .string) .string d.flavor (by simp)
      |>.put (.defaulted "capacityGb" 0 .natural) .natural d.capacityGb (by simp)
      |>.put (.defaulted "vms" [] (.list .string)) (Inverts.list .string) d.vms (by simp)
    exact reads.decoder _ hp
  integersOnly d := by
    have vms := (Inverts.string (n := n)).list.integersOnly d.vms
    exact ⟨trivial, trivial, trivial, trivial, vms, trivial⟩

/-! ## Settings and requests -/

theorem ControlPlaneSettings.inverts (n : Nat) :
    Inverts (n + 1) ControlPlaneSettings.decoder ControlPlaneSettings.toJson where
  decodes s p hp := by
    have text : Inverts n (Decoder.nullable .string) (Json.nullable .str) := .nullable .string nofun
    have number : Inverts n (Decoder.nullable .natural) (Json.nullable .natural) := .nullable .natural nofun
    have reads := Record.Reads.pure (n := n) ControlPlaneSettings.mk
      |>.put (.required "target" .string) .string s.target (by simp)
      |>.put (.required "project" .string) .string s.projectId (by simp)
      |>.put (.defaulted "ignore_cert" false .bool) .bool s.ignoreCertificate (by simp)
      |>.put (.defaulted "user" none (.nullable .string)) text s.username (by simp)
      |>.put (.defaulted "password" none (.nullable .string)) text s.password (by simp)
      |>.put (.defaulted "token" none (.nullable .string)) text s.token (by simp)
      |>.put (.defaulted "task_poll_interval_ms" none (.nullable .natural)) number s.taskPollIntervalMs (by simp)
      |>.put (.defaulted "task_timeout_secs" none (.nullable .natural)) number s.taskTimeoutSecs (by simp)
    exact reads.decoder _ hp
  integersOnly s := by
    have text := (Inverts.nullable (n := n) .string nofun).integersOnly
    have number := (Inverts.nullable (n := n) .natural nofun).integersOnly
    exact ⟨trivial, trivial, trivial, text _, text _, text _, number _, number _, trivial⟩

namespace Request
variable {r : Request}

theorem arguments_fit (h : ∀ j ∈ r.arguments, j.Canonical ∧ j.IntegersOnly) {n : Nat}
    (shallow : r.toJson.depth ≤ n + 2) : ∀ j ∈ r.arguments, j.Fits n := by
  intro j hj
  have deep : Json.depthItems r.arguments ≤ n := by
    simp only [toJson, Json.depth, Json.depthFields] at shallow
    omega
  exact ⟨(h j hj).1, (h j hj).2, Json.depthItems_le.1 deep j hj⟩

theorem decoder_ofJson {n : Nat} (fit : ∀ j ∈ r.arguments, j.Fits n) {p : Place} (hp : n + 2 ≤ p.levels) :
    decoder p (.ofJson r.toJson) = .ok r := by
  have arguments : ∀ p : Place, n + 1 ≤ p.levels →
      Decoder.list .json p (.ofJson (.arr r.arguments)) = .ok r.arguments := by
    intro p hp
    have read : ∀ j ∈ r.arguments, ∀ p : Place, n ≤ p.levels → Decoder.json p (.ofJson j) = .ok j :=
      fun j hj p hl => Decoder.json_ofJson j (fit j hj).canonical (Nat.le_trans (fit j hj).shallow hl)
    have all := Decoder.list_ofJson hp read
    rwa [List.map_id'] at all
  have reads := Record.Reads.pure (n := n + 1) Request.mk
    |>.put (.required "method" .string) .string r.method (by simp)
    |>.field (f := .defaulted "arguments" [] (.list .json)) (j := .arr r.arguments) (by simp) arguments
  exact reads.decoder _ hp

end Request

/-- Whatever is written is read as what it is: every resource and every settings without exception, a request
if its arguments have no fractions and it nests no deeper than a text may. -/
theorem documents_read_back :
    (∀ t : Task, Task.decoder.ofText t.toJson.text = .ok t) ∧
    (∀ e : Entity, Entity.decoder.ofText e.toJson.text = .ok e) ∧
    (∀ v : Vm, Vm.decoder.ofText v.toJson.text = .ok v) ∧
    (∀ s : VmCreateSpec, VmCreateSpec.decoder.ofText s.toJson.text = .ok s) ∧
    (∀ d : AttachedDisk, AttachedDisk.decoder.ofText d.toJson.text = .ok d) ∧
    (∀ m : VmMetadata, VmMetadata.decoder.ofText m.toJson.text = .ok m) ∧
    (∀ s : DiskCreateSpec, DiskCreateSpec.decoder.ofText s.toJson.text = .ok s) ∧
    (∀ d : PersistentDisk, PersistentDisk.decoder.ofText d.toJson.text = .ok d) ∧
    (∀ s : ControlPlaneSettings, ControlPlaneSettings.decoder.ofText s.toJson.text = .ok s) ∧
    ∀ r : Request, (∀ j ∈ r.arguments, j.Canonical ∧ j.IntegersOnly) → r.toJson.depth ≤ 127 →
      Request.decoder.ofText r.toJson.text = .ok r := by
  refine ⟨(Task.inverts 0).ofText (by decide), (Entity.inverts 0).ofText (by decide),
    (Vm.inverts 0).ofText (by decide), (VmCreateSpec.inverts 0).ofText (by decide),
    (AttachedDisk.inverts 0).ofText (by decide), (VmMetadata.inverts 0).ofText (by decide),
    (DiskCreateSpec.inverts 0).ofText (by decide), (PersistentDisk.inverts 0).ofText (by decide),
    (ControlPlaneSettings.inverts 0).ofText (by decide), fun r whole shallow => ?_⟩
  have integers : r.toJson.IntegersOnly :=
    ⟨trivial, Json.integersOnlyItems.2 fun j hj => (whole j hj).2, trivial⟩
  rw [Decoder.ofText_text _ integers]
  exact Request.decoder_ofJson (Request.arguments_fit whole shallow) (Nat.le_refl _)

/-- A disk of which nothing is left out and one without an id and a state, settings without a token, and a
request with nested arguments. -/
theorem documents_read_back_sparse :
    let sparse : AttachedDisk := ⟨"", "boot\n", "ephemeral", "", 0xffffffffffffffff, true, ""⟩
    let vm : Vm := ⟨"vm-1", "", "STOPPED", [sparse, { sparse with id := "d", state := "\"" }],
      .singleton "bosh" "\x7b\x7d"⟩
    let settings : ControlPlaneSettings := ⟨"http://none", "p", true, some "", none, none, some 0, none⟩
    let request : Request := ⟨"create_vm", [.obj [("a", .arr [.null]), ("b", .num (.negative 0))]]⟩
    Vm.decoder.ofText vm.toJson.text = .ok vm ∧
      ControlPlaneSettings.decoder.ofText settings.toJson.text = .ok settings ∧
      Request.decoder.ofText request.toJson.text = .ok request := by
  intro sparse vm settings request
  obtain ⟨-, -, machine, -, -, -, -, -, given, asked⟩ := documents_read_back
  have whole : ∀ j ∈ request.arguments, j.Canonical ∧ j.IntegersOnly := by
    intro j hj
    cases List.mem_singleton.1 hj
    have ascending : Entries.Ascending [("a", Json.arr [.null]), ("b", .num (.negative 0))] :=
      List.pairwise_pair.2 (by decide)
    exact ⟨⟨ascending, ⟨trivial, trivial⟩, trivial, trivial⟩, ⟨trivial, trivial⟩, trivial, trivial⟩
  exact ⟨machine vm, given settings, asked request whole (by decide)⟩

end CloudProvider
