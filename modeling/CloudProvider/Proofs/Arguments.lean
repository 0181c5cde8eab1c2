import CloudProvider.Dispatch
import CloudProvider.Proofs.Json.Decode

/-! # What calls ask of their arguments

Every call begins by taking its arguments apart. `reads` tells for each method which positions of the
list it looks at and what must stand there; arguments are taken exactly when that is so
(`Decodes.accepts`), and whatever else stands in the list has no part in what is made of them
(`Decodes.same`).
-/

namespace CloudProvider.Arguments
variable {values values' : List Json} {index : Nat} {name : String}

/-! ## Single positions -/

theorem bind_eq_ok {ε α β : Type} {x : Except ε α} {f : α → Except ε β} {y : β} :
    (x >>= f) = .ok y ↔ ∃ a, x = .ok a ∧ f a = .ok y := by
  constructor
  · exact Json.bind_ok
  · rintro ⟨a, rfl, h⟩
    exact h

theorem expect_eq_ok {n : Nat} {u : Unit} : expect values n = .ok u ↔ n ≤ values.length := by
  unfold expect
  split
  · rename_i h
    simp only [reduceCtorEq, false_iff]
    omega
  · rename_i h
    simp only [true_iff]
    omega

theorem string_eq_ok {s : String} :
    string values index name = .ok s ↔ values[index]? = some (.str s) := by
  unfold string position
  rw [List.getD_eq_getElem?_getD]
  cases values[index]? with
  | none => simp [Json.asString?]
  | some j => cases j <;> simp [Json.asString?]

theorem object_eq_ok {fields : Entries Json} :
    object values index name = .ok fields ↔ values[index]? = some (.obj fields) := by
  unfold object position
  rw [List.getD_eq_getElem?_getD]
  cases values[index]? with
  | none => simp [Json.asFields?]
  | some j => cases j <;> simp [Json.asFields?]

theorem number_eq_ok {x : Float} :
    number values index name = .ok x ↔ ∃ n, values[index]? = some (.num n) ∧ n.toFloat = x := by
  unfold number position
  rw [List.getD_eq_getElem?_getD]
  cases values[index]? with
  | none => simp [Json.asNumber?]
  | some j => cases j <;> simp [Json.asNumber?]

theorem property_eq_ok {properties : Entries Json} {key s : String} :
    property properties key = .ok s ↔ properties.find? key = some (.str s) := by
  unfold property
  cases Entries.find? key properties with
  | none => simp [Json.asString?]
  | some j => cases j <;> simp [Json.asString?]

/-- A list is as long as another if they agree as far as it goes. -/
theorem length_eq {n : Nat} (h : ∀ i < n, values[i]? = values'[i]?) (short : values.length < n) :
    values'.length = values.length := by
  have beyond : values'[values.length]? = none := by
    rw [← h _ short]
    exact List.getElem?_eq_none (Nat.le_refl _)
  have le : values'.length ≤ values.length := List.getElem?_eq_none_iff.1 beyond
  have beyond' : values[values'.length]? = none := by
    rw [h _ (Nat.lt_of_le_of_lt le short)]
    exact List.getElem?_eq_none (Nat.le_refl _)
  have ge : values.length ≤ values'.length := List.getElem?_eq_none_iff.1 beyond'
  exact Nat.le_antisymm le ge

theorem expect_congr {n : Nat}
    (h : values.length < n ∨ values'.length < n → values'.length = values.length) :
    expect values n = expect values' n := by
  unfold expect
  by_cases hs : values.length < n ∨ values'.length < n
  · rw [h hs]
  · rw [if_neg (by omega), if_neg (by omega)]

/-- Positions without a gap tell whether a list is long enough, and how long it is if it is not. -/
theorem expect_congr_of_agree {n : Nat} (h : ∀ i < n, values[i]? = values'[i]?) :
    expect values n = expect values' n := by
  apply expect_congr
  rintro (short | short)
  · exact length_eq h short
  · exact (length_eq (fun i hi => (h i hi).symm) short).symm

theorem position_congr (h : values[index]? = values'[index]?) :
    position values index = position values' index := by
  rw [position, position, List.getD_eq_getElem?_getD, List.getD_eq_getElem?_getD, h]

theorem string_congr (h : values[index]? = values'[index]?) (name : String) :
    string values index name = string values' index name := by
  rw [string, string, position_congr h]

theorem object_congr (h : values[index]? = values'[index]?) (name : String) :
    object values index name = object values' index name := by
  rw [object, object, position_congr h]

theorem number_congr (h : values[index]? = values'[index]?) (name : String) :
    number values index name = number values' index name := by
  rw [number, number, position_congr h]

/-! ## Whole lists -/

def IsText (j : Json) : Prop := ∃ s, j = .str s

def IsObject (j : Json) : Prop := ∃ fields, j = .obj fields

/-- A size in MiB that makes one GiB at least when it is rounded up. -/
def IsDiskSize (j : Json) : Prop := ∃ n, j = .num n ∧ (Decimal.ceil? (n.toFloat / 1000)).isSome

/-- A positive whole number. -/
def IsWholeSize : Json → Prop
  | .num (.natural n) => 0 < n
  | .num (.real x) => (Decimal.positiveWhole? x).isSome
  | _ => False

def HasText (properties : Entries Json) (key : String) : Prop :=
  ∃ s, properties.find? key = some (.str s)

def IsDiskProperties (j : Json) : Prop := ∃ fields, j = .obj fields ∧ HasText fields "disk_flavor"

/-- The size of the machine's own disk may be left out. -/
def IsVmProperties (j : Json) : Prop :=
  ∃ fields, j = .obj fields ∧ HasText fields "vm_flavor" ∧ HasText fields "disk_flavor" ∧
    ∀ size, Entries.find? CloudProperties.sizeKey fields = some size → IsWholeSize size

def IsImagePath (j : Json) : Prop := ∃ path, j = .str path ∧ (PathName.baseName? path).isSome

/-- The positions that the call of a method reads, and what it takes there. -/
def reads : String → List (Nat × (Json → Prop))
  | "create_stemcell" => [(0, IsImagePath)]
  | "create_vm" => [(0, IsText), (1, IsText), (2, IsVmProperties), (3, IsObject), (5, IsObject)]
  | "create_disk" => [(0, IsDiskSize), (1, IsDiskProperties), (2, IsText)]
  | "attach_disk" | "detach_disk" => [(0, IsText), (1, IsText)]
  | "set_vm_metadata" => [(0, IsText), (1, IsObject)]
  | _ => [(0, IsText)]

def positions (method : String) : List Nat := (reads method).map (·.1)

/-- Every position that is read is given, and holds what it must. -/
def Accepted (method : String) (args : List Json) : Prop :=
  ∀ p ∈ reads method, ∃ j, args[p.1]? = some j ∧ p.2 j

/-- The arguments of a method are taken apart by `parse`. -/
structure Decodes {α : Type} (method : String) (parse : List Json → Except ArgumentFault α) : Prop where
  accepts : ∀ args, (∃ a, parse args = .ok a) ↔ Accepted method args
  /-- Only the method that passes over a position may be given lists that agree and are too short, but
  are not equally long. -/
  same : ∀ args args', (∀ i ∈ positions method, args[i]? = args'[i]?) →
    (method = "create_vm" → args.length < 6 → args'.length = args.length) → parse args = parse args'

theorem length_of_given {j : Json} (h : values[index]? = some j) : index < values.length :=
  (List.getElem?_eq_some_iff.1 h).1

/-- The only argument is an id. -/
theorem decodes_id {method : String} (hm : reads method = [(0, IsText)]) (name : String) :
    Decodes method fun args => do expect args 1; string args 0 name where
  accepts args := by
    constructor
    · rintro ⟨s, h⟩
      obtain ⟨-, -, h⟩ := Json.bind_ok h
      intro p hp
      rw [hm, List.mem_singleton] at hp
      subst hp
      exact ⟨_, string_eq_ok.1 h, s, rfl⟩
    · intro h
      obtain ⟨j, hj, s, rfl⟩ := h (0, IsText) (by rw [hm]; exact List.mem_singleton_self _)
      have long : expect args 1 = .ok () := expect_eq_ok.2 (length_of_given hj)
      exact ⟨s, bind_eq_ok.2 ⟨(), long, string_eq_ok.2 hj⟩⟩
  same args args' agree _ := by
    have gapless : ∀ i < 1, i ∈ positions method := by rw [positions, hm]; decide
    have agree : ∀ i < 1, args[i]? = args'[i]? := fun i hi => agree i (gapless i hi)
    rw [expect_congr_of_agree agree, string_congr (agree 0 (by decide))]

/-- A machine and a disk. -/
theorem pair_eq_ok {pair : String × String} : Disks.pair values = .ok pair ↔
    2 ≤ values.length ∧ values[0]? = some (.str pair.1) ∧ values[1]? = some (.str pair.2) := by
  obtain ⟨vm, disk⟩ := pair
  unfold Disks.pair
  simp only [bind_eq_ok, expect_eq_ok, string_eq_ok, pure, Except.pure, Except.ok.injEq, Prod.mk.injEq]
  constructor
  · rintro ⟨-, long, _, hv, _, hd, rfl, rfl⟩
    exact ⟨long, hv, hd⟩
  · rintro ⟨long, hv, hd⟩
    exact ⟨(), long, vm, hv, disk, hd, rfl, rfl⟩

theorem decodes_pair {method : String} (hm : reads method = [(0, IsText), (1, IsText)]) :
    Decodes method Disks.pair where
  accepts args := by
    constructor
    · rintro ⟨pair, h⟩
      obtain ⟨-, hv, hd⟩ := pair_eq_ok.1 h
      intro p hp
      simp only [hm, List.mem_cons, List.not_mem_nil, or_false] at hp
      rcases hp with rfl | rfl
      · exact ⟨_, hv, _, rfl⟩
      · exact ⟨_, hd, _, rfl⟩
    · intro h
      obtain ⟨_, hv, vm, rfl⟩ := h (0, IsText) (by simp [hm])
      obtain ⟨_, hd, disk, rfl⟩ := h (1, IsText) (by simp [hm])
      exact ⟨(vm, disk), pair_eq_ok.2 ⟨length_of_given hd, hv, hd⟩⟩
  same args args' agree _ := by
    have gapless : ∀ i < 2, i ∈ positions method := by rw [positions, hm]; decide
    have agree : ∀ i < 2, args[i]? = args'[i]? := fun i hi => agree i (gapless i hi)
    rw [Disks.pair, Disks.pair, expect_congr_of_agree agree, string_congr (agree 0 (by decide)),
      string_congr (agree 1 (by decide))]

/-- A machine and its tags. -/
theorem decodes_tags : Decodes "set_vm_metadata" fun args => do
    expect args 2
    let vm ← string args 0 "vm_cid"
    let metadata ← object args 1 "metadata"
    return (vm, metadata) where
  accepts args := by
    simp only [bind_eq_ok, expect_eq_ok, string_eq_ok, object_eq_ok]
    constructor
    · rintro ⟨_, -, -, vm, hv, fields, hf, -⟩
      intro p hp
      simp only [reads, List.mem_cons, List.not_mem_nil, or_false] at hp
      rcases hp with rfl | rfl
      · exact ⟨_, hv, vm, rfl⟩
      · exact ⟨_, hf, fields, rfl⟩
    · intro h
      obtain ⟨_, hv, vm, rfl⟩ := h (0, IsText) (by simp [reads])
      obtain ⟨_, hf, fields, rfl⟩ := h (1, IsObject) (by simp [reads])
      exact ⟨(vm, fields), (), length_of_given hf, vm, hv, fields, hf, rfl⟩
  same args args' agree _ := by
    have gapless : ∀ i < 2, i ∈ positions "set_vm_metadata" := by decide
    have long : expect args 2 = expect args' 2 := expect_congr_of_agree fun i hi => agree i (gapless i hi)
    rw [long, string_congr (agree 0 (by decide)), object_congr (agree 1 (by decide))]

theorem decodes_image : Decodes "create_stemcell" Stemcells.Image.parse where
  accepts args := by
    unfold Stemcells.Image.parse
    simp only [bind_eq_ok, expect_eq_ok, string_eq_ok]
    constructor
    · rintro ⟨image, _, -, path, hp, h⟩
      intro p hr
      simp only [reads, List.mem_singleton] at hr
      subst hr
      refine ⟨_, hp, path, rfl, ?_⟩
      cases hb : PathName.baseName? path with
      | none => rw [hb] at h; cases h
      | some name => rfl
    · intro h
      obtain ⟨_, hp, path, rfl, named⟩ := h (0, IsImagePath) (by simp [reads])
      obtain ⟨name, hb⟩ := Option.isSome_iff_exists.1 named
      refine ⟨⟨path, name⟩, (), length_of_given hp, path, hp, ?_⟩
      rw [hb]
      rfl
  same args args' agree _ := by
    have gapless : ∀ i < 1, i ∈ positions "create_stemcell" := by decide
    have long : expect args 1 = expect args' 1 := expect_congr_of_agree fun i hi => agree i (gapless i hi)
    have first : args[0]? = args'[0]? := agree 0 (by decide)
    rw [Stemcells.Image.parse, Stemcells.Image.parse, long, string_congr first]

theorem sizeInGb_ok (sizeMb : Float) :
    (∃ gb, sizeInGb sizeMb = .ok gb) ↔ (Decimal.ceil? (sizeMb / 1000)).isSome := by
  unfold sizeInGb
  cases Decimal.ceil? (sizeMb / 1000) with
  | none => simp
  | some gb => simp

theorem parseSize_ok (value : Json) :
    (∃ size, CloudProperties.parseSize value = .ok size) ↔ IsWholeSize value := by
  unfold CloudProperties.parseSize IsWholeSize
  cases value with
  | num n =>
    cases n with
    | natural n =>
      by_cases hn : 0 < n <;> simp [hn]
    | negative below => simp
    | real x => cases hx : Decimal.positiveWhole? x <;> simp [hx]
  | _ => simp

theorem ofFields_ok (fields : Entries Json) : (∃ p, CloudProperties.ofFields fields = .ok p) ↔
    HasText fields "vm_flavor" ∧ HasText fields "disk_flavor" ∧
      ∀ size, Entries.find? CloudProperties.sizeKey fields = some size → IsWholeSize size := by
  unfold CloudProperties.ofFields
  simp only [bind_eq_ok, property_eq_ok]
  constructor
  · rintro ⟨_, vm, hv, disk, hd, h⟩
    refine ⟨⟨vm, hv⟩, ⟨disk, hd⟩, fun value hf => ?_⟩
    rw [hf] at h
    obtain ⟨size, hs, -⟩ := Json.bind_ok h
    exact (parseSize_ok value).1 ⟨size, hs⟩
  · rintro ⟨⟨vm, hv⟩, ⟨disk, hd⟩, sized⟩
    cases hf : Entries.find? CloudProperties.sizeKey fields with
    | none => exact ⟨_, vm, hv, disk, hd, rfl⟩
    | some value =>
      obtain ⟨size, hs⟩ := (parseSize_ok value).2 (sized value hf)
      exact ⟨⟨vm, disk, size⟩, vm, hv, disk, hd, bind_eq_ok.2 ⟨size, hs, rfl⟩⟩

/-- What the parts of the list are that make a machine. -/
theorem createVm_eq_ok {a : Vms.CreateArguments} : Vms.CreateArguments.parse values = .ok a ↔
    6 ≤ values.length ∧ values[0]? = some (.str a.agentId) ∧ values[1]? = some (.str a.stemcellId) ∧
      (∃ fields, values[2]? = some (.obj fields) ∧ CloudProperties.ofFields fields = .ok a.properties) ∧
      (∃ networks, values[3]? = some (.obj networks) ∧ .ofList networks = a.networks) ∧
      ∃ env, values[5]? = some (.obj env) ∧ .ofList env = a.env := by
  obtain ⟨agentId, stemcellId, properties, networks, env⟩ := a
  unfold Vms.CreateArguments.parse
  simp only [bind_eq_ok, expect_eq_ok, string_eq_ok, object_eq_ok]
  constructor
  · rintro ⟨-, long, _, h₀, _, h₁, fields, h₂, _, hp, _, h₃, _, h₅, h⟩
    cases h
    exact ⟨long, h₀, h₁, ⟨fields, h₂, hp⟩, ⟨_, h₃, rfl⟩, _, h₅, rfl⟩
  · rintro ⟨long, h₀, h₁, ⟨fields, h₂, hp⟩, ⟨networks, h₃, rfl⟩, env, h₅, rfl⟩
    exact ⟨(), long, _, h₀, _, h₁, fields, h₂, _, hp, networks, h₃, env, h₅, rfl⟩

theorem decodes_createVm : Decodes "create_vm" Vms.CreateArguments.parse where
  accepts args := by
    constructor
    · rintro ⟨a, h⟩
      obtain ⟨-, h₀, h₁, ⟨fields, h₂, hp⟩, ⟨networks, h₃, -⟩, env, h₅, -⟩ := createVm_eq_ok.1 h
      have properties := (ofFields_ok fields).1 ⟨_, hp⟩
      intro p hp
      simp only [reads, List.mem_cons, List.not_mem_nil, or_false] at hp
      rcases hp with rfl | rfl | rfl | rfl | rfl
      · exact ⟨_, h₀, _, rfl⟩
      · exact ⟨_, h₁, _, rfl⟩
      · exact ⟨_, h₂, fields, rfl, properties⟩
      · exact ⟨_, h₃, networks, rfl⟩
      · exact ⟨_, h₅, env, rfl⟩
    · intro h
      obtain ⟨_, h₀, agentId, rfl⟩ := h (0, IsText) (by simp [reads])
      obtain ⟨_, h₁, stemcellId, rfl⟩ := h (1, IsText) (by simp [reads])
      obtain ⟨_, h₂, fields, rfl, properties⟩ := h (2, IsVmProperties) (by simp [reads])
      obtain ⟨_, h₃, networks, rfl⟩ := h (3, IsObject) (by simp [reads])
      obtain ⟨_, h₅, env, rfl⟩ := h (5, IsObject) (by simp [reads])
      obtain ⟨p, hp⟩ := (ofFields_ok fields).2 properties
      exact ⟨⟨agentId, stemcellId, p, .ofList networks, .ofList env⟩, createVm_eq_ok.2
        ⟨length_of_given h₅, h₀, h₁, ⟨fields, h₂, hp⟩, ⟨networks, h₃, rfl⟩, env, h₅, rfl⟩⟩
  same args args' agree gap := by
    have long : expect args 6 = expect args' 6 := by
      apply expect_congr
      rintro (short | short)
      · exact gap rfl short
      · -- The last position that is read is missing from both lists.
        have beyond : args[5]? = none := by
          rw [agree 5 (by decide)]
          exact List.getElem?_eq_none (by omega)
        have short' := List.getElem?_eq_none_iff.1 beyond
        exact gap rfl (by omega)
    rw [Vms.CreateArguments.parse, Vms.CreateArguments.parse, long,
      string_congr (agree 0 (by decide)), string_congr (agree 1 (by decide)),
      object_congr (agree 2 (by decide)), object_congr (agree 3 (by decide)),
      object_congr (agree 5 (by decide))]

theorem decodes_createDisk : Decodes "create_disk" Disks.CreateArguments.parse where
  accepts args := by
    unfold Disks.CreateArguments.parse
    simp only [bind_eq_ok, expect_eq_ok, string_eq_ok, object_eq_ok, number_eq_ok, property_eq_ok]
    constructor
    · rintro ⟨_, -, -, _, ⟨n, h₀, rfl⟩, gb, hs, fields, h₁, flavor, hd, vm, h₂, -⟩
      intro p hp
      simp only [reads, List.mem_cons, List.not_mem_nil, or_false] at hp
      rcases hp with rfl | rfl | rfl
      · exact ⟨_, h₀, n, rfl, (sizeInGb_ok _).1 ⟨gb, hs⟩⟩
      · exact ⟨_, h₁, fields, rfl, flavor, hd⟩
      · exact ⟨_, h₂, vm, rfl⟩
    · intro h
      obtain ⟨_, h₀, n, rfl, size⟩ := h (0, IsDiskSize) (by simp [reads])
      obtain ⟨_, h₁, fields, rfl, flavor, hd⟩ := h (1, IsDiskProperties) (by simp [reads])
      obtain ⟨_, h₂, vm, rfl⟩ := h (2, IsText) (by simp [reads])
      obtain ⟨gb, hs⟩ := (sizeInGb_ok _).2 size
      exact ⟨⟨gb, flavor, vm⟩, (), length_of_given h₂, _, ⟨n, h₀, rfl⟩, gb, hs, fields, h₁, flavor, hd,
        vm, h₂, rfl⟩
  same args args' agree _ := by
    have gapless : ∀ i < 3, i ∈ positions "create_disk" := by decide
    have long : expect args 3 = expect args' 3 := expect_congr_of_agree fun i hi => agree i (gapless i hi)
    rw [Disks.CreateArguments.parse, Disks.CreateArguments.parse, long, number_congr (agree 0 (by decide)),
      object_congr (agree 1 (by decide)), string_congr (agree 2 (by decide))]

end CloudProvider.Arguments
