import CloudProvider.Proofs.Media

/-! # What is stored of an environment is what is fetched

The documents that a process writes can be read again by the next one. An environment fits into its
document if its open parts are as a reader builds them and the document nests no deeper than a reader
goes; this is all that is asked of it, whatever its texts hold. In a control plane in memory the document
then takes the place of the one before it, and of nothing else.
-/

namespace CloudProvider

/-- A member of an object nests less than the object. -/
theorem Json.depth_of_mem {fields : List (String × Json)} {k : String} {j : Json} {n : Nat}
    (h : (Json.obj fields).depth ≤ n + 1) (hm : (k, j) ∈ fields) : j.depth ≤ n :=
  depthFields_le.1 (Nat.le_of_succ_le_succ h) (k, j) hm

namespace Agent.Environment
variable {e : Environment}

/-- The open parts of an environment. -/
def openParts (e : Environment) : List Json.Members :=
  [e.networks, e.env, e.disks, e.blobstore.options]

/-- Every object inside the open parts has its members by ascending name. -/
def Canonical (e : Environment) : Prop := ∀ m ∈ e.openParts, (Json.ofMembers m).Canonical

/-- Members that stand inside a document fit there. -/
theorem fit_of_depth {m : Json.Members} {levels : Nat} (canonical : (Json.ofMembers m).Canonical)
    (whole : (Json.ofMembers m).IntegersOnly) (shallow : (Json.ofMembers m).depth ≤ levels + 1) :
    m.Fit levels :=
  (Json.Fits.fields ⟨canonical, whole, shallow⟩).2

/-- An environment is well formed if its document nests no deeper than texts may. -/
theorem wellFormed_of_depth (canonical : e.Canonical) (whole : e.toJson.IntegersOnly)
    (shallow : e.toJson.depth ≤ 127) : e.WellFormed := by
  obtain ⟨-, -, -, -, networks, env, disks, ⟨-, options, -⟩, -⟩ := whole
  have depth : ∀ (name : String) (j : Json), (name, j) ∈ [("networks", Json.ofMembers e.networks),
      ("env", .ofMembers e.env), ("disks", .ofMembers e.disks), ("blobstore", e.blobstore.toJson)] →
      j.depth ≤ 126 := fun name j hm =>
    Json.depth_of_mem (k := name) shallow (List.mem_of_mem_drop (i := 4) hm)
  have blobstore : e.blobstore.toJson.depth ≤ 126 := depth "blobstore" _ (by simp)
  have depth' : (Json.ofMembers e.blobstore.options).depth ≤ 125 :=
    Json.depth_of_mem (k := "options") blobstore (by simp)
  exact ⟨fit_of_depth (canonical _ (by simp [openParts])) networks (depth "networks" _ (by simp)),
    fit_of_depth (canonical _ (by simp [openParts])) env (depth "env" _ (by simp)),
    fit_of_depth (canonical _ (by simp [openParts])) disks (depth "disks" _ (by simp)),
    fit_of_depth (canonical _ (by simp [openParts])) options depth'⟩

theorem WellFormed.canonical (h : e.WellFormed) : e.Canonical := by
  have members : ∀ {m : Json.Members} {levels : Nat}, m.Fit levels → (Json.ofMembers m).Canonical :=
    fun {m} _ fit => (Json.Fits.obj m.ascending fit).canonical
  intro m hm
  simp only [openParts, List.mem_cons, List.not_mem_nil, or_false] at hm
  rcases hm with rfl | rfl | rfl | rfl
  · exact members h.networks
  · exact members h.env
  · exact members h.disks
  · exact members h.options

end Agent.Environment

namespace World
variable {σ α : Type}

/-- Carries out a call that nobody has requested. -/
def carryOut (w : World σ) (call : Call α) (s : At σ) : Except Failure α × At σ :=
  let r := (call.run.run w.host).run s.log s.state
  (r.1.1, ⟨r.1.2, r.2⟩)

/-- What comes of a call is what its program ends in. -/
theorem carryOut_within (w : World σ) (fresh : Nat → String) {allowed : (e : Effect) → e.Reply → Prop}
    (within : ∀ e t, allowed e (w.answer e t).1) {call : Call α} {s : At (Inventory × σ)}
    {Q : α → Inventory → Prop} {E : Failure → Inventory → Prop}
    (h : Call.Ends (Inventory.Answers fresh allowed) call Q E s.state.1) :
    Call.Ending Q E ((w.withInventory fresh).carryOut call s).1
      ((w.withInventory fresh).carryOut call s).2.state.1 := by
  have answers (e : Effect) (l : CallLog) (t : Inventory × σ) :
      Inventory.Answers fresh allowed e t.1
        (((w.withInventory fresh).host.answer e).run l t).1.1
        (((w.withInventory fresh).host.answer e).run l t).2.1 := by
    cases e with
    | remote op => rfl
    | runTool | openFile | writeFile | createDirectory | createFile | removeDirectory | removeFile =>
      exact ⟨within _ _, rfl⟩
  exact Program.run_ends answers (fun _ _ _ => rfl) h

theorem carryOut_ends (w : World σ) (fresh : Nat → String) {call : Call α} {s : At (Inventory × σ)}
    {Q : α → Inventory → Prop} {E : Failure → Inventory → Prop}
    (h : Call.Ends (Inventory.Answers fresh fun _ _ => True) call Q E s.state.1) :
    Call.Ending Q E ((w.withInventory fresh).carryOut call s).1
      ((w.withInventory fresh).carryOut call s).2.state.1 :=
  w.carryOut_within fresh (fun _ _ => trivial) h

end World

namespace Inventory

/-- A machine has another document of its environment, and nothing else has changed. -/
structure Rewritten (vm : String) (inv inv' : Inventory) : Prop where
  keys : ∀ key, key ≠ Agent.metadataKey → inv'.metadata? vm key = inv.metadata? vm key
  machine : ∀ record, inv.vms.find? vm = some record →
    ∃ metadata, inv'.vms.find? vm = some { record with vm := { record.vm with metadata := metadata } }
  others : ∀ id, id ≠ vm → inv'.vms.find? id = inv.vms.find? id
  disks : inv'.disks = inv.disks
  images : inv'.images = inv.images

section
variable {fresh : Nat → String} {allowed : (e : Effect) → e.Reply → Prop} {inv inv' : Inventory}
variable {vm : String} {record : VmRecord}

theorem Rewritten.of_holds (hf : inv.vms.find? vm = some record) {document : String}
    (hh : inv'.Holds (inv.vms.insert vm ⟨record.vm.withDocument document, record.iso⟩) inv.disks
      inv.images) : inv.Rewritten vm inv' := by
  obtain ⟨hv, hd, hi⟩ := hh
  refine ⟨fun key hk => ?_, fun record' hf' => ?_, fun id hne => ?_, hd, hi⟩
  · show (inv'.vms.find? vm).bind _ = (inv.vms.find? vm).bind _
    rw [hv, SortedMap.find?_insert_self, hf]
    exact SortedMap.find?_insert_of_ne _ hk _
  · rw [hf] at hf'
    cases hf'
    rw [hv, SortedMap.find?_insert_self]
    exact ⟨_, rfl⟩
  · rw [hv, SortedMap.find?_insert_of_ne _ hne]

/-- The document of an environment is stored, if nothing stands against it. -/
theorem ends_store (clear : inv.Faultless) (hf : inv.vms.find? vm = some record)
    (env : Agent.Environment) :
    Call.Ends (Answers fresh allowed) (Agent.store vm env)
      (fun _ inv' => Later inv inv' ∧ inv'.Holds
        (inv.vms.insert vm ⟨record.vm.withDocument env.document, record.iso⟩) inv.disks inv.images)
      (fun _ _ => False) inv := by
  rw [Agent.store, Call.ends_bind]
  refine ends_remote (fun f inv₁ _ _ hr => ?_) fun t inv₁ hl hp => ⟨hl, ?_⟩
  · have := (not_refused clear hr).1
    rw [hf] at this
    cases this
  · exact ChangesVm.holds hp ⟨(SortedMap.insert_of_find? hf).symm, rfl, rfl⟩

/-- What can be read is fetched, and nothing is changed by that. -/
theorem ends_fetch_reads (clear : inv.Faultless) (hf : inv.vms.find? vm = some record)
    {env : Agent.Environment} (hr : record.vm.Reads env) :
    Call.Ends (Answers fresh allowed) (Agent.fetch vm)
      (fun env' inv' => env' = env ∧ inv'.Holds inv.vms inv.disks inv.images) (fun _ _ => False) inv := by
  refine ends_fetch (fun f inv' _ _ hn => hn clear record env hf hr) fun record' env' inv' _ hh hf' hr' => ?_
  rw [hf] at hf'
  cases hf'
  exact ⟨hr'.unique hr, hh⟩

end
end Inventory

/-- An environment that is stored with a machine is fetched again as it was, and nothing but its
document has changed; and what a text decodes to is decoded again from what is written of it. -/
theorem Agent.Environment.round_trip :
    (∀ {σ : Type} (w : World σ) (fresh : Nat → String) (s : World.At (Inventory × σ)) (vm : String)
      (env : Environment), s.state.1.Faultless → (s.state.1.vms.find? vm).isSome → env.Canonical →
      env.toJson.IntegersOnly → env.toJson.depth ≤ 127 →
      let stored := (w.withInventory fresh).carryOut (Agent.store vm env) s
      let fetched := (w.withInventory fresh).carryOut (Agent.fetch vm) stored.2
      stored.1 = .ok () ∧ fetched.1 = .ok env ∧ s.state.1.Rewritten vm fetched.2.state.1) ∧
    ∀ (text : String) (env : Environment), decoder.ofText text = .ok env → env.toJson.IntegersOnly →
      decoder.ofText env.document = .ok env := by
  refine ⟨fun w fresh s vm env clear found canonical whole shallow => ?_, fun text env read whole =>
    decoder_document (wellFormed_of_ofText read whole)⟩
  obtain ⟨record, hf⟩ := Option.isSome_iff_exists.1 found
  intro stored fetched
  have hs := w.carryOut_ends fresh (Inventory.ends_store clear hf env)
  change Call.Ending _ _ stored.1 stored.2.state.1 at hs
  cases hr : stored.1 with
  | error f =>
    rw [hr] at hs
    exact hs.elim
  | ok u =>
    rw [hr] at hs
    obtain ⟨later, hh⟩ := hs
    have hf' : stored.2.state.1.vms.find? vm = some ⟨record.vm.withDocument env.document, record.iso⟩ := by
      rw [hh.1, SortedMap.find?_insert_self]
    have reads := record.vm.reads_withDocument (wellFormed_of_depth canonical whole shallow)
    have hq := w.carryOut_ends fresh (Inventory.ends_fetch_reads (later.faultless clear) hf' reads)
    change Call.Ending _ _ fetched.1 fetched.2.state.1 at hq
    cases hr' : fetched.1 with
    | error f =>
      rw [hr'] at hq
      exact hq.elim
    | ok env' =>
      rw [hr'] at hq
      obtain ⟨rfl, hh'⟩ := hq
      exact ⟨rfl, rfl, .of_holds hf (hh.trans hh')⟩

/-- An environment of which nothing can be written down as it is. -/
def Agent.Environment.thorny : Environment where
  agentId := "\"\\\n\x01é"
  vm := ⟨"", "\x7f/"⟩
  mbus := "nats"
  ntp := [""]
  networks := .singleton "\t" (.obj [("", .num (.natural 18446744073709551615)), ("\"", .arr [.null, .obj []])])
  env := ∅
  disks := .singleton persistentKey (.arr [.num (.negative ⟨9223372036854775807, by decide⟩), .bool true])
  blobstore := ⟨"\x08", ∅⟩

/-- A text that it is read from: records stand as lists, and members are null, absent or unknown. -/
def Agent.Environment.thornyText : String :=
  "[\"\\\"\\\\\\n\\u0001\\u00e9\", [\"\", \"\\u007f\\/\"], \"nats\", [\"\"], " ++
  "\x7b\"\\t\": \x7b\"\\\"\": [null, \x7b\x7d], \"\": 18446744073709551615\x7d\x7d, null, " ++
  "\x7b\"persistent\": [-9223372036854775808, true]\x7d, \x7b\"unknown\": [], \"provider\": \"\\b\"\x7d]"

theorem Agent.Environment.round_trip_thorny :
    let s : World.At (Inventory × Unit) := ⟨.empty, (Inventory.empty false).insertVm "vm-1", ()⟩
    let stored := (World.calm.withInventory Nat.repr).carryOut (Agent.store "vm-1" thorny) s
    ((World.calm.withInventory Nat.repr).carryOut (Agent.fetch "vm-1") stored.2).1 = .ok thorny ∧
      decoder.ofText thornyText = .ok thorny ∧ decoder.ofText thorny.document = .ok thorny := by
  have whole : thorny.toJson.IntegersOnly :=
    ⟨trivial, ⟨trivial, trivial, trivial⟩, trivial, ⟨trivial, trivial⟩,
      ⟨⟨trivial, ⟨trivial, trivial, trivial⟩, trivial⟩, trivial⟩, trivial,
      ⟨⟨trivial, trivial, trivial⟩, trivial⟩, ⟨trivial, trivial, trivial⟩, trivial⟩
  have read : decoder.ofText thornyText = .ok thorny := Json.ok_of_toOption (by decide +kernel)
  have canonical : thorny.Canonical := (wellFormed_of_ofText read whole).canonical
  exact ⟨(round_trip.1 World.calm Nat.repr _ "vm-1" thorny (fun _ => rfl) (by decide +kernel) canonical
    whole (by decide +kernel)).2.1, read, round_trip.2 thornyText thorny read whole⟩

end CloudProvider
