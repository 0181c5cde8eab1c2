import CloudProvider.Call.Vms
import CloudProvider.Envelope
import CloudProvider.Proofs.Arguments
import CloudProvider.Proofs.Environment
import CloudProvider.Proofs.World
import CloudProvider.Settings.Parse

/-! # What requests and settings hold

Every document that a process reads may nest to the same depth. An argument stands two levels inside a
request and a blobstore's option four levels inside the settings, so both fit into the document of an
environment, where they stand two and three levels in.
-/

namespace CloudProvider
open Json (Decoder Record Place Tree)

/-- An argument of a request that was read. -/
theorem Request.argument_fits {text : String} {request : Request}
    (h : decoder.ofText text = .ok request) (whole : request.toJson.IntegersOnly) :
    ∀ j ∈ request.arguments, j.Fits 125 := by
  obtain ⟨p, _, _, hp, h₂⟩ := Record.decoder_ok (Decoder.ofText_ok h)
  obtain ⟨_, arguments, h₁, rfl, ha⟩ := Record.build_field_ok h₂
  obtain ⟨_, method, h₀, rfl, -⟩ := Record.build_field_ok h₁
  cases h₀
  have hl : p.levels = 126 := Nat.succ_inj.1 hp.symm
  obtain ⟨-, whole, -⟩ := whole
  intro j hj
  have read : j.Canonical ∧ j.depth + 1 ≤ p.levels := by
    rcases ha with ⟨t, ha⟩ | ha | ha
    · exact Decoder.list_json_ok ha j hj
    · cases ha; cases hj
    · cases ha; cases hj
  exact ⟨read.1, Json.integersOnlyItems.1 whole j hj, by have := read.2; omega⟩

/-- Variables and checks leave what the agents are told as it was read. -/
theorem Settings.agent_of_parse {valueOf : String → Option String} {patience : Nat} {text : String}
    {settings : Settings} (h : parse valueOf patience text = some (.ok settings)) :
    ∃ read, decoder.ofText text = .ok read ∧ settings.agent = read.agent := by
  unfold parse at h
  split at h
  · cases h
  · rename_i read hr
    obtain ⟨expanded, he, hv⟩ := Option.map_eq_some_iff.1 h
    have valid : expanded = settings := by
      unfold validate at hv
      split at hv
      · cases hv
      · cases hv; rfl
    obtain ⟨username, -, he⟩ := Option.bind_eq_some_iff.1 he
    obtain ⟨password, -, he⟩ := Option.bind_eq_some_iff.1 he
    obtain ⟨token, -, he⟩ := Option.bind_eq_some_iff.1 he
    cases he
    exact ⟨read, hr, valid ▸ rfl⟩

theorem AgentSettings.options_ok {p : Place} {t : Tree} {s : AgentSettings} (h : decoder p t = .ok s) :
    ∀ e ∈ s.blobstore.options.entries, e.2.Canonical ∧ e.2.depth + 3 ≤ p.levels := by
  obtain ⟨p', _, _, hp, h₃⟩ := Record.decoder_ok h
  obtain ⟨_, blobstore, h₂, rfl, hb⟩ := Record.build_field_ok h₃
  obtain ⟨_, ntp, h₁, rfl, -⟩ := Record.build_field_ok h₂
  obtain ⟨_, mbus, h₀, rfl, -⟩ := Record.build_field_ok h₁
  cases h₀
  rw [hp]
  exact fun e he => (Agent.Environment.tolerantBlobstore_ok hb e he).imp_right Nat.succ_le_succ

/-- The options of a blobstore from settings that were read. -/
theorem Settings.options_fit {valueOf : String → Option String} {patience : Nat} {text : String}
    {settings : Settings} (h : parse valueOf patience text = some (.ok settings))
    (whole : settings.toJson.IntegersOnly) : settings.agent.blobstore.options.Fit 124 := by
  obtain ⟨-, ⟨-, -, ⟨-, io, -⟩, -⟩, -⟩ := whole
  obtain ⟨read, hr, he⟩ := agent_of_parse h
  obtain ⟨p, _, _, hp, h₂⟩ := Record.decoder_ok (Decoder.ofText_ok hr)
  obtain ⟨_, agent, h₁, rfl, ha⟩ := Record.build_field_ok h₂
  obtain ⟨_, controlPlane, h₀, rfl, -⟩ := Record.build_field_ok h₁
  cases h₀
  rcases ha with ⟨t, ha⟩ | ha | ha
  · have hl : p.levels = 126 := Nat.succ_inj.1 hp.symm
    refine Agent.Environment.fit_of_ok (fun e hm => ?_) io
    rw [he] at hm
    exact (AgentSettings.options_ok ha e hm).imp_right fun h => by omega
  · cases ha
  · cases ha

/-! ## A new machine -/

theorem Vms.CreateArguments.parse_fits {args : List Json} {a : CreateArguments}
    (h : parse args = .ok a) (fit : ∀ j ∈ args, j.Fits 125) : a.networks.Fit 125 ∧ a.env.Fit 125 := by
  have members : ∀ {i : Nat} {fields : Entries Json}, args[i]? = some (.obj fields) →
      Json.Members.Fit 125 (.ofList fields) := by
    intro i fields given e he
    have fits := (fit _ (List.mem_of_getElem? given)).fields.2 e (Entries.mem_ofList he)
    exact fits.mono (Nat.le_succ _)
  obtain ⟨-, -, -, -, ⟨networks, hn, networksOf⟩, env, he, envOf⟩ := Arguments.createVm_eq_ok.1 h
  rw [← networksOf, ← envOf]
  exact ⟨members hn, members he⟩

theorem Settings.bare_whole (target project mbus : String) : (bare target project mbus).toJson.IntegersOnly :=
  ⟨⟨trivial, trivial, trivial, trivial, trivial, trivial, trivial, trivial, trivial⟩,
    ⟨trivial, trivial, ⟨trivial, trivial, trivial⟩, trivial⟩, trivial⟩

/-- Settings without variables are read from their text, if they make sense. -/
theorem Settings.parse_text {s : Settings} (whole : s.toJson.IntegersOnly)
    (read : (decoder .ofText (.ofJson s.toJson)).toOption = some s)
    (unexpanded : s.expanded (fun _ => none) 0 = some s) (valid : s.problem? = none) :
    parse (fun _ => none) 0 s.toJson.text = some (.ok s) := by
  have text : decoder.ofText s.toJson.text = .ok s := by
    rw [Json.Decoder.ofText_text _ whole]
    exact Json.ok_of_toOption read
  rw [parse, text]
  show (s.expanded (fun _ => none) 0).map validate = _
  rw [unexpanded, Option.map_some, validate, valid]

/-- Settings that can be read. -/
def Settings.plain : Settings := .bare "http://127.0.0.1" "project" "nats"

theorem Settings.plain_whole : Settings.plain.toJson.IntegersOnly := bare_whole ..

theorem Settings.parse_plain :
    parse (fun _ => none) 0 Settings.plain.toJson.text = some (.ok .plain) :=
  parse_text plain_whole (by decide +kernel) rfl (by decide +kernel)

namespace Agent.Environment
variable (agentId : String) (vm : Machine) (disk : String) (networks env : Json.Members)
  (settings : AgentSettings)

theorem forNewMachine_wellFormed (hn : networks.Fit 125) (he : env.Fit 125)
    (ho : settings.blobstore.options.Fit 124) :
    (forNewMachine agentId vm disk networks env settings).WellFormed :=
  ⟨hn, he, .singleton _ (diskEntry_fits _ _ _), ho⟩

/-- A new machine has no table of persistent disks. -/
theorem forNewMachine_find? :
    (forNewMachine agentId vm disk networks env settings).disks.find? persistentKey = none := rfl

theorem forNewMachine_tabular : (forNewMachine agentId vm disk networks env settings).Tabular := by
  rw [Tabular, forNewMachine_find?]
  trivial

@[simp] theorem forNewMachine_persistentIds :
    (forNewMachine agentId vm disk networks env settings).persistentIds = [] := by
  rw [persistentIds, forNewMachine_find?]

end Agent.Environment
end CloudProvider
