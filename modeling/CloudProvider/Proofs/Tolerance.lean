import CloudProvider.Settings.Basic
import CloudProvider.Proofs.Json.Leeway
import CloudProvider.Proofs.Json.Recognition

/-! # Absent, null and empty read the same

What may be done to the document of an environment or of the settings without another value being read
from it: in each object that stands for a record, members that nobody declared may be put in, and the
members that may be null may be left out or written as empty. The tables name the members of each record
and what may be done to each (`decoding_tolerant`).
-/

namespace CloudProvider
open Json (Decoder Field Leeway Record)

namespace Agent

def Machine.leeway : Leeway := .Object [("name", .Strict), ("id", .Strict)]

def Blobstore.leeway : Leeway :=
  .Object [("provider", .Tolerant [.str ""]), ("options", .Tolerant [.obj []])]

/-- A store without any of its members is as empty as one with empty members. -/
def Blobstore.optional : Leeway := .Either (.Tolerant [.obj [], Blobstore.none.toJson]) Blobstore.leeway

def Environment.leeway : Leeway :=
  .Object [("agent_id", .Strict), ("vm", Machine.leeway), ("mbus", .Strict), ("ntp", .Tolerant [.arr []]),
    ("networks", .Tolerant [.obj []]), ("env", .Tolerant [.obj []]), ("disks", .Tolerant [.obj []]),
    ("blobstore", Blobstore.optional)]

end Agent

def ControlPlaneSettings.leeway : Leeway :=
  .Object [("target", .Strict), ("project", .Strict), ("ignore_cert", .Strict), ("user", .Tolerant []),
    ("password", .Tolerant []), ("token", .Tolerant []), ("task_poll_interval_ms", .Tolerant []),
    ("task_timeout_secs", .Tolerant [])]

def AgentSettings.leeway : Leeway :=
  .Object [("mbus", .Strict), ("ntp", .Tolerant [.arr []]), ("blobstore", Agent.Blobstore.optional)]

def Settings.leeway : Leeway :=
  .Object [("photon", ControlPlaneSettings.leeway), ("agent", AgentSettings.leeway)]

/-! ## The decoders keep to it -/

theorem Agent.Machine.decoder_allows (n : Nat) : Machine.decoder.Allows (n + 1) Machine.leeway :=
  ((Record.Allows.pure _ n).field .strict (by simp) |>.field .strict (by simp)).decoder _

theorem Agent.Blobstore.decoder_allows (n : Nat) : Blobstore.decoder.Allows (n + 2) Blobstore.leeway :=
  ((Record.Allows.pure _ (n + 1)).field (.tolerant_one fun _ _ => rfl) (by simp)
    |>.field (.tolerant_one fun _ _ => rfl) (by simp)).decoder _

theorem Agent.Blobstore.optional_allows (n : Nat) :
    (Field.tolerant "blobstore" .none Blobstore.decoder).Allows (n + 2) Blobstore.optional := by
  refine .either (.tolerant (fun _ => rfl) rfl ?_) (.object ((Blobstore.decoder_allows n).orDefault _))
  intro j hj p hp
  obtain ⟨levels, surplus⟩ := p
  obtain ⟨m, rfl⟩ := Nat.exists_eq_add_of_le' hp
  simp only [List.mem_cons, List.not_mem_nil, or_false] at hj
  rcases hj with rfl | rfl
  · rfl
  · rfl

theorem Agent.Environment.decoder_allows (n : Nat) : decoder.Allows (n + 3) Environment.leeway :=
  ((Record.Allows.pure _ (n + 2)).field .strict (by simp)
    |>.field (.object (Machine.decoder_allows (n + 1))) (by simp)
    |>.field .strict (by simp)
    |>.field (.tolerant_one fun _ _ => rfl) (by simp)
    |>.field (.tolerant_one fun _ _ => rfl) (by simp)
    |>.field (.tolerant_one fun _ _ => rfl) (by simp)
    |>.field (.tolerant_one fun _ _ => rfl) (by simp)
    |>.field (Blobstore.optional_allows n) (by simp)).decoder _

theorem ControlPlaneSettings.decoder_allows (n : Nat) : decoder.Allows (n + 1) ControlPlaneSettings.leeway :=
  ((Record.Allows.pure _ n).field .strict (by simp)
    |>.field .strict (by simp)
    |>.field .strict (by simp)
    |>.field .nullable (by simp)
    |>.field .nullable (by simp)
    |>.field .nullable (by simp)
    |>.field .nullable (by simp)
    |>.field .nullable (by simp)).decoder _

theorem AgentSettings.decoder_allows (n : Nat) : decoder.Allows (n + 3) AgentSettings.leeway :=
  ((Record.Allows.pure _ (n + 2)).field .strict (by simp)
    |>.field (.tolerant_one fun _ _ => rfl) (by simp)
    |>.field (Agent.Blobstore.optional_allows n) (by simp)).decoder _

theorem Settings.decoder_allows (n : Nat) : decoder.Allows (n + 4) Settings.leeway :=
  ((Record.Allows.pure _ (n + 3)).field (.object (ControlPlaneSettings.decoder_allows (n + 2))) (by simp)
    |>.field (.object (AgentSettings.decoder_allows n)) (by simp)).decoder _

/-- Whatever an environment or settings are read from is a document; and however often it is rewritten within
the leeway, the same is read from it. -/
theorem decoding_tolerant :
    (∀ {s : String} {e : Agent.Environment}, Agent.Environment.decoder.ofText s = .ok e →
      (∃ t, Json.Document.Written s t) ∧
      ∀ {s'}, Relation.ReflTransGen Agent.Environment.leeway.Rewrites s s' →
        Agent.Environment.decoder.ofText s' = .ok e) ∧
    ∀ {s : String} {c : Settings}, Settings.decoder.ofText s = .ok c →
      (∃ t, Json.Document.Written s t) ∧
      ∀ {s'}, Relation.ReflTransGen Settings.leeway.Rewrites s s' → Settings.decoder.ofText s' = .ok c := by
  constructor
  · intro s e read
    have allows := Agent.Environment.decoder_allows 0
    exact ⟨Record.written_of_ofText read, fun rewritten => allows.ofText_of_rewritten (by decide) rewritten read⟩
  · intro s c read
    have allows := Settings.decoder_allows 0
    exact ⟨Record.written_of_ofText read, fun rewritten => allows.ofText_of_rewritten (by decide) rewritten read⟩

namespace Tolerance

def sections : List (String × Json) := [("agent_id", .str "agent"), ("mbus", .str "nats")]

def machine (more : List (String × Json)) : Json := .obj ([("name", .str "vm"), ("id", .str "1")] ++ more)

/-- An environment with more said about its machine. -/
def environment (more : List (String × Json)) : Json := .obj (sections ++ [("vm", machine more)])

def connection (more : List (String × Json)) : Json :=
  .obj ([("target", .str "http://localhost"), ("project", .str "dev")] ++ more)

def agent : List (String × Json) := [("agent", .obj [("mbus", .str "nats")])]

/-- Settings with more said about the connection. -/
def settings (more : List (String × Json)) : Json := .obj (("photon", connection more) :: agent)

end Tolerance

open Tolerance in
theorem decoding_tolerant_machine :
    let e : Agent.Environment := ⟨"agent", ⟨"vm", "1"⟩, "nats", [], ∅, ∅, ∅, .none⟩
    let c : Settings := ⟨⟨"http://localhost", "dev", false, none, none, none, none, none⟩, ⟨"nats", [], .none⟩⟩
    Agent.Environment.decoder.ofText (environment []).text = .ok e ∧
    Agent.Environment.decoder.ofText (environment [("cpus", .arr [.natural 2])]).text = .ok e ∧
    Settings.decoder.ofText (settings [("user", .null)]).text = .ok c ∧
    Settings.decoder.ofText (settings []).text = .ok c := by
  intro e c
  have bare : (environment []).IntegersOnly := by
    simp [environment, sections, machine, Json.IntegersOnly, Json.IntegersOnlyFields]
  have full : (environment [("cpus", .arr [.natural 2])]).IntegersOnly := by
    simp [environment, sections, machine, Json.IntegersOnly, Json.IntegersOnlyFields, Json.IntegersOnlyItems,
      Json.natural, Number.IsInteger]
  have null : (settings [("user", .null)]).IntegersOnly := by
    simp [settings, connection, agent, Json.IntegersOnly, Json.IntegersOnlyFields]
  have absent : (settings []).IntegersOnly := by
    simp [settings, connection, agent, Json.IntegersOnly, Json.IntegersOnlyFields]
  have added : Agent.Environment.leeway.Rewrites (environment []).text
      (environment [("cpus", .arr [.natural 2])]).text :=
    Leeway.rewrites_text bare full <|
      @Leeway.Object.changed _ (Json.Tree.ofFields sections) [] "vm" Agent.Machine.leeway (.tail _ (.head _))
        (.ofJson (machine [])) (some (.ofJson (machine [("cpus", .arr [.natural 2])])))
        (@Leeway.Object.added _ (Json.Tree.ofFields [("name", .str "vm"), ("id", .str "1")]) [] "cpus" (by simp)
          (.ofJson (.arr [.natural 2])))
  have leftOut : Settings.leeway.Rewrites (settings [("user", .null)]).text (settings []).text :=
    Leeway.rewrites_text null absent <|
      @Leeway.Object.changed _ [] (Json.Tree.ofFields agent) "photon" ControlPlaneSettings.leeway (.head _)
        (.ofJson (connection [("user", .null)])) (some (.ofJson (connection [])))
        (@Leeway.Object.changed _
          (Json.Tree.ofFields [("target", .str "http://localhost"), ("project", .str "dev")]) [] "user"
          (.Tolerant []) (.tail _ (.tail _ (.tail _ (.head _)))) .null none .leftOut)
  have read : Agent.Environment.decoder.ofText (environment []).text = .ok e :=
    (Decoder.ofText_text _ bare).trans rfl
  have read' : Settings.decoder.ofText (settings [("user", .null)]).text = .ok c :=
    (Decoder.ofText_text _ null).trans rfl
  exact ⟨read, (decoding_tolerant.1 read).2 (.single added), read', (decoding_tolerant.2 read').2 (.single leftOut)⟩

end CloudProvider
