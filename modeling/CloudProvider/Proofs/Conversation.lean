import CloudProvider.ControlPlane.Client
import CloudProvider.Proofs.Record

/-! # What conversations ask

The rules of records for conversations with the control plane, and what a single request comes to
(`Asks`): at most one exchange, whose reply is read.
-/

namespace CloudProvider

namespace Conversation
variable {α β : Type}

abbrev Transcript := List (Asked Wire.Reply)

/-- Whatever is replied, the conversation ends in `Q`, or is given up, with the record of what it asked. -/
def Records (c : Conversation α) (Q : Option (Except CloudFault α) → Transcript → Prop) : Prop :=
  c.run.run.Records Q

variable {Q : Option (Except CloudFault α) → Transcript → Prop}

theorem Records.mono {c : Conversation α} {R : Option (Except CloudFault α) → Transcript → Prop}
    (h : Records c Q) (hQR : ∀ r transcript, Q r transcript → R r transcript) : Records c R :=
  Program.Records.mono h hQR

@[simp] theorem records_pure {x : α} : Records (pure x) Q ↔ Q (some (.ok x)) [] := .rfl

@[simp] theorem records_fail {fault : CloudFault} : Records (fail fault) Q ↔ Q (some (.error fault)) [] :=
  .rfl

@[simp] theorem records_giveUp : Records giveUp Q ↔ Q none [] := .rfl

@[simp] theorem records_report (e : Event) {Q : Option (Except CloudFault Unit) → Transcript → Prop} :
    Records (report e) Q ↔ Q (some (.ok ())) [] := .rfl

theorem records_ask (op : Wire) {Q : Option (Except CloudFault op.Reply) → Transcript → Prop} :
    Records (ask op) Q ↔ ∀ r, Q (some (.ok r)) [⟨op, r⟩] :=
  Program.records_ask op (Q := fun r => Q (some (.ok r)))

/-- A failure ends the conversation with what has been asked so far, and so does giving it up. -/
@[simp] theorem records_bind (c : Conversation α) (f : α → Conversation β)
    {Q : Option (Except CloudFault β) → Transcript → Prop} :
    Records (c >>= f) Q ↔ Records c fun r transcript =>
      match r with
      | some (.ok x) => Records (f x) fun r more => Q r (transcript ++ more)
      | some (.error fault) => Q (some (.error fault)) transcript
      | none => Q none transcript := by
  rw [Records, ExceptT.run_bind, OptionT.run_bind, Option.elimM, Program.records_bind]
  refine iff_of_eq (congrArg _ (funext fun r => funext fun transcript => ?_))
  rcases r with - | - | x
  · exact congrArg _ (List.append_nil transcript)
  · exact congrArg _ (List.append_nil transcript)
  · rfl

@[simp] theorem records_outcome (c : Conversation α)
    {Q : Option (Except CloudFault (Except CloudFault α)) → Transcript → Prop} :
    Records (outcome c) Q ↔ Records c fun r => Q (r.map .ok) := by
  rw [Records, outcome, ExceptT.run_lift, OptionT.run_map, map_eq_pure_bind, Program.records_bind]
  simp only [Program.records_pure, List.append_nil]
  rfl

/-- What is shown of all records is so of every run. -/
theorem Records.recorded {c : Conversation α} (h : Records c Q) {σ : Type}
    (answer : (op : Wire) → σ → op.Reply × σ) (s : σ) :
    Q (c.run.run.recorded answer s).1 (c.run.run.recorded answer s).2 :=
  Program.Records.recorded h answer s

theorem Records.program {c : Conversation α} (h : Records c Q) : c.run.run.Records Q := h

-- From here on the rules are used. Unfolding would run the client's parser of addresses.
attribute [irreducible] Records

end Conversation

namespace Client
variable {α : Type}
open Conversation (Records Transcript)

/-- A request to a path, and what it comes to. It is not sent if the path leads nowhere or if the request
does not make sense. -/
inductive Asks (c : Client) (d : Json.Decoder α) (method : Http.Method) (path : String) (body : Http.Body) :
    Transcript → Except CloudFault α → Prop
  | misled (fault : CloudFault) (h : c.url path = .error fault) :
    Asks c d method path body [] (.error fault)
  | unsent (url : Url) (flaw : Http.Fault) (h : c.url path = .ok url)
      (hf : (c.request method url body).flaw? = some flaw) :
    Asks c d method path body [] (.error (.transport flaw.message))
  | refused (url : Url) (h : c.url path = .ok url) (hf : (c.request method url body).flaw? = none) :
    Asks c d method path body [⟨.exchange (c.request method url body), none⟩]
      (.error (.transport (Http.Fault.refused (c.request method url body).url).message))
  | answered (url : Url) (h : c.url path = .ok url) (hf : (c.request method url body).flaw? = none)
      (reply : Http.Reply) : Asks c d method path body
      [⟨.exchange (c.request method url body), some reply⟩] (readReply d reply)

theorem sendTo_records (c : Client) (d : Json.Decoder α) (method : Http.Method) (path : String)
    (body : Http.Body) : Records (c.sendTo d method path body) fun r transcript =>
      ∃ outcome, r = some outcome ∧ Asks c d method path body transcript outcome := by
  rw [sendTo]
  cases h : c.url path with
  | error fault => exact Conversation.records_fail.2 ⟨_, rfl, .misled fault h⟩
  | ok url =>
    change Records (send d (c.request method url body)) _
    rw [send]
    cases hf : (c.request method url body).flaw? with
    | some flaw => exact Conversation.records_fail.2 ⟨_, rfl, .unsent url flaw h hf⟩
    | none =>
      rw [Conversation.records_bind, Conversation.records_ask]
      rintro (none | reply)
      · exact Conversation.records_fail.2 ⟨_, rfl, .refused url h hf⟩
      have answered := Asks.answered (d := d) url h hf reply
      dsimp only
      cases hr : readReply d reply with
      | ok x => exact Conversation.records_pure.2 ⟨_, rfl, hr ▸ answered⟩
      | error fault => exact Conversation.records_fail.2 ⟨_, rfl, hr ▸ answered⟩

theorem fetch_records (c : Client) (d : Json.Decoder α) (path : String) :
    Records (c.fetch d path) fun r transcript =>
      ∃ outcome, r = some outcome ∧ c.Asks d .get path .nothing transcript outcome :=
  c.sendTo_records d .get path .nothing

end Client
end CloudProvider
