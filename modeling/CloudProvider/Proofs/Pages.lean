import Mathlib.Data.List.Nodup
import CloudProvider.Proofs.Addresses
import CloudProvider.Proofs.Process

/-! # Listings that come in pages

Pages are asked for one after the other, each by the link of the one before it, until one has no link or cannot be
had (`Chain`, `listPages_records`). Where every request has one reply, whenever it is sent, pages that link back
are asked for without end: a listing ends if and only if no request is ever repeated (`listPages_ends_iff`).
-/

namespace CloudProvider

/-- The path of the page that comes next, if a page names one. -/
def DiskPage.next? (page : DiskPage) : Option String := page.nextPageLink.filter (· ≠ "")

namespace Client
open Conversation (Records Transcript)
variable {c : Client} {path : String} {sent sent' : Transcript}

/-! ## Chains of pages -/

section
variable {α : Type} {d : Json.Decoder α} {method : Http.Method} {body : Http.Body}

/-- What could be read was the reply to one request. -/
theorem Asks.of_ok {x : α} (h : c.Asks d method path body sent (.ok x)) : ∃ url reply, c.url path = .ok url ∧
    sent = [⟨.exchange (c.request method url body), some reply⟩] ∧ readReply d reply = .ok x := by
  generalize hr : Except.ok x = outcome at h
  cases h with
  | misled | unsent | refused => cases hr
  | answered url leads unflawed reply => exact ⟨url, reply, leads, rfl, rfl⟩

/-- What comes of a request is what its reply says. -/
theorem Asks.reading {outcome : Except CloudFault α} (h : c.Asks d method path body sent outcome)
    {request : Http.Request} {reply : Http.Reply} (asked : ⟨.exchange request, some reply⟩ ∈ sent) :
    outcome = readReply d reply := by
  cases h with
  | misled | unsent => cases asked
  | refused => cases List.mem_singleton.1 asked
  | answered url leads unflawed reply' =>
    cases List.mem_singleton.1 asked
    rfl

end

/-- Pages that are asked for one after the other, the first by a path and each other one by the link of the one
before it; how this ends, which is open as long as there is a link that has not been followed; and all that goes
over the wire. -/
inductive Chain (c : Client) : String → List DiskPage → Option (Except CloudFault Unit) → Transcript → Prop
  | broken {path : String} {sent : Transcript} {fault : CloudFault}
    (h : c.Asks DiskPage.decoder .get path .nothing sent (.error fault)) : Chain c path [] (some (.error fault)) sent
  | last {path : String} {sent : Transcript} {page : DiskPage}
    (h : c.Asks DiskPage.decoder .get path .nothing sent (.ok page)) (unlinked : page.next? = none) :
    Chain c path [page] (some (.ok ())) sent
  | unfinished {path link : String} {sent : Transcript} {page : DiskPage}
    (h : c.Asks DiskPage.decoder .get path .nothing sent (.ok page)) (linked : page.next? = some link) :
    Chain c path [page] none sent
  | more {path link : String} {sent rest : Transcript} {page : DiskPage} {pages : List DiskPage}
    {ending : Option (Except CloudFault Unit)} (h : c.Asks DiskPage.decoder .get path .nothing sent (.ok page))
    (linked : page.next? = some link) (onward : Chain c link pages ending rest) :
    Chain c path (page :: pages) ending (sent ++ rest)

/-- What a listing comes to when its pages end so. -/
def listed (pages : List DiskPage) (ending : Option (Except CloudFault Unit)) :
    Option (Except CloudFault (List PersistentDisk)) :=
  ending.map fun r => r.map fun _ => pages.flatMap (·.items)

theorem listPages_eq (c : Client) (patience : Nat) (path : String) :
    c.listPages patience path = c.fetch DiskPage.decoder path >>= fun page =>
      match page.next? with
      | none => pure page.items
      | some link =>
        match patience with
        | 0 => Conversation.giveUp
        | patience + 1 => do return page.items ++ (← c.listPages patience link) := by
  -- Its equations take long to derive, as the recursion is beneath a bind.
  delta listPages
  cases patience with
  | zero => rfl
  | succ patience => rfl

/-- What a listing has come to: a chain of pages has been followed to its end, or as far as patience goes. -/
def Follows (c : Client) (patience : Nat) (path : String) (r : Option (Except CloudFault (List PersistentDisk)))
    (sent : Transcript) : Prop :=
  ∃ pages ending, c.Chain path pages ending sent ∧ r = listed pages ending ∧
    (ending = none → pages.length = patience + 1)

/-- A page is asked for, and then the pages that follow it, if patience is left. -/
theorem listPages_step {patience : Nat} (onward : ∀ patience', patience = patience' + 1 → ∀ link,
    Records (c.listPages patience' link) (c.Follows patience' link)) (path : String) :
    Records (c.listPages patience path) (c.Follows patience path) := by
  rw [listPages_eq, Conversation.records_bind]
  refine (c.fetch_records DiskPage.decoder path).mono ?_
  rintro _ sent ⟨fault | page, rfl, asks⟩
  · exact ⟨[], some (.error fault), .broken asks, rfl, nofun⟩
  dsimp only
  cases next : page.next? with
  | none =>
    have all : some (.ok page.items) = listed [page] (some (.ok ())) := by simp [listed, Except.map]
    exact Conversation.records_pure.2 ⟨[page], _, (List.append_nil sent).symm ▸ .last asks next, all, nofun⟩
  | some link =>
    cases patience with
    | zero =>
      have opened := Chain.unfinished asks next
      exact Conversation.records_giveUp.2 ⟨[page], none, (List.append_nil sent).symm ▸ opened, rfl, fun _ => rfl⟩
    | succ patience =>
      dsimp only
      rw [Conversation.records_bind]
      refine (onward patience rfl link).mono ?_
      rintro _ rest ⟨pages, ending, chain, rfl, opened⟩
      have chain' := Chain.more asks next chain
      have length (h : ending = none) : (page :: pages).length = patience + 1 + 1 := congrArg (· + 1) (opened h)
      rcases ending with _ | fault | ⟨⟩
      · exact ⟨_, none, chain', rfl, length⟩
      · exact ⟨_, _, chain', rfl, length⟩
      · exact Conversation.records_pure.2 ⟨_, _, (List.append_nil rest).symm ▸ chain', rfl, length⟩

theorem listPages_records (c : Client) (patience : Nat) (path : String) :
    Records (c.listPages patience path) (c.Follows patience path) := by
  induction patience generalizing path with
  | zero => exact listPages_step (fun n more => absurd more (Nat.succ_ne_zero n).symm) path
  | succ patience ih =>
    refine listPages_step ?_ path
    rintro _ ⟨⟩
    exact ih

/-! ## Replies -/

/-- The replies to the requests of a conversation. -/
def replies (sent : Transcript) : List (Option Http.Reply) :=
  sent.filterMap fun
    | ⟨.exchange _, reply⟩ => some reply
    | _ => none

theorem mem_replies {reply : Option Http.Reply} :
    reply ∈ replies sent ↔ ∃ request, ⟨.exchange request, reply⟩ ∈ sent := by
  constructor
  · intro h
    obtain ⟨⟨op, r⟩, asked, same⟩ := List.mem_filterMap.1 h
    cases op with
    | exchange request =>
      cases same
      exact ⟨request, asked⟩
    | openFile | pause | clock => cases same
  · rintro ⟨request, asked⟩
    exact List.mem_filterMap.2 ⟨_, asked, rfl⟩

/-- Every request has the reply that is laid down for it. -/
def Obeys (serve : Http.Request → Option Http.Reply) (sent : Transcript) : Prop :=
  ∀ request reply, ⟨.exchange request, reply⟩ ∈ sent → reply = serve request

section
variable {serve : Http.Request → Option Http.Reply}

theorem obeys_append : Obeys serve (sent ++ sent') ↔ Obeys serve sent ∧ Obeys serve sent' := by
  simp only [Obeys, List.mem_append, or_imp, forall_and]

theorem Obeys.replies_eq (h : Obeys serve sent) : replies sent = (requests sent).map serve := by
  induction sent with
  | nil => rfl
  | cons asked sent ih =>
    obtain ⟨first, rest⟩ := obeys_append.1 (show Obeys serve ([asked] ++ sent) from h)
    obtain ⟨op, reply⟩ := asked
    cases op with
    | exchange request => exact congrArg₂ List.cons (first request reply (List.mem_cons_self ..)) (ih rest)
    | openFile | pause | clock => exact ih rest

theorem Obeys.subset (h : Obeys serve sent) {all : List (Option Http.Reply)}
    (finite : ∀ request, serve request ∈ all) : replies sent ⊆ all := by
  intro reply hr
  rw [h.replies_eq] at hr
  obtain ⟨request, -, rfl⟩ := List.mem_map.1 hr
  exact finite request

section
variable {α : Type} {d : Json.Decoder α} {method : Http.Method} {body : Http.Body} {outcome : Except CloudFault α}

/-- What is sent for a path, and what it comes to, where replies are laid down. -/
def served (serve : Http.Request → Option Http.Reply) (c : Client) (d : Json.Decoder α) (method : Http.Method)
    (path : String) (body : Http.Body) : Transcript × Except CloudFault α :=
  match c.url path with
  | .error fault => ([], .error fault)
  | .ok url =>
    let request := c.request method url body
    match request.flaw? with
    | some flaw => ([], .error (.transport flaw.message))
    | none => ([⟨.exchange request, serve request⟩],
      match serve request with
      | none => .error (.transport (Http.Fault.refused request.url).message)
      | some reply => readReply d reply)

theorem Asks.eq_served (h : c.Asks d method path body sent outcome) (obeys : Obeys serve sent) :
    (sent, outcome) = served serve c d method path body := by
  unfold served
  cases h with
  | misled fault nowhere => rw [nowhere]
  | unsent url flaw leads flawed =>
    rw [leads]
    dsimp only
    rw [flawed]
  | refused url leads unflawed =>
    rw [leads]
    dsimp only
    rw [unflawed, ← obeys _ _ (List.mem_cons_self ..)]
  | answered url leads unflawed reply =>
    rw [leads]
    dsimp only
    rw [unflawed, ← obeys _ _ (List.mem_cons_self ..)]

/-- A request to a path comes to one thing only. -/
theorem Asks.unique {outcome' : Except CloudFault α} (h : c.Asks d method path body sent outcome)
    (obeys : Obeys serve sent) (h' : c.Asks d method path body sent' outcome') (obeys' : Obeys serve sent') :
    sent = sent' ∧ outcome = outcome' :=
  Prod.mk.inj ((h.eq_served obeys).trans (h'.eq_served obeys').symm)

/-- There is at most one request, and then one reply. -/
theorem Asks.once (h : c.Asks d method path body sent outcome) : requests sent = [] ∧ replies sent = [] ∨
    ∃ url reply, c.url path = .ok url ∧ requests sent = [c.request method url body] ∧ replies sent = [reply] := by
  cases h with
  | misled | unsent => exact .inl ⟨rfl, rfl⟩
  | refused url leads | answered url leads => exact .inr ⟨url, _, leads, rfl, rfl⟩

theorem Asks.replies_nodup (h : c.Asks d method path body sent outcome) : (replies sent).Nodup := by
  rcases h.once with ⟨-, none⟩ | ⟨url, reply, -, -, one⟩
  · rw [none]
    exact List.nodup_nil
  · rw [one]
    exact List.nodup_singleton reply

end

/-! ## Chains that end -/

section
variable {pages pages' : List DiskPage} {ending : Option (Except CloudFault Unit)} {r : Except CloudFault Unit}

/-- A chain that has come to its end is not exceeded by any other. -/
theorem Chain.covers (h : c.Chain path pages (some r) sent) (obeys : Obeys serve sent)
    (h' : c.Chain path pages' ending sent') (obeys' : Obeys serve sent') : sent' <+: sent := by
  generalize ended : some r = finish at h
  induction h generalizing pages' ending sent' with
  | broken asks =>
    cases h' with
    | broken asks' => exact (asks.unique obeys asks' obeys').1 ▸ List.prefix_refl _
    | last asks' | unfinished asks' => cases (asks.unique obeys asks' obeys').2
    | more asks' => cases (asks.unique obeys asks' (obeys_append.1 obeys').1).2
  | last asks unlinked =>
    cases h' with
    | broken asks' => cases (asks.unique obeys asks' obeys').2
    | last asks' => exact (asks.unique obeys asks' obeys').1 ▸ List.prefix_refl _
    | unfinished asks' linked =>
      cases (asks.unique obeys asks' obeys').2
      cases unlinked.symm.trans linked
    | more asks' linked =>
      cases (asks.unique obeys asks' (obeys_append.1 obeys').1).2
      cases unlinked.symm.trans linked
  | unfinished => cases ended
  | more asks linked onward ih =>
    obtain ⟨obeys, further⟩ := obeys_append.1 obeys
    cases h' with
    | broken asks' => cases (asks.unique obeys asks' obeys').2
    | last asks' unlinked =>
      cases (asks.unique obeys asks' obeys').2
      cases unlinked.symm.trans linked
    | unfinished asks' => exact (asks.unique obeys asks' obeys').1 ▸ List.prefix_append ..
    | more asks' linked' onward' =>
      obtain ⟨obeys', further'⟩ := obeys_append.1 obeys'
      obtain ⟨rfl, same⟩ := asks.unique obeys asks' obeys'
      cases same
      cases linked.symm.trans linked'
      exact (List.prefix_append_right_inj _).2 (ih further onward' further' ended)

/-- After a reply that links to a page the chain goes on with this page. -/
theorem Chain.onward (h : c.Chain path pages (some r) sent) {request : Http.Request} {reply : Http.Reply}
    (asked : ⟨.exchange request, some reply⟩ ∈ sent) {page : DiskPage} {link : String}
    (reads : readReply DiskPage.decoder reply = .ok page) (linked : page.next? = some link) :
    ∃ before pages' rest, before ≠ [] ∧ sent = before ++ rest ∧ c.Chain link pages' (some r) rest := by
  generalize ended : some r = finish at h
  induction h with
  | broken asks => cases (asks.reading asked).trans reads
  | last asks unlinked =>
    cases (asks.reading asked).trans reads
    cases unlinked.symm.trans linked
  | unfinished => cases ended
  | @more path link' sent rest page' pages ending asks linked' onward ih =>
    rcases List.mem_append.1 asked with asked | asked
    · cases (asks.reading asked).trans reads
      cases linked.symm.trans linked'
      exact ⟨sent, pages, rest, List.ne_nil_of_mem asked, rfl, ended ▸ onward⟩
    · obtain ⟨before, pages', rest, nonempty, rfl, chain⟩ := ih asked ended
      exact ⟨sent ++ before, pages', rest, List.append_ne_nil_of_right_ne_nil _ nonempty,
        (List.append_assoc ..).symm, chain⟩

/-- In a chain that ends no reply comes twice: what follows it would be shorter the second time. -/
theorem Chain.replies_nodup (h : c.Chain path pages (some r) sent) (obeys : Obeys serve sent) :
    (replies sent).Nodup := by
  generalize ended : some r = finish at h
  induction h with
  | broken asks | last asks => exact asks.replies_nodup
  | unfinished => cases ended
  | more asks linked onward ih =>
    obtain ⟨-, further⟩ := obeys_append.1 obeys
    obtain ⟨url, reply, -, rfl, reads⟩ := asks.of_ok
    refine List.nodup_cons.2 ⟨fun again => ?_, ih further ended⟩
    subst ended
    obtain ⟨request, asked⟩ := mem_replies.1 again
    obtain ⟨before, pages', rest, nonempty, rfl, chain⟩ := onward.onward asked reads linked
    have longer := (chain.covers (obeys_append.1 further).2 onward further).length_le
    have positive := List.length_pos_iff.2 nonempty
    rw [List.length_append] at longer
    omega

/-! ## Chains that repeat nothing -/

/-- The request that a reply leads on to. -/
def leadsTo (c : Client) (reply : Option Http.Reply) : Option Http.Request := do
  let page ← (readReply DiskPage.decoder (← reply)).toOption
  let url ← (c.url (← page.next?)).toOption
  return c.request .get url .nothing

theorem leadsTo_eq {reply : Http.Reply} {page : DiskPage} {link : String} {url : Url}
    (reads : readReply DiskPage.decoder reply = .ok page) (linked : page.next? = some link)
    (leads : c.url link = .ok url) : c.leadsTo (some reply) = some (c.request .get url .nothing) := by
  simp [leadsTo, reads, linked, leads, Except.toOption]

/-- A chain begins with the request to its path, if it comes to one. -/
theorem Chain.first (h : c.Chain path pages ending sent) : requests sent = [] ∧ replies sent = [] ∨
    ∃ url reply more after, c.url path = .ok url ∧ requests sent = c.request .get url .nothing :: more ∧
      replies sent = reply :: after := by
  cases h with
  | broken asks | last asks | unfinished asks =>
    refine asks.once.imp_right ?_
    rintro ⟨url, reply, leads, one, one'⟩
    exact ⟨url, reply, [], [], leads, one, one'⟩
  | more asks =>
    obtain ⟨url, reply, leads, rfl, -⟩ := asks.of_ok
    exact .inr ⟨url, some reply, _, _, leads, rfl, rfl⟩

/-- Every request but the first is what the reply before it leads on to. -/
theorem Chain.requests_tail (h : c.Chain path pages ending sent) :
    (requests sent).tail.map some = (replies sent).dropLast.map c.leadsTo := by
  induction h with
  | broken asks | last asks | unfinished asks =>
    rcases asks.once with ⟨none, none'⟩ | ⟨url, reply, -, one, one'⟩
    · rw [none, none']
      rfl
    · rw [one, one']
      rfl
  | @more path link sent rest page pages ending asks linked onward ih =>
    obtain ⟨url, reply, -, rfl, reads⟩ := asks.of_ok
    change (requests rest).map some = (some reply :: replies rest).dropLast.map c.leadsTo
    rcases onward.first with ⟨none, none'⟩ | ⟨url', reply', more, after, leads, first, first'⟩
    · rw [none, none']
      rfl
    · rw [first, first'] at ih ⊢
      rw [List.dropLast_cons_cons, List.map_cons, List.map_cons, leadsTo_eq reads linked leads]
      exact congrArg _ ih

/-- A chain that is not at its end has sent a request for each of its pages. -/
theorem Chain.requests_length (h : c.Chain path pages none sent) : (requests sent).length = pages.length := by
  generalize opened : none = finish at h
  induction h with
  | broken | last => cases opened
  | unfinished asks =>
    obtain ⟨url, reply, -, rfl, -⟩ := asks.of_ok
    rfl
  | more asks linked onward ih =>
    obtain ⟨url, reply, -, rfl, -⟩ := asks.of_ok
    exact congrArg (· + 1) (ih opened)

/-- Where no request is repeated, no reply is, but for the last. -/
theorem Chain.replies_nodup_of_requests (h : c.Chain path pages ending sent) (once : (requests sent).Nodup) :
    (replies sent).dropLast.Nodup := by
  have distinct : ((replies sent).dropLast.map c.leadsTo).Nodup :=
    h.requests_tail ▸ once.tail.map fun _ _ => Option.some.inj
  exact distinct.of_map c.leadsTo

/-- Requests that are not repeated are no more than there are replies, but for the last. -/
theorem Chain.length_le (h : c.Chain path pages ending sent) (obeys : Obeys serve sent)
    {all : List (Option Http.Reply)} (finite : ∀ request, serve request ∈ all) (once : (requests sent).Nodup) :
    (requests sent).length ≤ all.length + 1 := by
  have known : (replies sent).dropLast ⊆ all := List.Subset.trans (List.dropLast_subset _) (obeys.subset finite)
  have bound := (h.replies_nodup_of_requests once).length_le_of_subset known
  rw [List.length_dropLast, obeys.replies_eq, List.length_map] at bound
  omega

end

/-! ## Listings that end -/

section
variable {σ : Type} {answer : (op : Wire) → σ → op.Reply × σ}
variable (fixed : ∀ request s, (answer (.exchange request) s).1 = serve request)
include fixed

theorem listPages_recorded (c : Client) (patience : Nat) (path : String) (s : σ) :
    let ran := (c.listPages patience path).run.run.recorded answer s
    c.Follows patience path ran.1 ran.2 ∧ Obeys serve ran.2 := by
  refine ⟨(c.listPages_records patience path).recorded answer s, fun request reply asked => ?_⟩
  obtain ⟨s', replied⟩ := Program.recorded_answered answer _ s _ asked
  exact replied.trans (fixed request s')

/-- A listing that ends with some patience repeats no request with any. -/
theorem listPages_repeats_nothing (c : Client) (path : String) (s : σ) {patience : Nat}
    (ends : ((c.listPages patience path).run.run.recorded answer s).1.isSome) (patience' : Nat) :
    (requests ((c.listPages patience' path).run.run.recorded answer s).2).Nodup := by
  obtain ⟨⟨pages, ending, chain, result, -⟩, obeys⟩ := listPages_recorded fixed c patience path s
  obtain ⟨⟨pages', ending', chain', -, -⟩, obeys'⟩ := listPages_recorded fixed c patience' path s
  rw [result] at ends
  obtain - | r := ending
  · cases ends
  have once : (requests _).Nodup := (obeys.replies_eq ▸ chain.replies_nodup obeys).of_map serve
  obtain ⟨more, covered⟩ := chain.covers obeys chain' obeys'
  rw [← covered, requests_append] at once
  exact once.of_append_left

end
end

/-- Where every request has one reply and there are finitely many replies, a listing ends if and only if no
request is ever repeated. It then takes no more requests than there are replies. -/
theorem listPages_ends_iff {σ : Type} {answer : (op : Wire) → σ → op.Reply × σ}
    {serve : Http.Request → Option Http.Reply}
    (fixed : ∀ request s, (answer (.exchange request) s).1 = serve request)
    {all : List (Option Http.Reply)} (finite : ∀ request, serve request ∈ all) (c : Client) (path : String) (s : σ) :
    let ran := fun patience => (c.listPages patience path).run.run.recorded answer s
    ((∃ patience, (ran patience).1.isSome) ↔ ∀ patience, (requests (ran patience).2).Nodup) ∧
      ∀ patience, (ran patience).1.isSome → (requests (ran patience).2).length ≤ all.length := by
  intro ran
  refine ⟨⟨fun ⟨patience, ends⟩ => listPages_repeats_nothing fixed c path s ends, fun once => ?_⟩, ?_⟩
  · refine ⟨all.length + 1, ?_⟩
    obtain ⟨⟨pages, ending, chain, result, opened⟩, obeys⟩ := listPages_recorded fixed c (all.length + 1) path s
    change (ran _).1 = _ at result
    obtain - | r := ending
    · have short := chain.length_le obeys finite (once _)
      rw [chain.requests_length, opened rfl] at short
      omega
    · rw [result]
      rfl
  · intro patience ends
    obtain ⟨⟨pages, ending, chain, result, -⟩, obeys⟩ := listPages_recorded fixed c patience path s
    change (ran _).1 = _ at result
    rw [result] at ends
    obtain - | r := ending
    · cases ends
    have bound := (chain.replies_nodup obeys).length_le_of_subset (obeys.subset finite)
    rwa [obeys.replies_eq, List.length_map] at bound

/-- A page without disks that links to another. -/
def pageReply (link : String) : Http.Reply :=
  ⟨200, some (Text.Utf8.encode (Json.obj [("items", .arr []), ("nextPageLink", .str link)]).text)⟩

/-- Requests have the replies that are laid down for them, and no time passes. -/
def serving (serve : Http.Request → Option Http.Reply) : (op : Wire) → Unit → op.Reply × Unit
  | .exchange request, s => (serve request, s)
  | .openFile _, s => (.error .absent, s)
  | .pause _, s => ((), s)
  | .clock, s => (0, s)

/-- A client of a control plane without credentials. -/
def plain : Client :=
  ⟨⟨"http", "", none, some (.domain "none"), some 123, .segments [""], none, none⟩, .anonymous, 500, 1800⟩

/-- Two pages, of which the first links to the second. -/
theorem listPages_ends_two_pages :
    let first := pageReply "projects/p/disks?page=2"
    let serve := fun request : Http.Request => some (if request.url.query.isSome then pageReply "" else first)
    let ran := fun patience => (plain.listPages patience "projects/p/disks").run.run.recorded (serving serve) ()
    (∀ patience, (requests (ran patience).2).Nodup) ∧
      ∀ patience, (ran patience).1.isSome → (requests (ran patience).2).length ≤ 2 := by
  intro first serve ran
  have finite : ∀ request, serve request ∈ [some first, some (pageReply "")] := by
    intro request
    by_cases second : request.url.query.isSome = true <;> simp [serve, second]
  have fixed : ∀ request s, (serving serve (.exchange request) s).1 = serve request := fun _ _ => rfl
  obtain ⟨ends, short⟩ := listPages_ends_iff fixed finite plain "projects/p/disks" ()
  exact ⟨ends.1 ⟨1, by decide +kernel⟩, short⟩

/-- A page that links to itself is asked for without end. -/
theorem listPages_never_ends : ¬∀ (serve : Http.Request → Option Http.Reply) (all : List (Option Http.Reply)),
    (∀ request, serve request ∈ all) →
      ∃ patience, ((plain.listPages patience "projects/p/disks").run.run.recorded (serving serve) ()).1.isSome := by
  intro ends
  let page := pageReply "/projects/p/disks"
  have fixed : ∀ request s, (serving (fun _ => some page) (.exchange request) s).1 = some page := fun _ _ => rfl
  obtain ⟨patience, ended⟩ := ends (fun _ => some page) [some page] fun _ => List.mem_singleton_self _
  have once := listPages_repeats_nothing fixed plain "projects/p/disks" () ended 2
  obtain ⟨⟨pages, ending, chain, -⟩, -⟩ := listPages_recorded fixed plain 2 "projects/p/disks" ()
  have thrice : replies ((plain.listPages 2 "projects/p/disks").run.run.recorded (serving fun _ => some page) ()).2 =
      [some page, some page, some page] := by decide +kernel
  have distinct := chain.replies_nodup_of_requests once
  rw [thrice] at distinct
  change [some page, some page].Nodup at distinct
  exact (List.nodup_cons.1 distinct).1 (List.mem_cons_self ..)

end Client
end CloudProvider
