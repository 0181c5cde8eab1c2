import CloudProvider.Proofs.Deletion
import CloudProvider.Proofs.PageDocuments
import CloudProvider.Proofs.Wired

/-! # The disks of a machine, page by page

In a process the disks of a machine are read off a chain of pages, and each page is what the control plane has served
in its place. What is reported are the disks on any of the pages that have the machine, each once and in the order in
which they first come; and if a page cannot be had nothing is reported but that. Pages that are served up to one that
leads nowhere are all had (`list_exact`).
-/

namespace CloudProvider

/-! ## Runs that may be given up -/

namespace Process
open Conversation (Transcript)
variable {Path : Type} {α β : Type}

/-- Whatever is replied, `Q` holds of what it comes to, if it is not given up, and of what has gone over the wire. -/
def Comes (x : Course Path α) (Q : Option α → Transcript → Prop) : Prop :=
  x.run.Records fun r record => Q r (wired record)

section
variable {x : Course Path α} {f : α → Course Path β} {Q : Option α → Transcript → Prop}

theorem Comes.mono {Q' : Option α → Transcript → Prop} (h : Comes x Q) (hQ : ∀ r sent, Q r sent → Q' r sent) :
    Comes x Q' := Program.Records.mono h fun r _ => hQ r _

theorem Comes.pure {a : α} (h : Q (some a) []) : Comes (Pure.pure a : Course Path α) Q := h

theorem Gives.comes {R : α → Transcript → Prop} (h : Gives x R) (hQ : ∀ a sent, R a sent → Q (some a) sent) :
    Comes x Q := Program.Records.mono h fun _ _ ⟨a, ha, hr⟩ => ha ▸ hQ a _ hr

theorem comes_bind {R : Option β → Transcript → Prop} : Comes (x >>= f) R ↔ Comes x fun r sent =>
    match r with
    | some a => Comes (f a) fun r more => R r (sent ++ more)
    | none => R none sent := by
  rw [Comes, OptionT.run_bind, Option.elimM, Program.records_bind]
  refine iff_of_eq (congrArg _ (funext fun r => funext fun record => ?_))
  cases r with
  | none =>
    change R none (wired (record ++ [])) = R none (wired record)
    rw [List.append_nil]
  | some a => exact congrArg _ (funext fun r => funext fun more => congrArg _ (wired_append record more))

end

variable {client : Client} {patience : Nat}

/-- An operation is answered by what comes of its conversation, or it is given up with it. -/
theorem answer_comes {op : Operation} {Q : Option op.Answer → Transcript → Prop}
    (h : (client.perform patience op).Records Q) (log : CallLog) :
    Comes ((answer client patience (.remote op) : Logged (Course Path) op.Answer).run log)
      fun r sent => Q (r.map (·.1)) sent := by
  refine comes_bind.2 ((wire_gives h.program log).comes ?_)
  rintro ⟨_ | r, log⟩ sent hq
  · change Q none (sent ++ [])
    exact (List.append_nil sent).symm ▸ hq
  · change Q (some r) (sent ++ [])
    exact (List.append_nil sent).symm ▸ hq

end Process

/-! ## Reports -/

namespace Disks

/-- What a listing is read as. -/
def reported (vm : String) (listing : Except CloudFault (List PersistentDisk)) : Except Failure Json :=
  (listing.mapError .cloud).map fun disks => .arr ((attachedIds vm disks).eraseDups.map .str)

/-- There is one report only. -/
theorem Reports.unique {vm : String} {disks : List PersistentDisk} {ids ids' : List String}
    (h : Reports vm disks ids) (h' : Reports vm disks ids') : ids = ids' := by
  have same : ids.Perm ids' := (List.perm_ext_iff_of_nodup h.once h'.once).2 fun id =>
    (h.members id).trans (h'.members id).symm
  exact same.eq_of_pairwise (fun _ _ _ _ before after => absurd before (Nat.lt_asymm after)) h.order h'.order

theorem list_eq (settings : Settings) (vm : String) (more : List Json) :
    (list settings (.str vm :: more)).run =
      .emit (.info s!"GetDisks with vm_cid: '{vm}'" [])
        (.perform (.remote (.listDisks settings.controlPlane.projectId)) fun listing =>
          .pure (reported vm listing)) := by
  rw [list, Arguments.vmId_of_str]
  refine congrArg (Program.emit _) (congrArg (Program.perform _) (funext fun listing => ?_))
  cases listing with
  | error fault => rfl
  | ok disks => rfl

end Disks

namespace Client
open Conversation (Transcript)

/-- A chain that has come to its end has sent one request for each page, in their order. -/
theorem Chain.requests_eq {c : Client} {path : String} {pages : List DiskPage} {sent : Transcript}
    (h : c.Chain path pages (some (.ok ())) sent) : ∃ urls : List Url,
      (path :: pages.filterMap (·.next?)).map c.url = urls.map .ok ∧
        requests sent = urls.map fun url => c.request .get url .nothing := by
  generalize ended : some (Except.ok ()) = finish at h
  induction h with
  | broken | unfinished => cases ended
  | last asks unlinked =>
    obtain ⟨url, reply, leads, rfl, -⟩ := asks.of_ok
    exact ⟨[url], by simp [unlinked, leads], rfl⟩
  | more asks linked onward ih =>
    obtain ⟨url, reply, leads, rfl, -⟩ := asks.of_ok
    obtain ⟨urls, paths, sent⟩ := ih ended
    refine ⟨url :: urls, ?_, congrArg (_ :: ·) sent⟩
    rw [List.filterMap_cons_some linked, List.map_cons, leads, paths]
    rfl

end Client

namespace Process
open Client (Chain replies requests)
variable {Path : Type}

theorem list_comes (c : Client) (patience : Nat) (settings : Settings) (vm : String) (more : List Json)
    (log : CallLog) :
    Comes (((Disks.list settings (.str vm :: more)).run.run (host c patience) :
      Logged (Course Path) (Except Failure Json)).run log) fun r sent => ∃ listing,
        c.Follows patience s!"projects/{settings.controlPlane.projectId}/disks" listing sent ∧
          r.map (·.1) = listing.map (Disks.reported vm) := by
  have performed : (c.perform patience (.listDisks settings.controlPlane.projectId)).Records
      (c.Follows patience s!"projects/{settings.controlPlane.projectId}/disks") := c.listPages_records patience _
  rw [Disks.list_eq]
  refine comes_bind.2 ((note_gives _ log).comes ?_)
  rintro ⟨-, log⟩ _ rfl
  refine comes_bind.2 ((answer_comes performed log).mono ?_)
  rintro (_ | ⟨listing, log⟩) sent follows
  · exact ⟨none, follows, rfl⟩
  · exact Comes.pure ⟨some listing, (List.append_nil sent).symm ▸ follows, rfl⟩

/-- Where every request has one reply, each has it on the wire. -/
theorem obeys_recorded {σ : Type} {answer : (op : Op Path) → σ → op.Reply × σ}
    {serve : Http.Request → Option Http.Reply}
    (fixed : ∀ request s, (answer (.wire (.exchange request)) s).1 = serve request) {α : Type}
    (p : Program (Op Path) Op.Reply α) (s : σ) : Client.Obeys serve (wired (p.recorded answer s).2) := by
  intro request reply sent
  obtain ⟨⟨op, replied⟩, asked, same⟩ := List.mem_filterMap.1 sent
  cases op with
  | wire op =>
    cases same
    obtain ⟨s', told⟩ := Program.recorded_answered answer p s _ asked
    exact told.trans (fixed request s')
  | readSettings | effect | time | write => cases same

/-- However the system behaves, the disks of a machine are read off a chain of pages, each of which is asked for
by the link of the one before it. A reply that brings a page is this page of the chain, with its disks and its link.
At the end of the chain the ids of all disks are reported that have the machine on any page, each once and in the
order in which they first come; a page that cannot be had is all that is told of, and only more links than there is
patience keep the call from its end. So where pages are served up to one that leads nowhere, each is asked for once
and in its place, and their disks are reported. -/
theorem list_exact {σ : Type} (answer : (op : Op Path) → σ → op.Reply × σ) (s : σ) (c : Client) (patience : Nat)
    (settings : Settings) (vm : String) (more : List Json) (log : CallLog) :
    let ran := (((Disks.list settings (.str vm :: more)).run.run (host c patience) :
      Logged (Course Path) (Except Failure Json)).run log).run.recorded answer s
    let path := s!"projects/{settings.controlPlane.projectId}/disks"
    let result := ran.1.map (·.1)
    (∃ pages ending, c.Chain path pages ending (wired ran.2) ∧
      (∀ (k : Nat) (reply : Http.Reply) (doc : DiskPage.Document),
        (replies (wired ran.2))[k]? = some (some reply) → reply.Brings doc →
          ∃ page, pages[k]? = some page ∧ page.items = doc.disks.map (·.disk) ∧ page.next? = doc.next) ∧
      match ending with
      | some (.ok ()) =>
        (∃ urls : List Url, (path :: pages.filterMap (·.next?)).map c.url = urls.map .ok ∧
          requests (wired ran.2) = urls.map fun url => c.request .get url .nothing) ∧
        ∃ ids, result = some (.ok (.arr (ids.map .str))) ∧ Disks.Reports vm (pages.flatMap (·.items)) ids
      | some (.error fault) => result = some (.error (.cloud fault))
      | none => result = none ∧ pages.length = patience + 1) ∧
    ∀ (serve : Http.Request → Option Http.Reply) (docs : List DiskPage.Document),
      (∀ request s, (answer (.wire (.exchange request)) s).1 = serve request) →
      c.Serves serve path docs → docs.length ≤ patience + 1 →
        (∃ urls : List Url, (path :: docs.filterMap (·.next)).map c.url = urls.map .ok ∧
          requests (wired ran.2) = urls.map fun url => c.request .get url .nothing) ∧
        ∃ ids, result = some (.ok (.arr (ids.map .str))) ∧
          Disks.Reports vm (docs.flatMap fun doc => doc.disks.map (·.disk)) ids := by
  intro ran path result
  obtain ⟨_, ⟨pages, ending, chain, rfl, opened⟩, told⟩ :=
    Program.Records.recorded (list_comes c patience settings vm more log) answer s
  refine ⟨⟨pages, ending, chain, fun k reply doc came brings => ?_, ?_⟩, fun serve docs fixed serves short => ?_⟩
  · obtain ⟨page, read, same⟩ := Client.readReply_brings brings
    exact ⟨page, chain.found came read, same⟩
  · match ending with
    | some (.ok ()) => exact ⟨chain.requests_eq, _, told, Disks.reports_firsts vm _⟩
    | some (.error fault) => exact told
    | none => exact ⟨told, opened rfl⟩
  · rcases chain.of_serves (obeys_recorded fixed _ s) serves with ⟨rfl, shorter⟩ | ⟨rfl, items, next⟩
    · rw [opened rfl] at shorter
      exact absurd short (Nat.not_le.2 shorter)
    · have links : pages.filterMap (·.next?) = docs.filterMap (·.next) := by
        simpa only [List.filterMap_map, Function.id_comp] using congrArg (List.filterMap id) next
      have disks : pages.flatMap (·.items) = docs.flatMap fun doc => doc.disks.map (·.disk) := by
        simpa only [← List.flatMap_def] using congrArg List.flatten items
      exact ⟨links ▸ chain.requests_eq, _, told, disks ▸ Disks.reports_firsts vm _⟩

/-- A system whose control plane has the replies that are laid down for it. -/
def servingSystem (serve : Http.Request → Option Http.Reply) : (op : Op String) → Unit → op.Reply × Unit
  | .readSettings _, s => (.error .absent, s)
  | .wire op, s => Client.serving serve op s
  | .effect e, s => World.calm.answer e s
  | .time, s => (0, s)
  | .write _, s => ((), s)

/-- A disk of which nothing is said but its machines. -/
def listedDisk (id : String) (vms : List String) : PersistentDisk.Document where
  disk := ⟨id, "", "", 0, vms⟩
  members := [("vms", .arr (vms.map .str)), ("id", .str id)]
  once := by simp
  id := rfl
  name := .inr ⟨rfl, rfl⟩
  flavor := .inr ⟨rfl, rfl⟩
  capacityGb := .inr ⟨rfl, rfl⟩
  vms := .inl rfl

/-- Two pages, with a disk that is on both, and one of another machine. -/
theorem list_exact_two_pages :
    let first : DiskPage.Document :=
      ⟨[listedDisk "disk-1" ["vm-1"], listedDisk "disk-3" ["vm-2"]], some "projects/project/disks?page=2",
        [("items", .arr [.obj (listedDisk "disk-1" ["vm-1"]).members, .obj (listedDisk "disk-3" ["vm-2"]).members]),
          ("nextPageLink", .str "projects/project/disks?page=2")],
        by simp, .inl rfl, .onward (by decide)⟩
    let second : DiskPage.Document :=
      ⟨[listedDisk "disk-2" ["vm-2", "vm-1"], listedDisk "disk-1" ["vm-1"]], none,
        [("nextPageLink", .null),
          ("items", .arr [.obj (listedDisk "disk-2" ["vm-2", "vm-1"]).members,
            .obj (listedDisk "disk-1" ["vm-1"]).members])],
        by simp, .inl rfl, .null⟩
    let reply (doc : DiskPage.Document) : Http.Reply := ⟨200, some (Text.Utf8.encode (Json.obj doc.members).text)⟩
    let serve (request : Http.Request) := some (reply (if request.url.query.isSome then second else first))
    let ran := (((Disks.list (.bare "http://none" "project" "nats") [.str "vm-1"]).run.run (host Client.plain 1) :
      Logged (Course String) (Except Failure Json)).run .empty).run.recorded (servingSystem serve) ()
    let listing (query : Option String) : Url :=
      ⟨"http", "", none, some (.domain "none"), some 123, .segments ["projects", "project", "disks"], query, none⟩
    Client.plain.Serves serve "projects/project/disks" [first, second] ∧
      requests (wired ran.2) = [none, some "page=2"].map (fun query =>
        Client.plain.request .get (listing query) .nothing) ∧
      ran.1.map (·.1) = some (.ok (.arr [.str "disk-1", .str "disk-2"])) := by
  intro first second reply serve ran listing
  have brings {doc : DiskPage.Document} (whole : (Json.obj doc.members).IntegersOnly) : (reply doc).Brings doc :=
    ⟨⟨Nat.le_refl 200, (by decide : 200 < 300)⟩, _, rfl, Json.written_text whole⟩
  have one : (reply first).Brings first :=
    brings (by simp [first, listedDisk, Json.IntegersOnly, Json.IntegersOnlyFields, Json.IntegersOnlyItems])
  have two : (reply second).Brings second :=
    brings (by simp [second, listedDisk, Json.IntegersOnly, Json.IntegersOnlyFields, Json.IntegersOnlyItems])
  have leads : Client.plain.url "projects/project/disks" = .ok (listing none) :=
    Json.ok_of_toOption (by decide +kernel)
  have onward : Client.plain.url "projects/project/disks?page=2" = .ok (listing (some "page=2")) :=
    Json.ok_of_toOption (by decide +kernel)
  have serves : Client.plain.Serves serve "projects/project/disks" [first, second] := by
    refine .more leads (by decide +kernel) ?_ one rfl (.last onward (by decide +kernel) ?_ two rfl)
    · exact congrArg (fun doc => some (reply doc)) (if_neg (by decide +kernel))
    · exact congrArg (fun doc => some (reply doc)) (if_pos (by decide +kernel))
  obtain ⟨-, listed⟩ := list_exact (servingSystem serve) () Client.plain 1 (.bare "http://none" "project" "nats")
    "vm-1" [] .empty
  obtain ⟨⟨urls, paths, sent⟩, ids, result, reports⟩ := listed serve _ (fun _ _ => rfl) serves (Nat.le_refl 2)
  have firsts := Disks.reports_firsts "vm-1"
    [⟨"disk-1", "", "", 0, ["vm-1"]⟩, ⟨"disk-3", "", "", 0, ["vm-2"]⟩, ⟨"disk-2", "", "", 0, ["vm-2", "vm-1"]⟩,
      ⟨"disk-1", "", "", 0, ["vm-1"]⟩]
  rw [reports.unique firsts] at result
  change [Client.plain.url "projects/project/disks", Client.plain.url "projects/project/disks?page=2"] = _ at paths
  rw [leads, onward] at paths
  obtain rfl : urls = [listing none, listing (some "page=2")] :=
    List.map_injective_iff.2 (fun _ _ => Except.ok.inj) paths.symm
  exact ⟨serves, sent, result⟩

end Process
end CloudProvider
