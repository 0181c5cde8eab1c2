import CloudProvider.Proofs.Codec
import CloudProvider.Proofs.Pages
import CloudProvider.Proofs.Text.Utf8

/-! # What a page says

A page of a listing is an object with its disks and a link, and a disk is an object with its id and what else is said
of it (`Document`). Members may stand in any order and among others, and a text may be laid out in any way. Such a page
is read as what it says (`readReply_brings`), so in a chain it is found where it came (`Chain.found`), and a chain that
follows pages up to one that leads nowhere has just these pages (`Chain.of_serves`).
-/

namespace CloudProvider
open Json (Decoder Inverts Place Record)

/-- What an object says by a member that it may leave out. -/
def Json.Tells {α : Type} (members : List (String × Json)) (name : String) (toJson : α → Json) (default x : α) : Prop :=
  Entries.find? name members = some (toJson x) ∨ Entries.find? name members = none ∧ x = default

/-- An object that stands for a disk. It names the disk, and what else it leaves out is empty. -/
structure PersistentDisk.Document where
  disk : PersistentDisk
  members : List (String × Json)
  once : (members.map (·.1)).Nodup
  id : Entries.find? "id" members = some (.str disk.id)
  name : Json.Tells members "name" .str "" disk.name
  flavor : Json.Tells members "flavor" .str "" disk.flavor
  capacityGb : Json.Tells members "capacityGb" .natural 0 disk.capacityGb
  vms : Json.Tells members "vms" (fun vms => .arr (vms.map .str)) [] disk.vms

/-- Where the link of a page leads. Without a link, with null or with an empty one it leads nowhere. -/
inductive DiskPage.Leads : (link : Option Json) → (next : Option String) → Prop
  | missing : Leads none none
  | null : Leads (some .null) none
  | empty : Leads (some (.str "")) none
  | onward {path : String} (h : path ≠ "") : Leads (some (.str path)) (some path)

/-- An object that stands for a page. -/
structure DiskPage.Document where
  disks : List PersistentDisk.Document
  next : Option String
  members : List (String × Json)
  once : (members.map (·.1)).Nodup
  items : Json.Tells members "items" (fun ds : List PersistentDisk.Document => .arr (ds.map (.obj ·.members))) [] disks
  link : Leads (Entries.find? "nextPageLink" members) next

theorem PersistentDisk.Document.read {n : Nat} (d : Document) {p : Place} (hp : n + 2 ≤ p.levels) :
    decoder p (.ofJson (.obj d.members)) = .ok d.disk := by
  have reads := Record.Reads.pure (n := n + 1) PersistentDisk.mk
    |>.put (.required "id" .string) .string d.disk.id (by simp)
    |>.putDefaulted "name" "" (Inverts.string.decodes d.disk.name) d.name (by simp)
    |>.putDefaulted "flavor" "" (Inverts.string.decodes d.disk.flavor) d.flavor (by simp)
    |>.putDefaulted "capacityGb" 0 (Inverts.natural.decodes d.disk.capacityGb) d.capacityGb (by simp)
    |>.putDefaulted "vms" [] ((Inverts.list .string).decodes d.disk.vms) d.vms (by simp)
  exact reads.decoder_members _ hp d.once (by simp [d.id])

theorem DiskPage.Leads.read {link : Option Json} {next : Option String} (h : Leads link next) :
    ∃ shown : Option String, (link = some (.nullable .str shown) ∨ link = none ∧ shown = none) ∧
      shown.filter (· ≠ "") = next := by
  cases h with
  | missing => exact ⟨none, .inr ⟨rfl, rfl⟩, rfl⟩
  | null => exact ⟨none, .inl rfl, rfl⟩
  | empty => exact ⟨some "", .inl rfl, rfl⟩
  | onward named => exact ⟨some _, .inl rfl, by simp [named]⟩

theorem DiskPage.Document.read {n : Nat} (doc : Document) {p : Place} (hp : n + 4 ≤ p.levels) :
    ∃ page, decoder p (.ofJson (.obj doc.members)) = .ok page ∧ page.items = doc.disks.map (·.disk) ∧
      page.next? = doc.next := by
  obtain ⟨shown, link, leads⟩ := doc.link.read
  have items := doc.items.imp_right (And.imp_right (congrArg (List.map (·.disk))))
  have reads := Record.Reads.pure (n := n + 3) DiskPage.mk
    |>.putDefaulted "items" [] (fun p hl => Decoder.list_map hl fun d _ p hp => d.read hp) items (by simp)
    |>.putDefaulted "nextPageLink" none ((Inverts.nullable .string nofun).decodes shown) link (by simp)
  exact ⟨_, reads.decoder_members _ hp doc.once (by simp), rfl, leads⟩

/-- A reply that went well and brings a page, however its text is laid out. -/
structure Http.Reply.Brings (reply : Reply) (doc : DiskPage.Document) : Prop where
  well : 200 ≤ reply.status ∧ reply.status < 300
  body : ∃ text, reply.body = some (Text.Utf8.encode text) ∧ Json.Document.Written text (.ofJson (.obj doc.members))

namespace Client
open Conversation (Transcript)
variable {c : Client} {path : String} {sent : Transcript} {pages : List DiskPage} {page : DiskPage}
variable {ending : Option (Except CloudFault Unit)} {reply : Http.Reply} {k : Nat}

/-- What is brought is read. -/
theorem readReply_brings {doc : DiskPage.Document} (h : reply.Brings doc) :
    ∃ page, readReply DiskPage.decoder reply = .ok page ∧ page.items = doc.disks.map (·.disk) ∧
      page.next? = doc.next := by
  obtain ⟨well, text, body, written⟩ := h
  obtain ⟨page, read, items, next⟩ := doc.read (n := 0) (p := .ofText) (by decide)
  have success : reply.isSuccess = true := by simpa [Http.Reply.isSuccess] using well
  have ofText : DiskPage.decoder.ofText text = .ok page := by
    rw [Decoder.ofText, written.read]
    dsimp only
    rw [read]
    rfl
  refine ⟨page, ?_, items, next⟩
  rw [readReply, body]
  dsimp only
  rw [success, if_pos rfl, Text.Utf8.decodeLossy_encode, ofText]

/-- In a chain each reply that can be read is a page in its place. -/
theorem Chain.found (h : c.Chain path pages ending sent) (came : (replies sent)[k]? = some (some reply))
    (read : readReply DiskPage.decoder reply = .ok page) : pages[k]? = some page := by
  induction h generalizing k with
  | broken asks =>
    obtain ⟨request, asked⟩ := mem_replies.1 (List.mem_of_getElem? came)
    cases (asks.reading asked).trans read
  | last asks | unfinished asks =>
    obtain ⟨url, reply', -, rfl, reads⟩ := asks.of_ok
    cases k with
    | zero =>
      cases came
      cases reads.symm.trans read
      rfl
    | succ k => cases came
  | more asks linked onward ih =>
    obtain ⟨url, reply', -, rfl, reads⟩ := asks.of_ok
    cases k with
    | zero =>
      cases came
      cases reads.symm.trans read
      rfl
    | succ k => exact ih came

/-- Where requests have the replies that are laid down for them, these pages come for a path: each reply brings one of
them, and the next is asked for by its link, up to one that leads nowhere. -/
inductive Serves (c : Client) (serve : Http.Request → Option Http.Reply) : String → List DiskPage.Document → Prop
  | last {path : String} {url : Url} {reply : Http.Reply} {doc : DiskPage.Document} (leads : c.url path = .ok url)
    (unflawed : (c.request .get url .nothing).flaw? = none) (replied : serve (c.request .get url .nothing) = some reply)
    (brings : reply.Brings doc) (unlinked : doc.next = none) : Serves c serve path [doc]
  | more {path link : String} {url : Url} {reply : Http.Reply} {doc : DiskPage.Document}
    {docs : List DiskPage.Document} (leads : c.url path = .ok url)
    (unflawed : (c.request .get url .nothing).flaw? = none) (replied : serve (c.request .get url .nothing) = some reply)
    (brings : reply.Brings doc) (linked : doc.next = some link) (onward : Serves c serve link docs) :
    Serves c serve path (doc :: docs)

section
variable {serve : Http.Request → Option Http.Reply} {doc : DiskPage.Document} {docs : List DiskPage.Document}

theorem Asks.of_served {url : Url} {outcome : Except CloudFault DiskPage}
    (h : c.Asks DiskPage.decoder .get path .nothing sent outcome) (obeys : Obeys serve sent)
    (leads : c.url path = .ok url) (unflawed : (c.request .get url .nothing).flaw? = none)
    (replied : serve (c.request .get url .nothing) = some reply) (brings : reply.Brings doc) :
    ∃ page, outcome = .ok page ∧ page.items = doc.disks.map (·.disk) ∧ page.next? = doc.next := by
  obtain ⟨page, read, same⟩ := readReply_brings brings
  have same' := congrArg Prod.snd (h.eq_served obeys)
  rw [served, leads] at same'
  dsimp only at same'
  rw [unflawed, replied] at same'
  exact ⟨page, same'.trans read, same⟩

/-- A chain begins with the page that is served for its path. If this leads nowhere it is the last, and otherwise the
chain is broken off or goes on with its link. -/
theorem Chain.of_served {url : Url} (h : c.Chain path pages ending sent) (obeys : Obeys serve sent)
    (leads : c.url path = .ok url) (unflawed : (c.request .get url .nothing).flaw? = none)
    (replied : serve (c.request .get url .nothing) = some reply) (brings : reply.Brings doc) :
    ∃ page more, pages = page :: more ∧ page.items = doc.disks.map (·.disk) ∧ page.next? = doc.next ∧
      match doc.next with
      | none => more = [] ∧ ending = some (.ok ())
      | some link => more = [] ∧ ending = none ∨ ∃ rest, c.Chain link more ending rest ∧ Obeys serve rest := by
  cases h with
  | broken asks =>
    obtain ⟨_, read, -⟩ := asks.of_served obeys leads unflawed replied brings
    cases read
  | @last _ _ page asks unlinked =>
    obtain ⟨_, ⟨⟩, items, next⟩ := asks.of_served obeys leads unflawed replied brings
    refine ⟨page, [], rfl, items, next, ?_⟩
    rw [← next, unlinked]
    exact ⟨rfl, rfl⟩
  | @unfinished _ link _ page asks linked =>
    obtain ⟨_, ⟨⟩, items, next⟩ := asks.of_served obeys leads unflawed replied brings
    refine ⟨page, [], rfl, items, next, ?_⟩
    rw [← next, linked]
    exact .inl ⟨rfl, rfl⟩
  | @more _ link _ rest page pages _ asks linked onward =>
    obtain ⟨first, further⟩ := obeys_append.1 obeys
    obtain ⟨_, ⟨⟩, items, next⟩ := asks.of_served first leads unflawed replied brings
    refine ⟨page, pages, rfl, items, next, ?_⟩
    rw [← next, linked]
    exact .inr ⟨rest, onward, further⟩

theorem Serves.length_pos (h : c.Serves serve path docs) : 0 < docs.length := by
  cases h with
  | last | more => exact Nat.succ_pos _

/-- A chain that follows pages that are served has these pages, unless it is broken off before their end. -/
theorem Chain.of_serves (h : c.Chain path pages ending sent) (obeys : Obeys serve sent)
    (serves : c.Serves serve path docs) :
    ending = none ∧ pages.length < docs.length ∨
      ending = some (.ok ()) ∧ pages.map (·.items) = docs.map (fun doc => doc.disks.map (·.disk)) ∧
        pages.map (·.next?) = docs.map (·.next) := by
  induction serves generalizing pages sent with
  | last leads unflawed replied brings unlinked =>
    obtain ⟨page, more, rfl, items, next, ends⟩ := h.of_served obeys leads unflawed replied brings
    rw [unlinked] at ends
    obtain ⟨rfl, ended⟩ := ends
    exact .inr ⟨ended, congrArg ([·]) items, congrArg ([·]) next⟩
  | more leads unflawed replied brings linked onward ih =>
    obtain ⟨page, more, rfl, items, next, goesOn⟩ := h.of_served obeys leads unflawed replied brings
    rw [linked] at goesOn
    rcases goesOn with ⟨rfl, broken⟩ | ⟨rest, chain, further⟩
    · exact .inl ⟨broken, Nat.succ_lt_succ onward.length_pos⟩
    · refine (ih chain further).imp ?_ ?_
      · rintro ⟨broken, shorter⟩
        exact ⟨broken, Nat.succ_lt_succ shorter⟩
      · rintro ⟨ended, items', next'⟩
        exact ⟨ended, congrArg₂ List.cons items items', congrArg₂ List.cons next next'⟩

end
end Client
end CloudProvider
