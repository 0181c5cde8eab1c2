/-!
Maps from names to values, listed by ascending name. A name occurs once and the order is that of
its code points, which for text is also the order of the encoded bytes. `Entries` are the bare
lists, as they stand inside a document; `SortedMap` carries the order in its type.
-/

namespace CloudProvider

/-- A list of named values. The operations below keep ascending lists ascending. -/
abbrev Entries (α : Type) := List (String × α)

namespace Entries
variable {α β : Type}

/-- Strictly ascending names, hence no name twice. -/
def Ascending (es : Entries α) : Prop := es.Pairwise fun a b => a.1 < b.1

def find? (k : String) : Entries α → Option α
  | [] => none
  | (l, x) :: es => if l = k then some x else find? k es

/-- Replaces the value of a present name and puts a new name in front of the first greater one. -/
def insert (k : String) (x : α) : Entries α → Entries α
  | [] => [(k, x)]
  | (l, y) :: es =>
    if l < k then (l, y) :: insert k x es
    else if l = k then (k, x) :: es
    else (k, x) :: (l, y) :: es

def erase (k : String) (es : Entries α) : Entries α := es.filter (·.1 ≠ k)

/-- Later entries win over earlier ones of the same name. -/
def ofList (es : List (String × α)) : Entries α := es.foldl (fun m e => insert e.1 e.2 m) []

theorem lt_of_not_lt_of_ne {a b : String} (h : ¬ a < b) (hne : a ≠ b) : b < a :=
  Std.lt_of_le_of_ne (Std.not_lt.1 h) hne.symm

theorem mem_insert {k : String} {x : α} {e : String × α} {es : Entries α}
    (h : e ∈ insert k x es) : e = (k, x) ∨ e ∈ es := by
  induction es with
  | nil => simpa [insert] using h
  | cons f fs ih =>
    obtain ⟨l, y⟩ := f
    rw [insert] at h
    split at h
    · rcases List.mem_cons.1 h with h | h
      · exact .inr (h ▸ List.mem_cons_self)
      · exact (ih h).imp_right (List.mem_cons_of_mem _)
    · split at h
      · exact (List.mem_cons.1 h).imp_right (List.mem_cons_of_mem _)
      · exact List.mem_cons.1 h

theorem Ascending.insert {k : String} {x : α} {es : Entries α} (h : Ascending es) :
    Ascending (insert k x es) := by
  induction es with
  | nil => exact List.pairwise_singleton ..
  | cons f fs ih =>
    obtain ⟨l, y⟩ := f
    obtain ⟨hl, hfs⟩ := List.pairwise_cons.1 h
    rw [Entries.insert]
    split
    · rename_i hlk
      refine List.pairwise_cons.2 ⟨fun e he => ?_, ih hfs⟩
      rcases mem_insert he with rfl | he
      · exact hlk
      · exact hl e he
    · rename_i hlk
      split
      · rename_i hlk'
        exact List.pairwise_cons.2 ⟨fun e he => hlk' ▸ hl e he, hfs⟩
      · rename_i hne
        have hkl : k < l := lt_of_not_lt_of_ne hlk hne
        refine List.pairwise_cons.2 ⟨fun e he => ?_, h⟩
        rcases List.mem_cons.1 he with rfl | he
        · exact hkl
        · exact String.lt_trans hkl (hl e he)

theorem Ascending.erase {k : String} {es : Entries α} (h : Ascending es) :
    Ascending (erase k es) := List.Pairwise.filter _ h

theorem ascending_ofList (es : List (String × α)) : Ascending (ofList es) := by
  have aux : ∀ (es : List (String × α)) (m : Entries α), Ascending m →
      Ascending (es.foldl (fun m e => insert e.1 e.2 m) m) := by
    intro es
    induction es with
    | nil => exact fun m h => h
    | cons e es ih => exact fun m h => ih _ h.insert
  exact aux es [] List.Pairwise.nil

@[simp] theorem find?_insert_self (k : String) (x : α) (es : Entries α) :
    find? k (insert k x es) = some x := by
  induction es with
  | nil => simp [insert, find?]
  | cons f fs ih =>
    obtain ⟨l, y⟩ := f
    rw [insert]
    split
    · rename_i h
      rw [find?, if_neg (fun e : l = k => String.lt_irrefl k (e ▸ h)), ih]
    · split <;> simp [find?]

theorem find?_insert_of_ne {k l : String} (h : l ≠ k) (x : α) (es : Entries α) :
    find? l (insert k x es) = find? l es := by
  induction es with
  | nil => simp [insert, find?, h.symm]
  | cons f fs ih =>
    obtain ⟨m, y⟩ := f
    rw [insert]
    split
    · simp [find?, ih]
    · split
      · rename_i hm; subst hm; simp [find?, h.symm]
      · simp [find?, h.symm]

@[simp] theorem find?_erase_self (k : String) (es : Entries α) : find? k (erase k es) = none := by
  induction es with
  | nil => rfl
  | cons f fs ih =>
    obtain ⟨l, y⟩ := f
    by_cases h : l = k
    · simpa [erase, h] using ih
    · simpa [erase, h, find?] using ih

theorem find?_erase_of_ne {k l : String} (h : l ≠ k) (es : Entries α) :
    find? l (erase k es) = find? l es := by
  induction es with
  | nil => rfl
  | cons f fs ih =>
    obtain ⟨m, y⟩ := f
    by_cases hm : m = k
    · subst hm; simpa [erase, find?, h.symm] using ih
    · by_cases hl : m = l
      · simp [erase, find?, hl, h]
      · simpa [erase, find?, hm, hl] using ih

end Entries

structure SortedMap (α : Type) where
  entries : Entries α
  ascending : entries.Ascending

namespace SortedMap
variable {α β : Type}

theorem ext {m n : SortedMap α} (h : m.entries = n.entries) : m = n := by
  cases m; cases n; cases h; rfl

def empty : SortedMap α := ⟨[], List.Pairwise.nil⟩

instance : Inhabited (SortedMap α) := ⟨empty⟩
instance : EmptyCollection (SortedMap α) := ⟨empty⟩

instance [DecidableEq α] : DecidableEq (SortedMap α) := fun m n =>
  decidable_of_iff (m.entries = n.entries) ⟨ext, congrArg entries⟩

def find? (m : SortedMap α) (k : String) : Option α := m.entries.find? k

def insert (m : SortedMap α) (k : String) (x : α) : SortedMap α :=
  ⟨m.entries.insert k x, m.ascending.insert⟩

def erase (m : SortedMap α) (k : String) : SortedMap α := ⟨m.entries.erase k, m.ascending.erase⟩

/-- Later entries win over earlier ones of the same name. -/
def ofList (es : List (String × α)) : SortedMap α := ⟨.ofList es, Entries.ascending_ofList es⟩

def singleton (k : String) (x : α) : SortedMap α := ⟨[(k, x)], List.pairwise_singleton ..⟩

def keys (m : SortedMap α) : List String := m.entries.map (·.1)

def values (m : SortedMap α) : List α := m.entries.map (·.2)

def size (m : SortedMap α) : Nat := m.entries.length

/-- The entries of the second map win. -/
def union (m n : SortedMap α) : SortedMap α := n.entries.foldl (fun m e => m.insert e.1 e.2) m

@[simp] theorem find?_insert_self (m : SortedMap α) (k : String) (x : α) :
    (m.insert k x).find? k = some x := Entries.find?_insert_self ..

theorem find?_insert_of_ne (m : SortedMap α) {k l : String} (h : l ≠ k) (x : α) :
    (m.insert k x).find? l = m.find? l := Entries.find?_insert_of_ne h ..

@[simp] theorem find?_erase_self (m : SortedMap α) (k : String) : (m.erase k).find? k = none :=
  Entries.find?_erase_self ..

theorem find?_erase_of_ne (m : SortedMap α) {k l : String} (h : l ≠ k) :
    (m.erase k).find? l = m.find? l := Entries.find?_erase_of_ne h ..

end SortedMap
end CloudProvider
