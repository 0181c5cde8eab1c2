import CloudProvider.SortedMap

/-! # Maps are what can be found in them

Two maps in which the same can be found are the same map, since their entries stand in order. All laws
of insertion and erasure follow from what they let be found.
-/

namespace CloudProvider

namespace Entries
variable {α : Type}

theorem find?_cons (k l : String) (x : α) (es : Entries α) :
    find? k ((l, x) :: es) = if l = k then some x else find? k es := rfl

theorem find?_append (k : String) (es fs : Entries α) :
    find? k (es ++ fs) = (find? k es).or (find? k fs) := by
  induction es with
  | nil => rfl
  | cons e es ih =>
    rw [List.cons_append, find?_cons, find?_cons]
    split
    · rfl
    · exact ih

theorem find?_eq_none {k : String} {es : Entries α} (h : ∀ e ∈ es, e.1 ≠ k) : find? k es = none := by
  induction es with
  | nil => rfl
  | cons e es ih =>
    obtain ⟨he, h⟩ := List.forall_mem_cons.1 h
    rw [find?_cons, if_neg he]
    exact ih h

theorem mem_of_find? {k : String} {x : α} {es : Entries α} (h : find? k es = some x) :
    (k, x) ∈ es := by
  induction es with
  | nil => cases h
  | cons e es ih =>
    obtain ⟨l, y⟩ := e
    rw [find?_cons] at h
    split at h
    · rename_i hl
      cases hl; cases h
      exact List.mem_cons_self
    · exact List.mem_cons_of_mem _ (ih h)

theorem find?_of_mem {es : Entries α} (once : (es.map (·.1)).Nodup) {k : String} {x : α} (hm : (k, x) ∈ es) :
    find? k es = some x := by
  induction es with
  | nil => cases hm
  | cons e es ih =>
    obtain ⟨hk, once⟩ := List.nodup_cons.1 once
    rw [find?_cons]
    rcases List.mem_cons.1 hm with rfl | hm
    · exact if_pos rfl
    · rw [if_neg fun heq => hk (List.mem_map.2 ⟨_, hm, heq.symm⟩)]
      exact ih once hm

theorem find?_map {β : Type} (f : α → β) (k : String) (es : Entries α) :
    find? k (es.map fun e => (e.1, f e.2)) = (find? k es).map f := by
  induction es with
  | nil => rfl
  | cons e es ih =>
    rw [List.map_cons, find?_cons, find?_cons, ih]
    split <;> rfl

theorem find?_filter {names : List String} {k : String} (h : k ∈ names) (es : Entries α) :
    find? k (es.filter fun e => e.1 ∈ names) = find? k es := by
  induction es with
  | nil => rfl
  | cons e es ih =>
    by_cases named : e.1 ∈ names
    · rw [List.filter_cons_of_pos (by simpa using named), find?_cons, find?_cons, ih]
    · have other : e.1 ≠ k := fun heq => named (heq ▸ h)
      rw [List.filter_cons_of_neg (by simpa using named), ih, find?_cons, if_neg other]

theorem find?_eq_none_of_lt {k : String} {es : Entries α} (h : ∀ e ∈ es, k < e.1) :
    find? k es = none :=
  find?_eq_none fun e he heq => String.lt_irrefl k (heq ▸ h e he)

theorem Ascending.find?_of_mem {es : Entries α} (h : Ascending es) {k : String} {x : α}
    (hm : (k, x) ∈ es) : find? k es = some x := by
  have once : (es.map (·.1)).Nodup := List.pairwise_map.2 (h.imp fun {a b} hlt (heq : a.1 = b.1) =>
    String.lt_irrefl b.1 (heq ▸ hlt))
  exact Entries.find?_of_mem once hm

theorem Ascending.find?_eq_some {es : Entries α} (h : Ascending es) {k : String} {x : α} :
    find? k es = some x ↔ (k, x) ∈ es := ⟨mem_of_find?, h.find?_of_mem⟩

/-- An ascending list is determined by what can be found in it. -/
theorem Ascending.ext {es fs : Entries α} (he : Ascending es) (hf : Ascending fs)
    (h : ∀ k, find? k es = find? k fs) : es = fs := by
  induction es generalizing fs with
  | nil =>
    cases fs with
    | nil => rfl
    | cons f fs => have := h f.1; simp [find?] at this
  | cons e es ih =>
    obtain ⟨k, x⟩ := e
    cases fs with
    | nil => have := h k; simp [find?] at this
    | cons f fs =>
      obtain ⟨l, y⟩ := f
      obtain ⟨hk, hes⟩ := List.pairwise_cons.1 he
      obtain ⟨hl, hfs⟩ := List.pairwise_cons.1 hf
      -- Neither first name can come before the other, for it would not be found there.
      have hlk : ¬ l < k := by
        intro hlt
        have hn : find? l ((k, x) :: es) = none := find?_eq_none_of_lt fun e hm => by
          rcases List.mem_cons.1 hm with rfl | hm
          · exact hlt
          · exact String.lt_trans hlt (hk e hm)
        have := h l
        rw [hn] at this
        simp [find?] at this
      have hkl : ¬ k < l := by
        intro hlt
        have hn : find? k ((l, y) :: fs) = none := find?_eq_none_of_lt fun e hm => by
          rcases List.mem_cons.1 hm with rfl | hm
          · exact hlt
          · exact String.lt_trans hlt (hl e hm)
        have := h k
        rw [hn] at this
        simp [find?] at this
      have hEq : k = l := Classical.byContradiction fun hne =>
        hlk (lt_of_not_lt_of_ne hkl hne)
      subst hEq
      have hxy : x = y := by have := h k; simpa [find?] using this
      subst hxy
      rw [ih hes hfs fun j => ?_]
      by_cases hj : k = j
      · subst hj
        rw [find?_eq_none_of_lt hk, find?_eq_none_of_lt hl]
      · have := h j
        simpa [find?, hj] using this

/-- The names of an ascending list are determined by what names there are. -/
theorem Ascending.keys_ext {β : Type} {es : Entries α} {fs : Entries β} (he : Ascending es)
    (hf : Ascending fs) (h : ∀ k, k ∈ es.map (·.1) ↔ k ∈ fs.map (·.1)) : es.map (·.1) = fs.map (·.1) := by
  have bare : ∀ {γ : Type} {es : Entries γ}, Ascending es → Ascending (es.map fun e => (e.1, ())) :=
    fun h => List.pairwise_map.2 h
  have found : ∀ {γ : Type} {es : Entries γ}, Ascending es → ∀ k u,
      find? k (es.map fun e => (e.1, ())) = some u ↔ k ∈ es.map (·.1) := by
    intro γ es h k u
    rw [(bare h).find?_eq_some, List.mem_map, List.mem_map]
    constructor
    · rintro ⟨e, hm, heq⟩; cases heq; exact ⟨e, hm, rfl⟩
    · rintro ⟨e, hm, rfl⟩; exact ⟨e, hm, rfl⟩
  have same := (bare he).ext (bare hf) fun k => Option.ext fun u => by rw [found he, found hf, h]
  have keys := congrArg (List.map (·.1)) same
  simpa only [List.map_map, Function.comp_def] using keys

theorem mem_erase {k : String} {e : String × α} {es : Entries α} (h : e ∈ erase k es) : e ∈ es :=
  (List.mem_filter.1 h).1

theorem mem_ofList {e : String × α} {es : List (String × α)} (h : e ∈ ofList es) : e ∈ es := by
  have aux : ∀ (es : List (String × α)) (m : Entries α),
      e ∈ es.foldl (fun m e => insert e.1 e.2 m) m → e ∈ m ∨ e ∈ es := by
    intro es
    induction es with
    | nil => exact fun m h => .inl h
    | cons f fs ih =>
      intro m h
      rcases ih _ h with h | h
      · rcases mem_insert h with rfl | h
        · exact .inr List.mem_cons_self
        · exact .inl h
      · exact .inr (List.mem_cons_of_mem _ h)
  exact (aux es [] h).resolve_left List.not_mem_nil

/-- A name behind all others is put at the end. -/
theorem insert_of_lt {k : String} {x : α} {es : Entries α} (h : ∀ e ∈ es, e.1 < k) :
    insert k x es = es ++ [(k, x)] := by
  induction es with
  | nil => rfl
  | cons e es ih =>
    rw [insert, if_pos (h e List.mem_cons_self), ih fun e he => h e (List.mem_cons_of_mem _ he),
      List.cons_append]

theorem insert_insert (k : String) (x : α) (es : Entries α) :
    insert k x (insert k x es) = insert k x es := by
  induction es with
  | nil => simp [insert]
  | cons e es ih =>
    obtain ⟨l, y⟩ := e
    by_cases hlt : l < k
    · simp [insert, hlt, ih]
    · by_cases heq : l = k <;> simp [insert, hlt, heq]

theorem erase_erase (k : String) (es : Entries α) : erase k (erase k es) = erase k es := by
  simp [erase]

theorem mem_keys_insert {k l : String} {x : α} {es : Entries α} :
    l ∈ (insert k x es).map (·.1) ↔ l = k ∨ l ∈ es.map (·.1) := by
  induction es with
  | nil => simp [insert]
  | cons e es ih =>
    obtain ⟨m, y⟩ := e
    by_cases hlt : m < k
    · simp only [insert, hlt, if_true, List.map_cons, List.mem_cons, ih]
      exact or_left_comm
    · by_cases heq : m = k
      · subst heq
        simp [insert]
      · simp [insert, hlt, heq]

theorem mem_keys_erase {k l : String} {es : Entries α} :
    l ∈ (erase k es).map (·.1) ↔ l ∈ es.map (·.1) ∧ l ≠ k := by
  simp only [List.mem_map, erase, List.mem_filter, decide_eq_true_eq]
  constructor
  · rintro ⟨e, ⟨he, hne⟩, rfl⟩; exact ⟨⟨e, he, rfl⟩, hne⟩
  · rintro ⟨⟨e, he, rfl⟩, hne⟩; exact ⟨e, ⟨he, hne⟩, rfl⟩

theorem ofList_of_ascending {es : Entries α} (h : Ascending es) : ofList es = es := by
  have aux : ∀ (es m : Entries α), Ascending (m ++ es) →
      es.foldl (fun m e => insert e.1 e.2 m) m = m ++ es := by
    intro es
    induction es with
    | nil => intro m _; exact (List.append_nil m).symm
    | cons e es ih =>
      intro m hm
      have hlt : ∀ f ∈ m, f.1 < e.1 := fun f hf =>
        (List.pairwise_append.1 hm).2.2 f hf e List.mem_cons_self
      rw [List.foldl_cons, insert_of_lt hlt, ih]
      · simp
      · simpa using hm
  exact aux es [] h

end Entries

namespace SortedMap
variable {α : Type}

theorem ext_find? {m n : SortedMap α} (h : ∀ k, m.find? k = n.find? k) : m = n :=
  SortedMap.ext (m.ascending.ext n.ascending h)

theorem find?_insert (m : SortedMap α) (k l : String) (x : α) :
    (m.insert k x).find? l = if l = k then some x else m.find? l := by
  split
  · rename_i h; rw [h, find?_insert_self]
  · rename_i h; exact find?_insert_of_ne m h x

theorem find?_erase (m : SortedMap α) (k l : String) :
    (m.erase k).find? l = if l = k then none else m.find? l := by
  split
  · rename_i h; rw [h, find?_erase_self]
  · rename_i h; exact find?_erase_of_ne m h

@[simp] theorem insert_insert (m : SortedMap α) (k : String) (x y : α) :
    (m.insert k x).insert k y = m.insert k y :=
  ext_find? fun l => by simp only [find?_insert]; split <;> rfl

theorem insert_of_find? {m : SortedMap α} {k : String} {x : α} (h : m.find? k = some x) :
    m.insert k x = m :=
  ext_find? fun l => by
    rw [find?_insert]
    split
    · rename_i hl; rw [hl, h]
    · rfl

theorem mem_values {m : SortedMap α} {x : α} : x ∈ m.values ↔ ∃ k, m.find? k = some x := by
  constructor
  · intro h
    obtain ⟨e, he, rfl⟩ := List.mem_map.1 h
    exact ⟨e.1, m.ascending.find?_of_mem he⟩
  · rintro ⟨k, h⟩
    exact List.mem_map.2 ⟨(k, x), Entries.mem_of_find? h, rfl⟩

theorem mem_keys {m : SortedMap α} {k : String} : k ∈ m.keys ↔ ∃ x, m.find? k = some x := by
  constructor
  · intro h
    obtain ⟨e, he, rfl⟩ := List.mem_map.1 h
    exact ⟨e.2, m.ascending.find?_of_mem he⟩
  · rintro ⟨x, h⟩
    exact List.mem_map.2 ⟨(k, x), Entries.mem_of_find? h, rfl⟩

/-! ## Names that are given out -/

/-- Every name was given out before the next number. -/
def NamedBy (fresh : Nat → String) (next : Nat) (m : SortedMap α) : Prop :=
  ∀ k x, m.find? k = some x → ∃ n, n < next ∧ k = fresh n

section
variable {fresh : Nat → String} {next next' : Nat} {m : SortedMap α}

theorem NamedBy.mono (h : m.NamedBy fresh next) (hn : next ≤ next') : m.NamedBy fresh next' := by
  intro k x hf
  obtain ⟨n, hlt, rfl⟩ := h k x hf
  exact ⟨n, Nat.lt_of_lt_of_le hlt hn, rfl⟩

/-- A name yet to be given out is not found. -/
theorem NamedBy.find?_fresh (h : m.NamedBy fresh next) (distinct : ∀ {i j}, fresh i = fresh j → i = j)
    {n : Nat} (hn : next ≤ n) : m.find? (fresh n) = none := by
  cases hf : m.find? (fresh n) with
  | none => rfl
  | some x =>
    obtain ⟨i, hi, he⟩ := h _ _ hf
    have := distinct he
    omega

theorem NamedBy.insert (h : m.NamedBy fresh next) {k : String} {x : α}
    (hk : ∃ n, n < next ∧ k = fresh n) : (m.insert k x).NamedBy fresh next := by
  intro l y hf
  rw [find?_insert] at hf
  split at hf
  · rename_i hl; exact hl ▸ hk
  · exact h l y hf

theorem NamedBy.erase (h : m.NamedBy fresh next) (k : String) : (m.erase k).NamedBy fresh next := by
  intro l y hf
  rw [find?_erase] at hf
  split at hf
  · cases hf
  · exact h l y hf

end

end SortedMap
end CloudProvider
