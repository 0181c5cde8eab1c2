import Mathlib.Data.List.Infix
import Mathlib.Order.Bounds.Basic
import Mathlib.Order.MinMax
import CloudProvider.Text.EditDistance

/-! # The fewest edits that lead from one text to another

The rows of the table hold what the recursion over both texts says (`distanceRow_eq`). One edit changes a distance
by one at most, whatever it is the distance to, so no way from one text to the other is shorter than the distance
(`distance_le_of_edits`); and the recursion tells a way that is as long (`edits_distance`).
-/

namespace CloudProvider.Text

/-- One character is put in, taken out or replaced. -/
inductive Edit : List Char → List Char → Prop
  | insert (c : Char) (cs : List Char) : Edit cs (c :: cs)
  | remove (c : Char) (cs : List Char) : Edit (c :: cs) cs
  | replace (c d : Char) (cs : List Char) : Edit (c :: cs) (d :: cs)
  | further (c : Char) {cs ds : List Char} (rest : Edit cs ds) : Edit (c :: cs) (c :: ds)

/-- So many edits, one after the other. -/
inductive Edits : Nat → List Char → List Char → Prop
  | none (cs : List Char) : Edits 0 cs cs
  | next {n : Nat} {cs ds es : List Char} (first : Edit cs ds) (rest : Edits n ds es) : Edits (n + 1) cs es

theorem Edits.further (c : Char) {n : Nat} {cs ds : List Char} (h : Edits n cs ds) : Edits n (c :: cs) (c :: ds) := by
  induction h with
  | none cs => exact .none _
  | next first rest ih => exact .next (.further c first) ih

theorem Edits.min {m n : Nat} {cs ds : List Char} (h : Edits m cs ds) (h' : Edits n cs ds) :
    Edits (min m n) cs ds := by
  rcases min_choice m n with least | least
  · rwa [least]
  · rwa [least]

/-! ## The recursion -/

def distance : List Char → List Char → Nat
  | [], ys => ys.length
  | x :: xs, [] => (x :: xs).length
  | x :: xs, y :: ys =>
    min (min (distance xs (y :: ys) + 1) (distance (x :: xs) ys + 1)) (distance xs ys + if x = y then 0 else 1)
termination_by xs ys => xs.length + ys.length

theorem distance_nil (xs : List Char) : distance xs [] = xs.length := by
  cases xs <;> simp [distance]

theorem firstRow_eq (xs : List Char) : firstRow xs = xs.tails.map (distance · []) := by
  induction xs with
  | nil => simp [firstRow, distance]
  | cons x xs ih => simp [firstRow, ih, distance_nil]

theorem tails_map_headD (f : List Char → Nat) (xs : List Char) : (xs.tails.map f).headD 0 = f xs := by
  cases xs <;> rfl

theorem nextRow_eq (y : Char) (xs ys : List Char) :
    nextRow y xs (xs.tails.map (distance · ys)) = xs.tails.map (distance · (y :: ys)) := by
  induction xs with
  | nil => simp [nextRow, distance]
  | cons x xs ih =>
    simp only [List.tails_cons, List.map_cons, nextRow, ih, tails_map_headD]
    rw [distance]

theorem distanceRow_eq (xs ys : List Char) : distanceRow xs ys = xs.tails.map (distance · ys) := by
  rw [distanceRow, List.foldl_reverse]
  induction ys with
  | nil => exact firstRow_eq xs
  | cons y ys ih => rw [List.foldr_cons, ih, nextRow_eq]

theorem editDistance_eq (s t : String) : editDistance s t = distance s.toList t.toList := by
  rw [editDistance, distanceRow_eq, tails_map_headD]

/-! ## No way is shorter -/

theorem distance_self (xs : List Char) : distance xs xs = 0 := by
  induction xs with
  | nil => simp [distance]
  | cons x xs ih => simp [distance, ih]

theorem distance_cons_le (x : Char) (xs ys : List Char) : distance (x :: xs) ys ≤ distance xs ys + 1 := by
  cases ys with
  | nil => simp [distance_nil]
  | cons y ys =>
    rw [distance]
    omega

theorem distance_le_cons (xs : List Char) (y : Char) (ys : List Char) : distance xs (y :: ys) ≤ distance xs ys + 1 := by
  cases xs with
  | nil => simp [distance]
  | cons x xs =>
    rw [distance]
    omega

/-- One edit changes a distance by one at most. -/
theorem distance_le_of_edit {xs xs' : List Char} (h : Edit xs xs') (ys : List Char) :
    distance xs ys ≤ distance xs' ys + 1 := by
  induction h generalizing ys with
  | remove c cs => exact distance_cons_le c cs ys
  | insert c cs =>
    induction ys with
    | nil => simp [distance_nil]; omega
    | cons y ys ih =>
      have shorter := distance_le_cons cs y ys
      rw [distance]
      omega
  | replace c d cs =>
    induction ys with
    | nil => simp [distance_nil]
    | cons y ys ih =>
      rw [distance, distance]
      split <;> split <;> omega
  | further c rest ihRest =>
    induction ys with
    | nil => simpa [distance_nil] using ihRest []
    | cons y ys ih =>
      have both := ihRest ys
      have one := ihRest (y :: ys)
      rw [distance, distance]
      omega

theorem distance_le_of_edits {n : Nat} {xs ys : List Char} (h : Edits n xs ys) : distance xs ys ≤ n := by
  induction h with
  | none cs => exact (distance_self cs).le
  | @next n cs ds es first rest ih =>
    have := distance_le_of_edit first es
    omega

/-! ## One way is as long -/

theorem edits_distance (xs ys : List Char) : Edits (distance xs ys) xs ys := by
  fun_induction distance xs ys with
  | case1 ys =>
    induction ys with
    | nil => exact .none []
    | cons y ys ih => exact .next (.insert y []) (ih.further y)
  | case2 x xs =>
    generalize x :: xs = xs
    induction xs with
    | nil => exact .none []
    | cons x xs ih => exact .next (.remove x xs) ih
  | case3 x xs y ys removed inserted kept =>
    have replaced : Edits (distance xs ys + if x = y then 0 else 1) (x :: xs) (y :: ys) := by
      split
      · rename_i same
        exact same ▸ kept.further x
      · exact .next (.replace x y xs) (kept.further y)
    exact .min (.min (.next (.remove x xs) removed) (.next (.insert y (x :: xs)) (inserted.further y))) replaced

theorem editDistance_isLeast (s t : String) : IsLeast {n | Edits n s.toList t.toList} (editDistance s t) := by
  rw [editDistance_eq]
  exact ⟨edits_distance _ _, fun n h => distance_le_of_edits h⟩

end CloudProvider.Text
