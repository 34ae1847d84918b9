import Mathlib.Data.List.Forall2

/-! Scans of a list from its left end: the first place where something holds, and
readings that stop at the first element they refuse. -/
namespace StudyPlan.Scan
variable {α β ε : Type}

structure First (bad : α → Prop) (xs : List α) (i : Nat) (x : α) : Prop where
  here : xs[i]? = some x
  holds : bad x
  before : ∀ j y, j < i → xs[j]? = some y → ¬ bad y

theorem firstLeast {bad : α → Prop} {xs : List α} {i j : Nat} {x y : α} (h : First bad xs i x)
    (here : xs[j]? = some y) (holds : bad y) : (i = j ∧ x = y) ∨ i < j := by
  rcases Nat.lt_trichotomy i j with lt | same | gt
  · exact .inr lt
  · subst j
    exact .inl ⟨rfl, Option.some.inj (h.here.symm.trans here)⟩
  · exact absurd holds (h.before j y gt here)

theorem firstUnique {bad : α → Prop} {xs : List α} {i j : Nat} {x y : α}
    (left : First bad xs i x) (right : First bad xs j y) : i = j ∧ x = y := by
  rcases firstLeast left right.here right.holds with same | lt
  · exact same
  · exact absurd left.holds (right.before i x lt left.here)

theorem firstHead {bad : α → Prop} {x : α} (xs : List α) (h : bad x) :
    First bad (x :: xs) 0 x := by
  refine ⟨rfl, h, ?_⟩
  intro j y lt
  omega

theorem firstTail {bad : α → Prop} {x y : α} {xs : List α} {i : Nat} (good : ¬ bad x)
    (h : First bad xs i y) : First bad (x :: xs) (i + 1) y := by
  refine ⟨h.here, h.holds, ?_⟩
  intro j z lt found
  cases j with
  | zero => cases Option.some.inj found; exact good
  | succ j => exact h.before j z (by omega) found

theorem firstCongr {bad worse : α → Prop} {xs : List α} {i : Nat} {x : α}
    (same : ∀ y, worse y ↔ bad y) (h : First bad xs i x) : First worse xs i x := by
  refine ⟨h.here, (same x).mpr h.holds, ?_⟩
  intro j y lt found holds
  exact h.before j y lt found ((same y).mp holds)

theorem firstPlaced {bad : α × Nat → Prop} {xs : List α} {i j k : Nat} {x : α}
    (h : First bad (xs.zipIdx i) j (x, k)) :
    k = i + j ∧ xs[j]? = some x ∧ bad (x, i + j) ∧
      ∀ l y, l < j → xs[l]? = some y → ¬ bad (y, i + l) := by
  have here := h.here
  rw [List.getElem?_zipIdx] at here
  obtain ⟨y, found, same⟩ := Option.map_eq_some_iff.mp here
  obtain ⟨rfl, rfl⟩ := Prod.mk.inj same
  refine ⟨rfl, found, h.holds, ?_⟩
  intro l z lt at'
  exact h.before l (z, i + l) lt (by simp [List.getElem?_zipIdx, at'])

theorem firstFound {test : α → Bool} {xs : List α} {x : α} (h : xs.find? test = some x) :
    ∃ i, First (fun y => test y = true) xs i x := by
  obtain ⟨holds, i, bound, here, before⟩ := List.find?_eq_some_iff_getElem.mp h
  refine ⟨i, by rw [List.getElem?_eq_getElem bound, here], holds, ?_⟩
  intro j y lt found
  obtain ⟨inside, rfl⟩ := List.getElem?_eq_some_iff.mp found
  simpa using before j lt

theorem readAll {read : α → Except ε β} {xs : List α} {ys : List β} :
    xs.mapM read = .ok ys ↔ List.Forall₂ (fun x y => read x = .ok y) xs ys := by
  induction xs generalizing ys with
  | nil => cases ys <;> simp [pure, Except.pure]
  | cons head tail ih =>
    rw [List.mapM_cons]
    cases here : read head with
    | error e => cases ys <;> simp [here, bind, Except.bind]
    | ok y =>
      cases rest : tail.mapM read with
      | error e =>
        cases ys with
        | nil => simp [bind, Except.bind]
        | cons z zs => simp [here, ← ih, rest, bind, Except.bind]
      | ok found =>
        cases ys with
        | nil => simp [bind, Except.bind, pure, Except.pure]
        | cons z zs => simp [here, ← ih, rest, bind, Except.bind, pure, Except.pure]

theorem pairedAt {related : α × Nat → β → Prop} {xs : List α} {ys : List β}
    (h : List.Forall₂ related xs.zipIdx ys) {i : Nat} {x : α} {y : β}
    (left : xs[i]? = some x) (right : ys[i]? = some y) : related (x, i) y := by
  obtain ⟨_, each⟩ := List.forall₂_iff_get.mp h
  obtain ⟨hx, rfl⟩ := List.getElem?_eq_some_iff.mp left
  obtain ⟨hy, rfl⟩ := List.getElem?_eq_some_iff.mp right
  simpa using each i (by simpa using hx) hy

theorem pairedLeft {related : α × Nat → β → Prop} {xs : List α} {ys : List β}
    (h : List.Forall₂ related xs.zipIdx ys) {i : Nat} {y : β} (right : ys[i]? = some y) :
    ∃ x, xs[i]? = some x ∧ related (x, i) y := by
  have length : xs.length = ys.length := by simpa using h.length_eq
  obtain ⟨bound, _⟩ := List.getElem?_eq_some_iff.mp right
  have left := List.getElem?_eq_getElem (length ▸ bound)
  exact ⟨_, left, pairedAt h left right⟩

theorem pairedRight {related : α × Nat → β → Prop} {xs : List α} {ys : List β}
    (h : List.Forall₂ related xs.zipIdx ys) {i : Nat} {x : α} (left : xs[i]? = some x) :
    ∃ y, ys[i]? = some y ∧ related (x, i) y := by
  have length : xs.length = ys.length := by simpa using h.length_eq
  obtain ⟨bound, _⟩ := List.getElem?_eq_some_iff.mp left
  have right := List.getElem?_eq_getElem (length ▸ bound)
  exact ⟨_, right, pairedAt h left right⟩

theorem readRefused {read : α → Except ε β} {xs : List α} {e : ε}
    (h : xs.mapM read = .error e) :
    ∃ i x, First (fun y => ∃ e, read y = .error e) xs i x ∧ read x = .error e := by
  induction xs with
  | nil => cases h
  | cons head tail ih =>
    rw [List.mapM_cons] at h
    cases here : read head with
    | error refused =>
      simp only [here, bind, Except.bind, Except.error.injEq] at h
      subst e
      exact ⟨0, head, firstHead tail ⟨refused, here⟩, here⟩
    | ok y =>
      cases rest : tail.mapM read with
      | ok found => simp [here, rest, bind, Except.bind, pure, Except.pure] at h
      | error refused =>
        simp only [here, rest, bind, Except.bind, Except.error.injEq] at h
        obtain ⟨i, x, first, refuses⟩ := ih (h ▸ rest)
        exact ⟨i + 1, x, firstTail (by simp [here]) first, refuses⟩

end StudyPlan.Scan
