/-! Telling the parts of a text from the text: what stands in front of a mark and behind it is told
where one of the two is free of the mark, as numbers are of marks that are no digits. -/
namespace StudyPlan

theorem splitAtFirst {α : Type} {P : α → Prop} {x x' : α} {before before' after after' : List α}
    (free : ∀ y ∈ before, ¬ P y) (free' : ∀ y ∈ before', ¬ P y) (here : P x) (here' : P x')
    (same : before ++ x :: after = before' ++ x' :: after') :
    before = before' ∧ x = x' ∧ after = after' := by
  rcases List.append_eq_append_iff.mp same with ⟨more, front, rest⟩ | ⟨more, front, rest⟩ <;>
    cases more with
    | nil => simp_all
    | cons y more => simp_all

theorem splitAtLast {α : Type} {x : α} {before before' after after' : List α} (free : x ∉ after)
    (free' : x ∉ after') (same : before ++ x :: after = before' ++ x :: after') :
    before = before' ∧ after = after' := by
  rcases List.append_eq_append_iff.mp same with ⟨more, _, rest⟩ | ⟨more, _, rest⟩ <;>
    cases more with
    | nil => simp_all
    | cons y more =>
      simp only [List.cons_append, List.cons.injEq] at rest
      simp_all

theorem endingTold {s s' ending : String} (same : s ++ ending = s' ++ ending) : s = s' := by
  have texts := congrArg String.toList same
  simp only [String.toList_append] at texts
  exact String.toList_inj.mp (List.append_cancel_right texts)

theorem behindTold {front s s' : String} (same : front ++ s = front ++ s') : s = s' := by
  have texts := congrArg String.toList same
  simp only [String.toList_append] at texts
  exact String.toList_inj.mp (List.append_cancel_left texts)

theorem numberTold {mark : Char} (free : mark.isDigit = false) {before before' : List Char}
    {n n' : Nat}
    (same : before ++ mark :: Nat.toDigits 10 n = before' ++ mark :: Nat.toDigits 10 n') :
    before = before' ∧ n = n' := by
  have absent : ∀ n, mark ∉ Nat.toDigits 10 n := by
    intro n member
    have digit := Nat.isDigit_of_mem_toDigits (by decide) (by decide) member
    simp [free] at digit
  obtain ⟨front, digits⟩ := splitAtLast (absent n) (absent n') same
  have numbers := congrArg (fun ds => Nat.ofDigitChars 10 ds 0) digits
  exact ⟨front, by simpa using numbers⟩

end StudyPlan
