import StudyPlan.Proofs.Json.NumberRead

/-! Numbers as they are written: whole ones of any size, and finite floats in both of their
forms, spell numbers. So the text of every value without an infinite float is legible. -/
namespace StudyPlan.Json
open NumberText
open Text (Glyph)

theorem digitsShown (n : Nat) : Digits (Nat.toDigits 10 n) :=
  ⟨Nat.toDigits_ne_nil, fun _ member => Nat.isDigit_of_mem_toDigits (by decide) (by decide) member⟩

theorem positiveLed {n : Nat} (positive : n ≠ 0) :
    ∃ c cs, Nat.toDigits 10 n = c :: cs ∧ c ≠ '0' := by
  induction n using Nat.strongRecOn with
  | ind n ih =>
    rw [Nat.toDigits_eq_if (by decide)]
    split
    · rename_i small
      have shown : ∀ m < 10, m ≠ 0 → m.digitChar ≠ '0' := by decide
      exact ⟨n.digitChar, [], rfl, shown n small positive⟩
    · rename_i large
      obtain ⟨c, cs, led, first⟩ := ih (n / 10) (by omega) (by omega)
      exact ⟨c, cs ++ [(n % 10).digitChar], by rw [led]; rfl, first⟩

theorem wholeShown (n : Nat) : Whole (Nat.toDigits 10 n) := by
  by_cases zero : n = 0
  · subst zero
    exact .zero
  · obtain ⟨c, cs, led, first⟩ := positiveLed zero
    have run := digitsShown n
    rw [led] at run ⊢
    exact .led first run

theorem wholeSpelt {whole : List Char} (wholes : Whole whole) (sign : List Char)
    (signed : sign ∈ [[], ['-']]) : Spelt (sign ++ whole) := by
  have spelt := Spelt.mk signed wholes .none .none
  simpa using spelt

theorem integerSpelt (n : Int) : Spelt (Number.text (.whole n)).toList := by
  cases n with
  | ofNat n =>
    have spelt := wholeSpelt (wholeShown n) [] (by simp)
    have text : Number.text (.whole (.ofNat n)) = n.repr := rfl
    rw [text, Nat.repr_eq_ofList_toDigits, String.toList_ofList]
    exact spelt
  | negSucc n =>
    have spelt := wholeSpelt (wholeShown (n + 1)) ['-'] (by simp)
    have text : Number.text (.whole (.negSucc n)) = "-" ++ (n + 1).repr := rfl
    rw [text, Nat.repr_eq_ofList_toDigits]
    simpa using spelt

/- A whole number without sign is read as itself if it fits 64 bits; a larger one would be
read as a float. -/

theorem digitsGrow (cs : List Char) (init : Nat) : init ≤ Nat.ofDigitChars 10 cs init := by
  induction cs generalizing init with
  | nil => simp
  | cons c cs ih =>
    have others := ih (10 * init + (c.toNat - '0'.toNat))
    rw [Nat.ofDigitChars_cons]
    omega

theorem absorbed {cs : List Char} {init : Nat}
    (fits : Nat.ofDigitChars 10 cs init < Nat.pow 2 64) :
    absorb init (cs.map fun c => c.toNat - '0'.toNat) = (Nat.ofDigitChars 10 cs init, []) := by
  induction cs generalizing init with
  | nil => simp [absorb]
  | cons c cs ih =>
    rw [Nat.ofDigitChars_cons, Nat.mul_comm] at fits ⊢
    have small := digitsGrow cs (init * 10 + (c.toNat - '0'.toNat))
    rw [List.map_cons, absorb, if_pos (by omega), ih fits]

theorem naturalRead {n : Nat} (fits : n < Nat.pow 2 64) (p : Place) {rest : List Glyph}
    (ends : Ends rest) :
    NumberText.read ⟨p, (Nat.toDigits 10 n).map .char ++ rest⟩ =
      .ok (.whole n, ⟨p.right (Nat.toDigits 10 n).length, rest⟩) := by
  have wholes := wholeShown n
  have stops := endsStop ends
  have value : Nat.ofDigitChars 10 (Nat.toDigits 10 n) 0 = n := Nat.ofDigitChars_ten_toDigits
  generalize Nat.toDigits 10 n = cs at *
  have run := wholeDigits wholes
  obtain ⟨any, passed⟩ := digitsPassed run p stops
  have taken : absorb 0 (digits (cs.map .char ++ rest)) = (n, []) := by
    rw [digitsTaken run.2 stops, absorbed (by rw [value]; exact fits), value]
  have minus := digitFirst run p rest (c := '-') rfl
  have point := endsWithout ends (p.right cs.length) (c := '.') (by decide) rfl
  have small := endsWithout ends (p.right cs.length) (c := 'e') (by decide) rfl
  have large := endsWithout ends (p.right cs.length) (c := 'E') (by decide) rfl
  rw [NumberText.read, if_neg minus]
  unfold readUnsigned
  dsimp only
  split
  · rename_i empty
    simp [empty] at any
  · rename_i double
    exact absurd double (wholeUndoubled wholes stops _ _)
  · rw [taken, passed]
    simp [isExponentMark, point, small, large]

theorem naturalExact {n : Nat} (fits : n < Nat.pow 2 64) : (Number.whole n).Exact where
  toLegible := spelledLegible (integerSpelt n)
  back := by
    intro fuel p rest ends
    have spelt := integerSpelt n
    have text : (Number.text (.whole n)).toList = Nat.toDigits 10 n := by
      have shown : Number.text (.whole n) = n.repr := rfl
      rw [shown, Nat.repr_eq_ofList_toDigits, String.toList_ofList]
    have read := naturalRead fits p ends
    rw [text] at spelt
    rw [Glyph.ofString, text]
    obtain ⟨c, cs, led, start⟩ := spelledStart spelt
    rw [led, List.map_cons, List.cons_append] at read ⊢
    have step := numberStep start fuel p (cs.map .char ++ rest)
    rw [read] at step
    exact ⟨_, _, step⟩

/- Floats. Their digits have no idle zeros in front, and zero has only one form. -/

def Plain (d : Decimal) : Prop := d.digits ≠ 0 ∨ d = ⟨0, 0⟩

theorem zerosDigits (n : Nat) : ∀ c ∈ List.replicate n '0', c.isDigit := by
  intro c member
  rw [List.eq_of_mem_replicate member]
  rfl

theorem ledWhole {n : Nat} (positive : n ≠ 0) {zeros : List Char} (all : ∀ c ∈ zeros, c.isDigit) :
    Whole (Nat.toDigits 10 n ++ zeros) := by
  obtain ⟨c, cs, led, first⟩ := positiveLed positive
  obtain ⟨_, shown⟩ := digitsShown n
  rw [led] at shown ⊢
  rw [List.cons_append]
  refine .led first ⟨by simp, ?_⟩
  intro x member
  rw [← List.cons_append] at member
  rcases List.mem_append.mp member with inside | added
  · exact shown x inside
  · exact all x added

theorem ledTaken {n : Nat} (positive : n ≠ 0) (k : Nat) :
    Whole ((Nat.toDigits 10 n).take (k + 1)) := by
  obtain ⟨c, cs, led, first⟩ := positiveLed positive
  obtain ⟨_, shown⟩ := digitsShown n
  rw [led] at shown ⊢
  refine .led first ⟨by simp, ?_⟩
  intro x member
  have inside : x ∈ (c :: cs).take (k + 1) := member
  exact shown x (List.mem_of_mem_take inside)

theorem positionalSpelt {d : Decimal} (plain : Plain d) {sign : List Char}
    (signed : sign ∈ [[], ['-']]) : Spelt (sign ++ d.positional.toList) := by
  unfold Decimal.positional
  split
  · have whole : Whole (Nat.toDigits 10 d.digits ++ List.replicate d.exponent.toNat '0') := by
      rcases plain with positive | rfl
      · exact ledWhole positive (zerosDigits _)
      · exact .zero
    have fraction : Fraction ['.', '0'] := .some ⟨by simp, by simp⟩
    have spelt := Spelt.mk signed whole fraction .none
    simpa [Decimal.zeros] using spelt
  · rename_i below
    have positive : d.digits ≠ 0 := by
      rcases plain with positive | rfl
      · exact positive
      · exact absurd (Int.le_refl 0) below
    obtain ⟨some, shown⟩ := digitsShown d.digits
    generalize places : (-d.exponent).toNat = n
    have point : 0 < n := by omega
    dsimp only
    split
    · rename_i inside
      obtain ⟨k, before⟩ : ∃ k, (Nat.toDigits 10 d.digits).length - n = k + 1 :=
        ⟨(Nat.toDigits 10 d.digits).length - n - 1, by omega⟩
      have fraction : Fraction ('.' :: (Nat.toDigits 10 d.digits).drop (k + 1)) := by
        refine .some ⟨?_, fun c member => shown c (List.mem_of_mem_drop member)⟩
        rw [Ne, List.drop_eq_nil_iff]
        omega
      have spelt := Spelt.mk signed (ledTaken positive k) fraction .none
      simpa [before] using spelt
    · have run : Digits (List.replicate (n - (Nat.toDigits 10 d.digits).length) '0' ++
          Nat.toDigits 10 d.digits) := by
        refine ⟨by simp [some], fun c member => ?_⟩
        rcases List.mem_append.mp member with zero | digit
        · exact zerosDigits _ c zero
        · exact shown c digit
      have spelt := Spelt.mk signed .zero (.some run) .none
      simpa [Decimal.zeros] using spelt

theorem digitWhole {c : Char} (digit : c.isDigit) : Whole [c] := by
  by_cases zero : c = '0'
  · rw [zero]
    exact .zero
  · exact .led zero ⟨by simp, by simpa using digit⟩

theorem widthDigits (width n : Nat) :
    Digits (Decimal.zeros (width - (Decimal.digitText n).length) ++ Decimal.digitText n).toList := by
  obtain ⟨some, shown⟩ := digitsShown n
  simp only [Decimal.zeros, Decimal.digitText, String.toList_append, String.toList_ofList]
  refine ⟨by simp [some], fun c member => ?_⟩
  rcases List.mem_append.mp member with zero | digit
  · exact zerosDigits _ c zero
  · exact shown c digit

theorem scientificSpelt (d : Decimal) {sign : List Char} (signed : sign ∈ [[], ['-']]) :
    Spelt (sign ++ (d.scientific .json).toList) := by
  obtain ⟨some, shown⟩ := digitsShown d.digits
  simp only [Decimal.scientific]
  generalize Nat.toDigits 10 d.digits = digits at some shown ⊢
  generalize d.exponent + (digits.length - 1 : Nat) = power
  have marked : (if power < 0 then "-" else if Decimal.Style.json.plusSign then "+" else "").toList ∈
      [[], ['-'], ['+']] := by
    split <;> simp [Decimal.Style.json]
  have exponent := Exponent.some marked
    (widthDigits Decimal.Style.json.exponentWidth power.natAbs)
  generalize (if power < 0 then "-" else if Decimal.Style.json.plusSign then "+" else "") = mark
    at exponent ⊢
  generalize Decimal.zeros _ = idle at exponent ⊢
  generalize Decimal.digitText power.natAbs = size at exponent ⊢
  match digits with
  | [] => contradiction
  | [c] =>
    have spelt := Spelt.mk signed (digitWhole (shown c (by simp))) .none exponent
    simpa using spelt
  | c :: x :: rest =>
    have fraction : Fraction ('.' :: x :: rest) :=
      .some ⟨by simp, fun y member => shown y (by simp [List.mem_cons.mp member])⟩
    have spelt := Spelt.mk signed (digitWhole (shown c (by simp))) fraction exponent
    simpa using spelt

theorem stripPlain (fuel : Nat) {d : Decimal} (plain : Plain d) : Plain (d.strip fuel) := by
  induction fuel generalizing d with
  | zero => exact plain
  | succ fuel ih =>
    unfold Decimal.strip
    split
    · refine ih (.inl ?_)
      simp_all
      omega
    · exact plain

theorem nearestPositive {i : Decimal.Interval} {exponent : Int} {n : Nat}
    (found : i.nearest? exponent = some n) : n ≠ 0 := by
  simp only [Decimal.Interval.nearest?] at found
  split at found <;> rename_i below above
  · simp only [Bool.and_eq_true, bne_iff_ne] at below
    split at found <;> cases found
    · exact below.2
    · exact Nat.succ_ne_zero _
  · simp only [Bool.and_eq_true, bne_iff_ne] at below
    cases found
    exact below.2
  · cases found
    exact Nat.succ_ne_zero _
  · contradiction

theorem shortestPlain (x : Binary64) : Plain (Decimal.shortest x) := by
  simp only [Decimal.shortest]
  split
  · exact .inr rfl
  · refine stripPlain 20 ?_
    cases search : (List.range 17).findSome? _ with
    | none => exact .inr rfl
    | some d =>
      obtain ⟨n, -, found⟩ := List.exists_of_findSome?_eq_some search
      obtain ⟨digits, near, rfl⟩ := Option.map_eq_some_iff.mp found
      exact .inl (nearestPositive near)

theorem floatSpelt {x : Binary64} (finite : x.isFinite) : Spelt (Number.text (.float x)).toList := by
  have field : x.exponentField ≠ 2047 := by simpa [Binary64.isFinite] using finite
  have number : x.isNaN = false := by simp [Binary64.isNaN, field]
  have bounded : x.isInfinite = false := by simp [Binary64.isInfinite, field]
  simp only [Number.text, Decimal.Style.write, number, bounded, Bool.false_eq_true, if_false]
  generalize (decide ((Decimal.shortest x).digits = 0) || _) = short
  have size (sign : List Char) (signed : sign ∈ [[], ['-']]) : Spelt (sign ++
      (if short then (Decimal.shortest x).positional
        else (Decimal.shortest x).scientific .json).toList) := by
    split
    · exact positionalSpelt (shortestPlain x) signed
    · exact scientificSpelt _ signed
  split
  · simpa using size ['-'] (by simp)
  · exact size [] (by simp)

def Number.Finite : Number → Prop
  | .whole _ => True
  | .float x => x.isFinite

theorem finiteLegible {n : Number} (finite : n.Finite) : n.Legible := by
  cases n with
  | whole n => exact spelledLegible (integerSpelt n)
  | float x => exact spelledLegible (floatSpelt finite)

namespace Value

mutual

def Finite : Value → Prop
  | .number n => n.Finite
  | .array items => ItemsFinite items
  | .object members => MembersFinite members
  | _ => True

def ItemsFinite : List Value → Prop
  | [] => True
  | v :: rest => v.Finite ∧ ItemsFinite rest

def MembersFinite : List (String × Value) → Prop
  | [] => True
  | (_, v) :: rest => v.Finite ∧ MembersFinite rest

end

mutual

theorem legible : (v : Value) → v.Finite → v.Legible
  | .null, _ | .bool _, _ | .string _, _ => trivial
  | .number _, finite => finiteLegible finite
  | .array items, finite => allLegible items finite
  | .object members, finite => valuesLegible members finite

theorem allLegible : (items : List Value) → ItemsFinite items → ItemsLegible items
  | [], _ => trivial
  | v :: rest, finite => ⟨legible v finite.1, allLegible rest finite.2⟩

theorem valuesLegible : (members : List (String × Value)) → MembersFinite members →
    MembersLegible members
  | [], _ => trivial
  | (_, v) :: rest, finite => ⟨legible v finite.1, valuesLegible rest finite.2⟩

end

end Value
end StudyPlan.Json
