import StudyPlan.Proofs.Json.TextRead

/-! The texts of numbers. A text that spells a number is passed over as a whole, whether the
number can be read or is too large for that. -/
namespace StudyPlan.Json
open Text (Glyph)

namespace NumberText

theorem assembledAt {negative : Bool} {significand : Nat} {exponent : Int} {c behind : Cursor}
    {n : Number} (read : assemble negative significand exponent c = .ok (n, behind)) :
    behind = c := by
  unfold assemble at read
  split at read
  · exact (Prod.mk.inj (Except.ok.inj read)).2.symm
  · contradiction

theorem exponentSkipped {negative : Bool} {significand : Nat} {start : Int} {c behind : Cursor}
    {n : Number} (read : readExponent negative significand start c = .ok (n, behind)) :
    skipExponent c = .ok behind := by
  simp only [readExponent] at read
  simp only [skipExponent]
  generalize passSign c.advance = mark at read ⊢
  split at read
  · contradiction
  · split at read
    · contradiction
    · rename_i some
      rw [if_neg some]
      split at read
      · unfold hugeExponent at read
        split at read
        · contradiction
        · cases read
          rfl
      · rw [assembledAt read]

theorem fractionSkipped {negative : Bool} {significand : Nat} {start : Int} {c behind : Cursor}
    {n : Number} (read : readFraction negative significand start c = .ok (n, behind)) :
    skipFraction c = .ok behind := by
  simp only [readFraction] at read
  simp only [skipFraction]
  split at read
  · contradiction
  · rename_i some
    rw [if_neg some, skipAnyExponent]
    split at read
    · rename_i mark
      rw [if_pos mark]
      exact exponentSkipped read
    · rename_i mark
      rw [if_neg mark, assembledAt read]

theorem unsignedSkipped {negative : Bool} {c behind : Cursor} {n : Number}
    (read : readUnsigned negative c = .ok (n, behind)) : skipUnsigned c = .ok behind := by
  simp only [readUnsigned] at read
  unfold skipUnsigned
  split at read
  · contradiction
  · contradiction
  · generalize move c (digits c.rest).length = mark at read
    rw [skipAnyFraction, skipAnyExponent]
    split at read
    · rename_i point
      rw [if_pos point]
      exact fractionSkipped read
    · rename_i point
      rw [if_neg point]
      split at read
      · rename_i exponent
        rw [if_pos exponent]
        exact exponentSkipped read
      · rename_i exponent
        rw [if_neg exponent]
        split at read
        · rw [assembledAt read]
        · split at read
          · cases read
            rfl
          · split at read <;> cases read <;> rfl

theorem skipped {c behind : Cursor} {n : Number} (read : NumberText.read c = .ok (n, behind)) :
    skip c = .ok behind := by
  unfold NumberText.read at read
  unfold skip
  split at read
  · rename_i minus
    rw [if_pos minus]
    exact unsignedSkipped read
  · rename_i minus
    rw [if_neg minus]
    exact unsignedSkipped read

/- The text of a number: a sign perhaps, a whole part without idle zeros, and perhaps a
fraction and an exponent. -/

def Digits (cs : List Char) : Prop := cs ≠ [] ∧ ∀ c ∈ cs, c.isDigit

inductive Whole : List Char → Prop where
  | zero : Whole ['0']
  | led {c : Char} {cs : List Char} (first : c ≠ '0') (run : Digits (c :: cs)) : Whole (c :: cs)

inductive Fraction : List Char → Prop where
  | none : Fraction []
  | some {cs : List Char} (run : Digits cs) : Fraction ('.' :: cs)

inductive Exponent : List Char → Prop where
  | none : Exponent []
  | some {sign cs : List Char} (signed : sign ∈ [[], ['-'], ['+']]) (run : Digits cs) :
      Exponent ('e' :: (sign ++ cs))

inductive Spelt : List Char → Prop where
  | mk {sign whole fraction exponent : List Char} (signed : sign ∈ [[], ['-']])
      (wholes : Whole whole) (fractions : Fraction fraction) (exponents : Exponent exponent) :
      Spelt (sign ++ (whole ++ (fraction ++ exponent)))

def Stops (rest : List Glyph) : Prop := ∀ g ∈ rest.head?, digit? g = none

theorem digitsTaken {cs : List Char} (all : ∀ c ∈ cs, c.isDigit) {rest : List Glyph}
    (stops : Stops rest) :
    digits (cs.map .char ++ rest) = cs.map fun c => c.toNat - '0'.toNat := by
  induction cs with
  | nil =>
    cases rest with
    | nil => rfl
    | cons g rest => simp [digits, stops g rfl]
  | cons c cs ih =>
    obtain ⟨head, tail⟩ := List.forall_mem_cons.mp all
    have first : digit? (.char c) = some (c.toNat - '0'.toNat) := by simp [digit?, head]
    have others := ih tail
    unfold digits at others ⊢
    simp only [List.map_cons, List.cons_append, List.takeWhile_cons, first, Option.isSome_some,
      if_true, List.filterMap_cons, others]

theorem endsStop {rest : List Glyph} (ends : Ends rest) : Stops rest := by
  rcases ends with rfl | ⟨c, more, rfl, closing | blank⟩
  · simp [Stops]
  · simp only [List.mem_cons, List.not_mem_nil, or_false] at closing
    rcases closing with rfl | rfl | rfl <;> simp [Stops, digit?]
  · simp only [Cursor.isBlank, Bool.or_eq_true, decide_eq_true_eq] at blank
    rcases blank with ((rfl | rfl) | rfl) | rfl <;> simp [Stops, digit?]

theorem exponentStops {exponent : List Char} (exponents : Exponent exponent) {rest : List Glyph}
    (ends : Ends rest) : Stops (exponent.map .char ++ rest) := by
  cases exponents with
  | none => exact endsStop ends
  | some => simp [Stops, digit?]

theorem fractionStops {fraction : List Char} (fractions : Fraction fraction)
    {rest : List Glyph} (stops : Stops rest) : Stops (fraction.map .char ++ rest) := by
  cases fractions with
  | none => exact stops
  | some => simp [Stops, digit?]

theorem endsWithout {rest : List Glyph} (ends : Ends rest) (p : Place) {c : Char}
    (other : c ∉ [',', ']', '\x7d']) (solid : Cursor.isBlank c = false) :
    Cursor.next? ⟨p, rest⟩ ≠ some c := by
  rcases ends with rfl | ⟨x, more, rfl, closing | blank⟩
  · simp [Cursor.next?]
  · rintro ⟨⟩
    exact other closing
  · rintro ⟨⟩
    simp [solid] at blank

theorem digitFirst {cs : List Char} (run : Digits cs) (p : Place) (rest : List Glyph) {c : Char}
    (other : c.isDigit = false) : Cursor.next? ⟨p, cs.map .char ++ rest⟩ ≠ some c := by
  obtain ⟨some, all⟩ := run
  cases cs with
  | nil => contradiction
  | cons d cs =>
    rintro ⟨⟩
    exact absurd (all c (by simp)) (by simp [other])

theorem digitsPassed {cs : List Char} (run : Digits cs) (p : Place) {rest : List Glyph}
    (stops : Stops rest) :
    (digits (cs.map .char ++ rest)).isEmpty = false ∧
      move ⟨p, cs.map .char ++ rest⟩ (digits (cs.map .char ++ rest)).length =
        ⟨p.right cs.length, rest⟩ := by
  rw [digitsTaken run.2 stops]
  exact ⟨by simp [run.1], by simp [move]⟩

theorem signPassed {sign cs : List Char} (signed : sign ∈ [[], ['-'], ['+']]) (run : Digits cs)
    (p : Place) (rest : List Glyph) :
    ∃ q, passSign ⟨p, (sign ++ cs).map .char ++ rest⟩ = ⟨q, cs.map .char ++ rest⟩ := by
  simp only [List.mem_cons, List.not_mem_nil, or_false] at signed
  rcases signed with rfl | rfl | rfl
  · have minus := digitFirst run p rest (c := '-') rfl
    have plus := digitFirst run p rest (c := '+') rfl
    exact ⟨p, by simp [passSign, minus, plus]⟩
  · exact ⟨p.after (.char '-'), rfl⟩
  · exact ⟨p.after (.char '+'), rfl⟩

theorem exponentPassed {exponent : List Char} (exponents : Exponent exponent) (p : Place)
    {rest : List Glyph} (ends : Ends rest) :
    ∃ q, skipAnyExponent ⟨p, exponent.map .char ++ rest⟩ = .ok ⟨q, rest⟩ := by
  cases exponents with
  | none =>
    have small := endsWithout ends p (c := 'e') (by decide) rfl
    have large := endsWithout ends p (c := 'E') (by decide) rfl
    exact ⟨p, by simp [skipAnyExponent, isExponentMark, small, large]⟩
  | some signed run =>
    rename_i sign cs
    obtain ⟨q, unsigned⟩ := signPassed signed run (p.after (.char 'e')) rest
    obtain ⟨any, passed⟩ := digitsPassed run q (endsStop ends)
    have step : skipAnyExponent ⟨p, ('e' :: (sign ++ cs)).map .char ++ rest⟩ =
      skipExponent ⟨p, .char 'e' :: ((sign ++ cs).map .char ++ rest)⟩ := rfl
    refine ⟨q.right cs.length, ?_⟩
    simp only [step, skipExponent, Cursor.advance, unsigned, any, passed]
    rfl

theorem fractionPassed {fraction exponent : List Char} (fractions : Fraction fraction)
    (exponents : Exponent exponent) (p : Place) {rest : List Glyph} (ends : Ends rest) :
    ∃ q, skipAnyFraction ⟨p, fraction.map .char ++ (exponent.map .char ++ rest)⟩ =
      .ok ⟨q, rest⟩ := by
  cases fractions with
  | none =>
    have point : Cursor.next? ⟨p, exponent.map .char ++ rest⟩ ≠ some '.' := by
      cases exponents with
      | none => exact endsWithout ends p (by decide) rfl
      | some => simp [Cursor.next?]
    simp only [List.map_nil, List.nil_append, skipAnyFraction, if_neg point]
    exact exponentPassed exponents p ends
  | some run =>
    rename_i cs
    obtain ⟨any, passed⟩ := digitsPassed run (p.after (.char '.')) (exponentStops exponents ends)
    obtain ⟨q, done⟩ := exponentPassed exponents ((p.after (.char '.')).right cs.length) ends
    have step : skipAnyFraction
        ⟨p, ('.' :: cs).map .char ++ (exponent.map .char ++ rest)⟩ =
      skipFraction ⟨p, .char '.' :: (cs.map .char ++ (exponent.map .char ++ rest))⟩ := rfl
    refine ⟨q, ?_⟩
    simp only [step, skipFraction, Cursor.advance, any, passed]
    exact done

theorem wholeDigits {whole : List Char} (wholes : Whole whole) : Digits whole := by
  cases wholes with
  | zero => exact ⟨by simp, by simp⟩
  | led _ run => exact run

theorem zeroDigit {c : Char} (digit : c.isDigit) (zero : c.toNat - '0'.toNat = 0) : c = '0' := by
  simp only [Char.isDigit, ge_iff_le, Bool.and_eq_true, decide_eq_true_eq,
    UInt32.le_iff_toNat_le] at digit
  exact Char.toNat_inj.mp (Nat.le_antisymm (Nat.sub_eq_zero_iff_le.mp zero) digit.1)

theorem wholeUndoubled {whole : List Char} (wholes : Whole whole) {rest : List Glyph}
    (stops : Stops rest) (d : Nat) (ds : List Nat) :
    digits (whole.map .char ++ rest) ≠ 0 :: d :: ds := by
  have run := wholeDigits wholes
  rw [digitsTaken run.2 stops]
  intro double
  cases wholes with
  | zero => simp at double
  | led first => exact first (zeroDigit (run.2 _ (by simp)) (List.cons.inj double).1)

theorem wholePassed {whole : List Char} (wholes : Whole whole) (p : Place) {rest : List Glyph}
    (stops : Stops rest) :
    skipUnsigned ⟨p, whole.map .char ++ rest⟩ =
      skipAnyFraction ⟨p.right whole.length, rest⟩ := by
  obtain ⟨any, passed⟩ := digitsPassed (wholeDigits wholes) p stops
  unfold skipUnsigned
  split
  · rename_i empty
    simp [empty] at any
  · rename_i double
    exact absurd double (wholeUndoubled wholes stops _ _)
  · rw [passed]

theorem passed {text : List Char} (spelt : Spelt text) (p : Place) {rest : List Glyph}
    (ends : Ends rest) : ∃ q, skip ⟨p, text.map .char ++ rest⟩ = .ok ⟨q, rest⟩ := by
  obtain ⟨signed, wholes, fractions, exponents⟩ := spelt
  rename_i sign whole fraction exponent
  have stops := fractionStops fractions (exponentStops exponents ends)
  have unsigned : ∀ p, ∃ q, skipUnsigned ⟨p, whole.map .char ++
      (fraction.map .char ++ (exponent.map .char ++ rest))⟩ = .ok ⟨q, rest⟩ := by
    intro p
    rw [wholePassed wholes p stops]
    exact fractionPassed fractions exponents _ ends
  simp only [List.map_append, List.append_assoc]
  simp only [List.mem_cons, List.not_mem_nil, or_false] at signed
  rcases signed with rfl | rfl
  · have minus := digitFirst (wholeDigits wholes) p
      (fraction.map .char ++ (exponent.map .char ++ rest)) (c := '-') rfl
    simp only [skip, List.map_nil, List.nil_append, if_neg minus]
    exact unsigned p
  · exact unsigned (p.after (.char '-'))

end NumberText

open NumberText

theorem spelledStart {text : List Char} (spelt : Spelt text) :
    ∃ c cs, text = c :: cs ∧ (c = '-' ∨ c.isDigit) := by
  obtain ⟨signed, wholes, _, _⟩ := spelt
  simp only [List.mem_cons, List.not_mem_nil, or_false] at signed
  rcases signed with rfl | rfl
  · obtain ⟨some, all⟩ := wholeDigits wholes
    obtain ⟨c, cs, rfl⟩ := List.exists_cons_of_ne_nil some
    exact ⟨c, _, rfl, .inr (all c (by simp))⟩
  · exact ⟨'-', _, rfl, .inl rfl⟩

theorem startOther {c x : Char} (start : c = '-' ∨ c.isDigit) (minus : x ≠ '-')
    (digit : x.isDigit = false) : c ≠ x := by
  rintro rfl
  rcases start with same | number
  · exact minus same
  · simp [digit] at number

theorem startSolid {c : Char} (start : c = '-' ∨ c.isDigit) : Cursor.isBlank c = false := by
  have blank := startOther (x := ' ') start (by decide) rfl
  have newline := startOther (x := '\n') start (by decide) rfl
  have tab := startOther (x := '\t') start (by decide) rfl
  have carriage := startOther (x := '\r') start (by decide) rfl
  simp [Cursor.isBlank, blank, newline, tab, carriage]

theorem numberStep {c : Char} (start : c = '-' ∨ c.isDigit) (fuel : Nat) (p : Place)
    (rest : List Glyph) :
    Node.read (fuel + 1) ⟨p, .char c :: rest⟩ =
      Node.ofReadings .number (NumberText.read ⟨p, .char c :: rest⟩)
        (NumberText.skip ⟨p, .char c :: rest⟩) := by
  have array := startOther (x := '[') start (by decide) rfl
  have object := startOther (x := '\x7b') start (by decide) rfl
  have null := startOther (x := 'n') start (by decide) rfl
  have yes := startOther (x := 't') start (by decide) rfl
  have no := startOther (x := 'f') start (by decide) rfl
  have quote := startOther (x := '"') start (by decide) rfl
  have scalar : Node.ofScalar ⟨p, .char c :: rest⟩ =
      Node.ofReadings .number (NumberText.read ⟨p, .char c :: rest⟩)
        (NumberText.skip ⟨p, .char c :: rest⟩) := by
    simp [Node.ofScalar, Cursor.next?, start]
  simp [Node.read, skipSolid (startSolid start), Cursor.next?, array, object, scalar]

theorem spelledLegible {n : Number} (spelt : Spelt n.text.toList) : n.Legible := by
  obtain ⟨c, cs, text, start⟩ := spelledStart spelt
  constructor
  · exact ⟨c, cs, text, startSolid start, startOther start (by decide) rfl⟩
  · intro fuel p rest ends
    obtain ⟨q, passed⟩ := NumberText.passed spelt p ends
    have step := numberStep start fuel p (cs.map .char ++ rest)
    have whole : Glyph.ofString n.text ++ rest = .char c :: (cs.map .char ++ rest) := by
      simp [Glyph.ofString, text]
    rw [text] at passed
    rw [whole, step]
    change NumberText.skip ⟨p, .char c :: (cs.map .char ++ rest)⟩ = .ok ⟨q, rest⟩ at passed
    cases read : NumberText.read ⟨p, .char c :: (cs.map .char ++ rest)⟩ with
    | error flaw =>
      rw [passed]
      exact ⟨_, q, rfl, .unread⟩
    | ok found =>
      obtain ⟨m, behind⟩ := found
      cases (NumberText.skipped read).symm.trans passed
      exact ⟨_, q, rfl, .number⟩

end StudyPlan.Json
