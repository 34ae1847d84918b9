import StudyPlan.Json.Printer
import StudyPlan.Json.StringText

/-! Quoted texts read back: for every string, whatever its characters, the reader of
strings takes the text between the quotes back to the string and stops behind the
closing quote. -/
namespace StudyPlan.Json.StringText
open Text (Glyph)

theorem controlDigits {n : Nat} (small : n < 0x20) :
    (Text.paddedHex 4 n).toList =
      ['0', '0', Nat.digitChar (n / 16), Nat.digitChar (n % 16)] := by
  have all : ∀ n : Fin 0x20, (Text.paddedHex 4 n).toList =
      ['0', '0', Nat.digitChar (n / 16), Nat.digitChar (n % 16)] := by decide
  exact all ⟨n, small⟩

theorem digitValue {n : Nat} (small : n < 16) :
    Text.hexValue? (Nat.digitChar n) = some n := by
  have all : ∀ n : Fin 16, Text.hexValue? (Nat.digitChar n) = some n.val := by decide
  exact all ⟨n, small⟩

theorem hexStep {before : List Char} {p : Place} {c : Char} {digit value count : Nat}
    {rest : List Glyph} (known : Text.hexValue? c = some digit) (more : count < 3) :
    readFrom (.hex none value count) before none p (.char c :: rest) =
      readFrom (.hex none (value * 16 + digit) (count + 1)) before none (p.after (.char c)) rest := by
  simp [readFrom, hexDigit?, known, more]

theorem hexEnd {before : List Char} {p : Place} {c : Char} {digit value : Nat}
    {rest : List Glyph} (known : Text.hexValue? c = some digit)
    (control : value * 16 + digit < 0x20) :
    readFrom (.hex none value 3) before none p (.char c :: rest) =
      readFrom .plain (Char.ofNat (value * 16 + digit) :: before) none (p.after (.char c)) rest := by
  have notLow : isLow (value * 16 + digit) = false := by simp [isLow]; omega
  have notHigh : isHigh (value * 16 + digit) = false := by simp [isHigh]; omega
  simp [readFrom, hexDigit?, known, finishHex, notLow, notHigh]

theorem controlRead {c : Char} (control : c.toNat < 0x20) (before : List Char) (p : Place)
    (rest : List Glyph) :
    ∃ q, readFrom .plain before none p
        (Glyph.ofString ("\\u" ++ Text.paddedHex 4 c.toNat) ++ rest) =
      readFrom .plain (c :: before) none q rest := by
  have zero : Text.hexValue? '0' = some 0 := rfl
  have high := digitValue (n := c.toNat / 16) (by omega)
  have low := digitValue (n := c.toNat % 16) (by omega)
  have spelt : Glyph.ofString ("\\u" ++ Text.paddedHex 4 c.toNat) ++ rest =
      .char '\\' :: .char 'u' :: .char '0' :: .char '0' ::
        .char (Nat.digitChar (c.toNat / 16)) :: .char (Nat.digitChar (c.toNat % 16)) :: rest := by
    simp [Glyph.ofString, controlDigits control]
  have whole : (c.toNat / 16) * 16 + c.toNat % 16 = c.toNat := by omega
  have opened : ∀ digits, readFrom .plain before none p (.char '\\' :: .char 'u' :: digits) =
      readFrom (.hex none 0 0) before none
        ((p.after (.char '\\')).after (.char 'u')) digits := by
    intro digits
    simp [readFrom]
  have ended := opened (.char '0' :: .char '0' :: .char (Nat.digitChar (c.toNat / 16)) ::
    .char (Nat.digitChar (c.toNat % 16)) :: rest)
  rw [hexStep zero (by omega), hexStep zero (by omega), hexStep high (by omega),
    hexEnd low (by omega)] at ended
  simp only [Nat.zero_mul, Nat.zero_add, whole, Char.ofNat_toNat] at ended
  rw [spelt]
  exact ⟨_, ended⟩

theorem letterRead {c : Char} (letter : Char) (spelt : escapeChar c = String.ofList ['\\', letter])
    (known : escaped? letter = some c) (before : List Char) (p : Place) (rest : List Glyph) :
    ∃ q, readFrom .plain before none p (Glyph.ofString (escapeChar c) ++ rest) =
      readFrom .plain (c :: before) none q rest := by
  have notHex : letter ≠ 'u' := by
    rintro rfl
    simp [escaped?] at known
  refine ⟨(p.after (.char '\\')).after (.char letter), ?_⟩
  simp [spelt, Glyph.ofString, readFrom, known]

theorem characterRead (c : Char) (before : List Char) (p : Place) (rest : List Glyph) :
    ∃ q, readFrom .plain before none p (Glyph.ofString (escapeChar c) ++ rest) =
      readFrom .plain (c :: before) none q rest := by
  by_cases quote : c = '"'
  · subst quote
    exact letterRead '"' rfl rfl before p rest
  by_cases backslash : c = '\\'
  · subst backslash
    exact letterRead '\\' rfl rfl before p rest
  by_cases backspace : c = '\x08'
  · subst backspace
    exact letterRead 'b' rfl rfl before p rest
  by_cases tab : c = '\t'
  · subst tab
    exact letterRead 't' rfl rfl before p rest
  by_cases newline : c = '\n'
  · subst newline
    exact letterRead 'n' rfl rfl before p rest
  by_cases formFeed : c = '\x0c'
  · subst formFeed
    exact letterRead 'f' rfl rfl before p rest
  by_cases carriage : c = '\r'
  · subst carriage
    exact letterRead 'r' rfl rfl before p rest
  have spelt : escapeChar c =
      if c.toNat < 0x20 then "\\u" ++ Text.paddedHex 4 c.toNat else c.toString := by
    simp [escapeChar, quote, backslash, backspace, tab, newline, formFeed, carriage]
  by_cases control : c.toNat < 0x20
  · rw [spelt, if_pos control]
    exact controlRead control before p rest
  · refine ⟨p.after (.char c), ?_⟩
    rw [spelt, if_neg control]
    simp [Glyph.ofString, readFrom, control]

theorem charactersRead (cs before : List Char) (p : Place) (rest : List Glyph) :
    ∃ q, readFrom .plain before none p
        (Glyph.ofString (String.join (cs.map escapeChar)) ++ .char '"' :: rest) =
      .ok (String.ofList (before.reverse ++ cs), ⟨q, rest⟩) := by
  induction cs generalizing before p with
  | nil => exact ⟨p.after (.char '"'), by simp [Glyph.ofString, readFrom]⟩
  | cons c cs ih =>
    obtain ⟨middle, first⟩ :=
      characterRead c before p
        (Glyph.ofString (String.join (cs.map escapeChar)) ++ .char '"' :: rest)
    obtain ⟨q, others⟩ := ih (c :: before) middle
    refine ⟨q, ?_⟩
    have split : Glyph.ofString (String.join ((c :: cs).map escapeChar)) =
        Glyph.ofString (escapeChar c) ++ Glyph.ofString (String.join (cs.map escapeChar)) := by
      simp [Glyph.ofString, String.toList_join]
    rw [split, List.append_assoc, first, others]
    simp

theorem readQuoted (s : String) (p : Place) (rest : List Glyph) :
    ∃ q, read ⟨p, (quote s).toList.tail.map .char ++ rest⟩ = .ok (s, ⟨q, rest⟩) := by
  obtain ⟨q, done⟩ := charactersRead s.toList [] p rest
  refine ⟨q, ?_⟩
  have spelt : (quote s).toList.tail.map .char ++ rest =
      Glyph.ofString (String.join (s.toList.map escapeChar)) ++ .char '"' :: rest := by
    simp [quote, Glyph.ofString]
  rw [read, spelt]
  simpa using done

end StudyPlan.Json.StringText
