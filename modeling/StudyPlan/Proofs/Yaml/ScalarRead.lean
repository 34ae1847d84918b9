import StudyPlan.Proofs.Yaml.Common
import StudyPlan.Yaml.Scalar

/-! Scalars of the texts that JSON and YAML share. A flag stands plain and ends before a comma
or a bracket; a string stands in double quotes, and what is escaped in it is escaped alike. -/
namespace StudyPlan.Yaml

namespace Plain

theorem wordRead (s : Setting) (word : List Char) (letters : ∀ c ∈ word, c.isLower = true)
    (value : List Char) (m : Mark) (rest : List Char) :
    readFrom s 0 value .none m m (word ++ rest) =
      readFrom s 0 (word.reverse ++ value) .none (m.right word.length) (m.right word.length)
        rest := by
  induction word generalizing value m with
  | nil => rfl
  | cons c word ih =>
    obtain ⟨lower, letters⟩ := List.forall_mem_cons.mp letters
    have other : ∀ d : Char, d.isLower = false → c ≠ d := by
      intro d unlike same
      rw [same, unlike] at lower
      contradiction
    have solid : isSpaceOrTab c = false ∧ isBreak c = false ∧ isFlowMark c = false := by
      simp [isSpaceOrTab, isBreak, isFlowMark, other]
    have noMark : Cursor.seesDocumentMark ⟨m, c :: (word ++ rest)⟩ = false := by
      simp [Cursor.seesDocumentMark, other]
    have others := ih letters (c :: value) (m.right 1)
    rw [List.cons_append, readFrom]
    simp [solid, endsBefore, noMark, other, endsAt, Cursor.sees, Cursor.next?, Gap.close, others]
    simp [Mark.right, Nat.add_assoc, Nat.add_comm 1]

def Ended (rest : List Char) : Prop := ∃ c more, rest = c :: more ∧ isFlowMark c = true

theorem flagRead (b : Bool) (n : Nat) {rest : List Char} (ended : Ended rest) :
    read true 0 ⟨⟨n, 0, n⟩, (flagText b).toList ++ rest⟩ =
      .ok ⟨flagText b, Mark.right ⟨n, 0, n⟩ (flagText b).length, false,
        ⟨Mark.right ⟨n, 0, n⟩ (flagText b).length, rest⟩⟩ := by
  obtain ⟨c, more, rfl, isMark⟩ := ended
  have lower : (flagText b).toList.all Char.isLower = true := by cases b <;> rfl
  have letters := List.all_eq_true.mp lower
  have solid : isSpaceOrTab c = false ∧ isBreak c = false ∧
      c ≠ ':' ∧ c ≠ '#' ∧ c ≠ '-' ∧ c ≠ '.' := by
    simp [isFlowMark] at isMark
    rcases isMark with (((rfl | rfl) | rfl) | rfl) | rfl <;> decide
  rw [read, wordRead _ _ letters, readFrom]
  simp [solid, endsBefore, Cursor.seesDocumentMark, Cursor.sees, endsAt, Cursor.next?, isMark,
    finish, Gap.isBreaks, String.length_toList]

end Plain

/- Quoted scalars. Blanks are read as gaps that are closed by what follows. -/

namespace Quoted

def escaped (cs : List Char) : List Char := cs.flatMap fun c => (Json.escapeChar c).toList

theorem escapedCons (c : Char) (cs : List Char) :
    escaped (c :: cs) = (Json.escapeChar c).toList ++ escaped cs := rfl

theorem quoteText (s : String) : (Json.quote s).toList = '"' :: (escaped s.toList ++ ['"']) := by
  simp [Json.quote, escaped, String.toList_join, List.flatMap_map]

theorem printableOther {c : Char} (printable : PrintableChar c) (d : Char)
    (outside : ¬ (' ' ≤ d ∧ d ≤ '~')) : c ≠ d := fun same => outside (same ▸ printable)

theorem escapeText {c : Char} (printable : PrintableChar c) :
    (Json.escapeChar c).toList = if c = '"' ∨ c = '\\' then ['\\', c] else [c] := by
  have other := printableOther printable
  have high : ¬ c.toNat < 0x20 := by
    have low : ' '.toNat ≤ c.toNat := printable.1
    simpa using low
  by_cases quote : c = '"'
  · simp [Json.escapeChar, quote]
  · by_cases backslash : c = '\\'
    · simp [Json.escapeChar, backslash]
    · simp [Json.escapeChar, quote, backslash, high, other]

theorem keyShort {key : String} (keyable : Keyable key) : (Json.quote key).length ≤ 1002 := by
  have doubled : ∀ cs : List Char, (∀ c ∈ cs, PrintableChar c) →
      (escaped cs).length ≤ 2 * cs.length := by
    intro cs printable
    induction cs with
    | nil => simp [escaped]
    | cons c cs ih =>
      obtain ⟨here, printable⟩ := List.forall_mem_cons.mp printable
      have one : (Json.escapeChar c).toList.length ≤ 2 := by
        rw [escapeText here]
        split <;> simp
      have rest := ih printable
      simp only [escapedCons, List.length_append, List.length_cons]
      omega
  have bound := doubled key.toList keyable.printable
  have short := keyable.short
  rw [← String.length_toList] at short
  simp only [← String.length_toList, quoteText, List.length_append, List.length_cons,
    List.length_nil]
  omega

theorem blankAdded {gap : Gap} (level : gap.isBreaks = false) (c : Char) (value : List Char) :
    (gap.addBlank c).isBreaks = false ∧ (gap.addBlank c).close value = c :: gap.close value := by
  cases gap with
  | none => exact ⟨rfl, rfl⟩
  | blanks before => exact ⟨rfl, rfl⟩
  | breaks first others => contradiction

variable {s : Setting} {gap : Gap} {m : Mark}

theorem characterRead (double : s.single = false) {c : Char} (printable : PrintableChar c)
    (value : List Char) (level : gap.isBreaks = false) (inside : m.column ≠ 0)
    (rest : List Char) :
    ∃ value' gap', gap'.isBreaks = false ∧ gap'.close value' = c :: gap.close value ∧
      readFrom s 0 value gap none m ((Json.escapeChar c).toList ++ rest) =
        readFrom s 0 value' gap' none (m.right (Json.escapeChar c).toList.length) rest := by
  have quote : s.quote = '"' := by simp [Setting.quote, double]
  have noMark : ∀ text, Cursor.seesDocumentMark ⟨m, text⟩ = false := by
    simp [Cursor.seesDocumentMark, inside]
  rw [escapeText printable]
  by_cases blank : c = ' '
  · obtain ⟨level', closed⟩ := blankAdded level c value
    refine ⟨value, gap.addBlank c, level', closed, ?_⟩
    simp [blank, readFrom, isSpaceOrTab]
  refine ⟨c :: gap.close value, .none, rfl, rfl, ?_⟩
  by_cases special : c = '"' ∨ c = '\\'
  · rw [if_pos special]
    rcases special with rfl | rfl <;>
      simp [readFrom, isSpaceOrTab, isBreak, noMark, quote, double, escaped?]
  · rw [if_neg special]
    simp only [not_or] at special
    have solid : isSpaceOrTab c = false ∧ isBreak c = false := by
      simp [isSpaceOrTab, isBreak, blank, printableOther printable]
    simp [readFrom, solid, noMark, quote, special]

theorem charactersRead (double : s.single = false) (cs : List Char)
    (printable : ∀ c ∈ cs, PrintableChar c) (value : List Char) (level : gap.isBreaks = false)
    (inside : m.column ≠ 0) (rest : List Char) :
    readFrom s 0 value gap none m (escaped cs ++ '"' :: rest) =
      .ok (String.ofList ((gap.close value).reverse ++ cs),
        ⟨m.right ((escaped cs).length + 1), rest⟩) := by
  induction cs generalizing value gap m with
  | nil =>
    simp [escaped, readFrom, isSpaceOrTab, isBreak, Cursor.seesDocumentMark, Setting.quote, double]
  | cons c cs ih =>
    obtain ⟨here, printable⟩ := List.forall_mem_cons.mp printable
    obtain ⟨value', gap', level', closed, read⟩ :=
      characterRead double here value level inside (escaped cs ++ '"' :: rest)
    have inside' : (m.right (Json.escapeChar c).toList.length).column ≠ 0 := by
      simp [Mark.right, inside]
    have others := ih printable value' level' inside'
    rw [escapedCons, List.append_assoc, read, others, closed]
    simp [Mark.right, Nat.add_assoc]

theorem stringRead {s : String} (printable : Printable s) (n : Nat) (rest : List Char) :
    read ⟨⟨n, 0, n⟩, (Json.quote s).toList ++ rest⟩ =
      .ok (s, ⟨Mark.right ⟨n, 0, n⟩ (Json.quote s).length, rest⟩) := by
  have inside : (Mark.right ⟨n, 0, n⟩ 1).column ≠ 0 := by simp [Mark.right]
  have level : Gap.none.isBreaks = false := rfl
  rw [← String.length_toList, quoteText, List.cons_append, List.append_assoc]
  show readFrom ⟨false, _⟩ 0 [] .none none _ (escaped s.toList ++ '"' :: rest) = _
  rw [charactersRead rfl s.toList printable [] level inside rest]
  simp [Gap.close, Mark.right]
  omega

end Quoted
end StudyPlan.Yaml
