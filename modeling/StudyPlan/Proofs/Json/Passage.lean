import StudyPlan.Proofs.Json.Lawful
import StudyPlan.Proofs.Json.NumberRead

/-! The text that a tree was read from. Where the tree between two cursors has no flaw, only
characters stand between them: a stray byte always leaves a flaw in the tree. -/
namespace StudyPlan.Json
open Text (Glyph)
open Schema (okBound okMapped)

def Passes (c d : Cursor) : Prop := ∃ cs : List Char, c.rest = cs.map .char ++ d.rest

namespace Passes
variable {c d e : Cursor}

theorem refl (c : Cursor) : Passes c c := ⟨[], rfl⟩

theorem trans (first : Passes c d) (second : Passes d e) : Passes c e := by
  obtain ⟨left, here⟩ := first
  obtain ⟨right, there⟩ := second
  exact ⟨left ++ right, by simp [here, there]⟩

theorem char {x : Char} {p q : Place} {rest : List Glyph} (later : Passes ⟨q, rest⟩ d) :
    Passes ⟨p, .char x :: rest⟩ d := by
  obtain ⟨cs, passed⟩ := later
  exact ⟨x :: cs, by simpa using passed⟩

theorem advance {x : Char} (next : c.next? = some x) : Passes c c.advance := by
  obtain ⟨p, text⟩ := c
  match text, next with
  | .char x :: rest, _ => exact (refl _).char

theorem skipBlanks (p : Place) (text : List Glyph) :
    Passes ⟨p, text⟩ (Cursor.skipBlanks p text) := by
  fun_induction Cursor.skipBlanks p text with
  | case1 p x rest blank ih => exact ih.char
  | case2 | case3 => exact refl _

theorem skip (c : Cursor) : Passes c c.skip := skipBlanks c.place c.rest

theorem mark {x : Char} (next : c.skip.next? = some x) : Passes c c.skip.advance :=
  (skip c).trans (advance next)

end Passes

/- Strings: a stray byte inside is remembered, and refused at the end. -/

theorem hexPasses {g : Glyph} {digit : Nat} (hex : StringText.hexDigit? g = some digit)
    {p q : Place} {rest : List Glyph} {d : Cursor} (later : Passes ⟨q, rest⟩ d) :
    Passes ⟨p, g :: rest⟩ d := by
  cases g with
  | char c => exact later.char
  | stray b => contradiction

theorem stringPasses {stage : StringText.Stage} {before : List Char} {stray : Option Place}
    {p : Place} {text : List Glyph} {s : String} {behind : Cursor}
    (read : StringText.readFrom stage before stray p text = .ok (s, behind)) :
    stray = none ∧ Passes ⟨p, text⟩ behind := by
  fun_induction StringText.readFrom stage before stray p text with
  | case1 | case4 | case6 | case10 | case11 | case12 | case14 | case18 | case20 => contradiction
  -- a stray byte is never forgotten, so the string cannot be read to its end
  | case2 before stray _ rest next b ih =>
    have remembered := (ih read).1
    cases stray <;> contradiction
  | case3 =>
    cases read
    exact ⟨rfl, (Passes.refl _).char⟩
  | case5 _ _ _ _ _ ih | case8 _ _ _ _ _ ih | case17 _ _ _ _ _ _ ih | case19 _ _ _ _ _ _ ih =>
    exact ⟨(ih read).1, (ih read).2.char⟩
  | case7 _ _ _ _ _ _ _ _ _ ih | case9 _ _ _ _ _ _ _ _ _ ih =>
    exact ⟨(ih read).1, (ih read).2.char⟩
  | case13 _ _ _ _ _ _ _ _ _ _ hex _ _ ih =>
    exact ⟨(ih read).1, hexPasses hex (ih read).2⟩
  | case15 _ _ _ _ _ _ _ _ _ _ hex _ _ _ _ ih | case16 _ _ _ _ _ _ _ _ _ _ hex _ _ _ _ ih =>
    exact ⟨(ih read).1, hexPasses hex (ih read).2⟩

theorem wordPasses {c d : Cursor} {word : List Char} (read : Node.expectWord c word = .ok d) :
    Passes c d := by
  induction word generalizing c with
  | nil =>
    cases read
    exact .refl _
  | cons x word ih =>
    simp only [Node.expectWord] at read
    split at read
    · contradiction
    · split at read
      · rename_i next
        exact (Passes.advance next).trans (ih read)
      · contradiction

namespace NumberText

theorem digitsSpelt (text : List Glyph) :
    ∃ cs : List Char, text = cs.map .char ++ text.drop (digits text).length := by
  unfold digits
  induction text with
  | nil => exact ⟨[], rfl⟩
  | cons g rest ih =>
    obtain ⟨cs, spelt⟩ := ih
    cases digit : digit? g with
    | none => exact ⟨[], by simp [digit]⟩
    | some n =>
      cases g with
      | stray b => contradiction
      | char c =>
        refine ⟨c :: cs, ?_⟩
        simpa [List.takeWhile_cons, digit] using spelt

theorem digitsPass (c : Cursor) : Passes c (move c (digits c.rest).length) := digitsSpelt c.rest

theorem signPasses (c : Cursor) : Passes c (passSign c) := by
  unfold passSign
  split
  · rename_i sign
    rcases Bool.or_eq_true .. |>.mp sign with minus | plus
    · exact .advance (of_decide_eq_true minus)
    · exact .advance (of_decide_eq_true plus)
  · exact .refl c

theorem exponentPasses {c d : Cursor} (skipped : skipAnyExponent c = .ok d) : Passes c d := by
  unfold skipAnyExponent at skipped
  split at skipped
  · rename_i mark
    have first : Passes c c.advance := by
      rcases Bool.or_eq_true .. |>.mp mark with small | large
      · exact .advance (of_decide_eq_true small)
      · exact .advance (of_decide_eq_true large)
    simp only [skipExponent] at skipped
    split at skipped
    · contradiction
    · cases skipped
      exact (first.trans (signPasses _)).trans (digitsPass _)
  · cases skipped
    exact .refl c

theorem fractionPasses {c d : Cursor} (skipped : skipAnyFraction c = .ok d) : Passes c d := by
  unfold skipAnyFraction at skipped
  split at skipped
  · rename_i point
    simp only [skipFraction] at skipped
    split at skipped
    · contradiction
    · exact ((Passes.advance point).trans (digitsPass _)).trans (exponentPasses skipped)
  · exact exponentPasses skipped

theorem unsignedPasses {c d : Cursor} (skipped : skipUnsigned c = .ok d) : Passes c d := by
  unfold skipUnsigned at skipped
  split at skipped
  · contradiction
  · contradiction
  · exact (digitsPass c).trans (fractionPasses skipped)

theorem skipPasses {c d : Cursor} (skipped : skip c = .ok d) : Passes c d := by
  unfold skip at skipped
  split at skipped
  · rename_i minus
    exact (Passes.advance minus).trans (unsignedPasses skipped)
  · exact unsignedPasses skipped

end NumberText

mutual

/-- The tree belongs to the text from one cursor to the other. Where it holds a flaw nothing is
said of the text, since no reading gets past the flaw. -/
inductive Spans : Cursor → Node → Cursor → Prop where
  | scalar {c d value skipped place} (clean : ∀ s, value = .ok s → Passes c d) :
      Spans c (.scalar value skipped place) d
  | array {c d start inside items} (opened : Passes c inside) (all : ItemsSpan inside items d) :
      Spans c (.array start inside items) d
  | object {c d start inside members} (opened : Passes c inside)
      (all : MembersSpan inside members d) : Spans c (.object start inside members) d

inductive ItemsSpan : Cursor → Items → Cursor → Prop where
  | close {c d} (closed : Passes c d) : ItemsSpan c .close d
  | item {c behind d value rest} (opened : c.closeArray ≠ .ok ()) (head : Spans c value behind)
      (tail : ItemsSpan behind rest d) : ItemsSpan c (.item value behind rest) d

inductive MembersSpan : Cursor → Members → Cursor → Prop where
  | close {c d} (closed : Passes c d) : MembersSpan c .close d
  | member {c behindKey behind d key value rest} (named : ∀ k, key = .ok k → Passes c behindKey)
      (head : Spans behindKey value behind) (tail : MembersSpan behind rest d) :
      MembersSpan c (.member key behindKey value behind rest) d

end

theorem Spans.before {c c' d : Cursor} {node : Node} (first : Passes c c')
    (spans : Spans c' node d) : Spans c node d := by
  cases spans with
  | scalar clean => exact .scalar fun s value => first.trans (clean s value)
  | array opened all => exact .array (first.trans opened) all
  | object opened all => exact .object (first.trans opened) all

theorem readingsSpan {α : Type} {wrap : α → Scalar} {read : Except Flaw (α × Cursor)}
    {skip : Except Flaw Cursor} {c d : Cursor} {node : Node}
    (passes : ∀ x behind, read = .ok (x, behind) → Passes c behind)
    (given : Node.ofReadings wrap read skip = (node, .ok d)) : Spans c node d := by
  unfold Node.ofReadings at given
  split at given
  · rename_i x behind
    cases given
    exact .scalar fun _ _ => passes x d rfl
  · split at given
    · cases given
      exact .scalar nofun
    · cases given

theorem wordSpans {c d : Cursor} {word : List Char} {value : Scalar} {node : Node} {x : Char}
    (next : c.next? = some x) (given : Node.ofWord c word value = (node, .ok d)) :
    Spans c node d := by
  refine readingsSpan (fun _ behind read => ?_) given
  obtain ⟨found, expected, same⟩ := okMapped read
  cases same
  exact (Passes.advance next).trans (wordPasses expected)

theorem scalarSpans {c d : Cursor} {node : Node} (given : Node.ofScalar c = (node, .ok d)) :
    Spans c node d := by
  unfold Node.ofScalar at given
  split at given
  · rename_i next
    exact wordSpans next given
  · rename_i next
    exact wordSpans next given
  · rename_i next
    exact wordSpans next given
  · rename_i next
    refine readingsSpan (fun s behind read => ?_) given
    exact (Passes.advance next).trans (stringPasses read).2
  · split at given
    · refine readingsSpan (fun n behind read => ?_) given
      exact NumberText.skipPasses (NumberText.skipped read)
    · cases given
  · cases given

theorem closes {c : Cursor} (closed : c.closeArray = .ok ()) : c.skip.next? = some ']' := by
  simp only [Cursor.closeArray] at closed
  split at closed
  · assumption
  · split at closed <;> contradiction
  · contradiction

theorem separatorPasses {c : Cursor} {first : Bool}
    (ready : ¬ (c.isAtEnd || (!first && c.next? != some ',')) = true) :
    Passes c (if first then c else c.advance.skip) := by
  cases first with
  | true => exact .refl c
  | false =>
    have comma : c.next? = some ',' := by simp_all
    exact (Passes.advance comma).trans (.skip _)

theorem itemPasses {c start : Cursor} {first : Bool} (found : Node.itemStart c first = .ok start) :
    Passes c start := by
  simp only [Node.itemStart] at found
  split at found
  · contradiction
  · rename_i ready
    have passed := separatorPasses ready
    generalize (if first = true then c else c.advance.skip) = mark at passed found
    split at found
    · contradiction
    · cases found
      exact passed

theorem keyPasses {c start : Cursor} {first : Bool} (found : Node.keyStart c first = .ok start) :
    Passes c start ∧ start.next? = some '"' := by
  simp only [Node.keyStart] at found
  split at found
  · contradiction
  · rename_i ready
    have passed := separatorPasses ready
    generalize (if first = true then c else c.advance.skip) = mark at passed found
    split at found
    · rename_i quote
      cases found
      exact ⟨passed, quote⟩
    · contradiction

theorem namePasses {c behind : Cursor} {key : Except Flaw String} {k : String}
    (quote : c.next? = some '"') (read : Node.readKey c = .ok (key, behind)) (good : key = .ok k) :
    Passes c behind := by
  subst good
  unfold Node.readKey at read
  split at read
  · rename_i text
    cases read
    exact (Passes.advance quote).trans (stringPasses text).2
  · split at read <;> cases read

mutual

theorem nodeSpans {fuel : Nat} {c d : Cursor} {node : Node}
    (given : Node.read fuel c = (node, .ok d)) : Spans c node d := by
  match fuel with
  | 0 => cases given
  | fuel + 1 =>
    simp only [Node.read] at given
    refine .before (.skip c) ?_
    split at given
    · rename_i next
      cases read : Node.readItems fuel c.skip.advance true with
      | mk items behind =>
        rw [read] at given
        cases given
        exact .array (.advance next) (itemsSpan read)
    · rename_i next
      cases read : Node.readMembers fuel c.skip.advance true with
      | mk members behind =>
        rw [read] at given
        cases given
        exact .object (.advance next) (membersSpan read)
    · exact scalarSpans given

theorem itemsSpan {fuel : Nat} {c d : Cursor} {first : Bool} {items : Items}
    (given : Node.readItems fuel c first = (items, .ok d)) : ItemsSpan c items d := by
  match fuel with
  | 0 => cases given
  | fuel + 1 =>
    simp only [Node.readItems] at given
    split at given
    · rename_i bracket
      cases given
      exact .close (.mark bracket)
    · rename_i bracket
      split at given
      · cases given
      · rename_i start found
        split at given
        · cases given
        · rename_i value behind read
          cases others : Node.readItems fuel behind false with
          | mk rest done =>
            rw [others] at given
            cases given
            refine .item (fun closed => bracket (closes closed)) ?_ (itemsSpan others)
            exact (nodeSpans read).before ((Passes.skip c).trans (itemPasses found))

theorem membersSpan {fuel : Nat} {c d : Cursor} {first : Bool} {members : Members}
    (given : Node.readMembers fuel c first = (members, .ok d)) : MembersSpan c members d := by
  match fuel with
  | 0 => cases given
  | fuel + 1 =>
    simp only [Node.readMembers] at given
    split at given
    · rename_i brace
      cases given
      exact .close (.mark brace)
    · split at given
      · cases given
      · rename_i key behindKey found
        split at given
        · rename_i colon
          split at given
          · cases given
          · rename_i value behind read
            cases others : Node.readMembers fuel behind false with
            | mk rest done =>
              rw [others] at given
              cases given
              obtain ⟨start, begun, name⟩ := okBound found
              obtain ⟨passed, quote⟩ := keyPasses begun
              refine .member (fun k good => ?_) ((nodeSpans read).before (.mark colon))
                (membersSpan others)
              exact ((Passes.skip c).trans passed).trans (namePasses quote name good)
        · cases given

end

end StudyPlan.Json
