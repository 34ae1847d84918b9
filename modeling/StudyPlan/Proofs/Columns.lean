import Mathlib.Data.List.DropRight
import Mathlib.Data.List.Forall2
import StudyPlan.Report.Writer

/-! Tables as people see them: a line of headers, a line of dashes and a line for each row, with
the cells below each other. A column is as wide as the bytes of its header and the characters of
its cells ask for, which is more than the longest of its texts when a header needs more bytes
than any of them has characters. -/
namespace StudyPlan

theorem lengthInBytes (s : String) : s.length ≤ s.utf8ByteSize := by
  suffices ∀ chars : List Char, chars.length ≤ (String.ofList chars).utf8ByteSize by
    simpa only [String.length_toList, String.ofList_toList] using this s.toList
  intro chars
  induction chars with
  | nil => exact Nat.zero_le _
  | cons c rest ih =>
    have least := c.utf8Size_pos
    rw [String.ofList_cons, String.utf8ByteSize_append, String.utf8ByteSize_singleton,
      List.length_cons]
    omega

def Unbroken (lines : List String) : Prop := ∀ line ∈ lines, '\n' ∉ line.toList

theorem linesSpelt (line : String) (lines : List String) :
    (textLines (line :: lines)).toList = line.toList ++ '\n' :: (textLines lines).toList := by
  simp [textLines]

theorem lineTaken {line : String} (unbroken : '\n' ∉ line.toList) (lines : List String) :
    (textLines (line :: lines)).toList.takeWhile (· != '\n') = line.toList := by
  have passed : ∀ c ∈ line.toList, (c != '\n') = true := by
    intro c member
    exact bne_iff_ne.mpr fun same => unbroken (same ▸ member)
  rw [linesSpelt, List.takeWhile_append_of_pos passed]
  simp

theorem linesNone {lines : List String} (empty : (textLines lines).toList = []) : lines = [] := by
  cases lines with
  | nil => rfl
  | cons line lines => simp [linesSpelt] at empty

theorem linesUnique {lines others : List String} (unbroken : Unbroken lines)
    (unbrokenOthers : Unbroken others) (same : textLines lines = textLines others) :
    lines = others := by
  induction lines generalizing others with
  | nil => exact (linesNone (congrArg String.toList same.symm)).symm
  | cons line lines ih =>
    cases others with
    | nil => exact linesNone (congrArg String.toList same)
    | cons other others =>
      obtain ⟨solid, solidLines⟩ := List.forall_mem_cons.mp unbroken
      obtain ⟨solidOther, solidOthers⟩ := List.forall_mem_cons.mp unbrokenOthers
      have first : line = other := by
        rw [← String.toList_inj, ← lineTaken solid lines, same, lineTaken solidOther]
      subst first
      have spelt := congrArg String.toList same
      rw [linesSpelt, linesSpelt, List.append_cancel_left_eq, List.cons.injEq,
        String.toList_inj] at spelt
      rw [ih solidLines solidOthers spelt.2]

theorem Text.trimmedBlanks (p : Char → Bool) (s : String) :
    (trimEnd p s).toList ++ s.toList.rtakeWhile p = s.toList := by
  rw [trimEnd, String.toList_ofList]
  exact List.rdropWhile_append_rtakeWhile

theorem Text.trimmedEnd {p : Char → Bool} {s : String} {c : Char}
    (last : (trimEnd p s).toList.getLast? = some c) : p c = false := by
  rw [trimEnd, String.toList_ofList, List.getLast?_reverse] at last
  have solid := List.head?_dropWhile_not p s.toList.reverse
  rwa [last] at solid

namespace Table

def start : List Nat → Nat → Nat
  | w :: widths, i + 1 => w + 3 + start widths i
  | _, _ => 0

@[simp]
theorem startFirst (widths : List Nat) : start widths 0 = 0 := by cases widths <;> rfl

theorem startNext {widths : List Nat} {i w : Nat} (column : widths[i]? = some w) :
    start widths (i + 1) = start widths i + w + 3 := by
  induction i generalizing widths with
  | zero =>
    cases widths with
    | nil => simp at column
    | cons v widths => simp_all [start]
  | succ i ih =>
    cases widths with
    | nil => simp at column
    | cons v widths =>
      have further : widths[i]? = some w := by simpa using column
      simp only [start, ih further]
      omega

def bar (widths : List Nat) (i : Nat) : Nat := start widths (i + 1) - 2

theorem barBehind {widths : List Nat} {i w : Nat} (column : widths[i]? = some w) :
    bar widths i = start widths i + w + 1 := by
  rw [bar, startNext column]
  omega

theorem barNext {w i : Nat} {widths : List Nat} (inside : i < widths.length) :
    bar (w :: widths) (i + 1) = w + 3 + bar widths i := by
  have next := startNext (List.getElem?_eq_getElem inside)
  simp only [bar, start, next]
  omega

theorem barFirst (w : Nat) (widths : List Nat) : bar (w :: widths) 0 = w + 1 := by
  simp [bar, start]

/-- From its place on, the text is a part and what parts it from more, or the part alone. -/
def Stands (text : List Char) (place : Nat) (part parting : List Char) (more : Prop) : Prop :=
  ∃ behind, text.drop place = part ++ behind ∧ (more → parting <+: behind) ∧ (¬ more → behind = [])

/-- A line with the cells of a row in columns of these widths. A cell begins where its column
does, spaces fill the column up, and a bar parts it from the next cell; but the line does not end
in blanks, so that for the columns those that it lacks are put back. -/
structure InColumns (widths : List Nat) (cells : List String) (line : String) : Prop where
  spread : ∃ blanks : List Char, (∀ c ∈ blanks, Text.isBlank c = true) ∧
    ∀ i w cell, widths[i]? = some w → cells[i]? = some cell →
      cell.length ≤ w ∧
        Stands (line.toList ++ blanks) (start widths i)
          (cell.toList ++ List.replicate (w - cell.length) ' ') " │ ".toList (i + 1 < cells.length)
  trimmed : ∀ c, line.toList.getLast? = some c → Text.isBlank c = false
  bars : ∀ i, i < widths.length → i + 1 < cells.length → line.toList[bar widths i]? = some '│'

/-- A line of dashes as long as all columns, with crosses just where bars can stand. -/
structure Ruled (widths : List Nat) (line : String) : Prop where
  long : line.length = start widths widths.length - 3
  dashes : ∀ c ∈ line.toList, c = '─' ∨ c = '┼'
  crosses : ∀ k, line.toList[k]? = some '┼' ↔ ∃ i, i + 1 < widths.length ∧ k = bar widths i

def LaidOut (widths : List Nat) (t : Table) : List String → Prop
  | header :: separator :: rows =>
    InColumns widths t.headers header ∧ Ruled widths separator ∧
      List.Forall₂ (InColumns widths) t.rows rows
  | _ => False

def Draws (widths : List Nat) (t : Table) (text : String) : Prop :=
  ∃ lines, text = textLines lines ∧ Unbroken lines ∧ LaidOut widths t lines

def longest (t : Table) (i : Nat) : Nat :=
  ((t.headers :: t.rows).filterMap (·[i]?)).foldr (fun cell most => max cell.length most) 0

def counted (t : Table) : List Nat := t.headers.mapIdx fun i _ => t.longest i

def measured (t : Table) : List Nat :=
  t.headers.mapIdx fun i header => max header.utf8ByteSize (t.longest i)

theorem widenAt (widths : List Nat) (cells : List String) (i : Nat) :
    (widen widths cells)[i]? =
      widths[i]?.map fun w => cells[i]?.elim w fun cell => max w cell.length := by
  induction widths generalizing cells i with
  | nil => simp [widen]
  | cons w widths ih =>
    cases cells with
    | nil => simp [widen]
    | cons cell cells =>
      cases i with
      | zero => simp [widen]
      | succ i => simpa [widen] using ih cells i

theorem widenedAt (rows : List (List String)) (widths : List Nat) (i : Nat) :
    (rows.foldl widen widths)[i]? = widths[i]?.map fun w =>
      max w ((rows.filterMap (·[i]?)).foldr (fun cell most => max cell.length most) 0) := by
  induction rows generalizing widths with
  | nil => simp
  | cons row rows ih =>
    rw [List.foldl_cons, ih, widenAt, Option.map_map, List.filterMap_cons]
    cases row[i]? with
    | none => rfl
    | some cell => simp [Function.comp_def, Nat.max_assoc]

theorem widthsMeasured (t : Table) : t.widths = t.measured := by
  refine List.ext_getElem? fun i => ?_
  rw [widths, widenedAt, measured, List.getElem?_mapIdx, List.getElem?_map]
  cases found : t.headers[i]? with
  | none => rfl
  | some header =>
    have bytes := lengthInBytes header
    simp only [longest, List.filterMap_cons, found, Option.map_some, List.foldr_cons]
    congr 1
    omega

theorem partPlaced {parting : List Char} (three : parting.length = 3) {widths : List Nat}
    {parts : List (List Char)} {i w : Nat} {part : List Char}
    (sized : ∀ (j v : Nat) (other : List Char), widths[j]? = some v → parts[j]? = some other →
      other.length = v)
    (column : widths[i]? = some w) (here : parts[i]? = some part) :
    Stands (parting.intercalate parts) (start widths i) part parting (i + 1 < parts.length) := by
  induction i generalizing widths parts with
  | zero =>
    cases parts with
    | nil => simp at here
    | cons first rest =>
      obtain rfl : first = part := by simpa using here
      cases rest with
      | nil => exact ⟨[], by simp, by simp, by simp⟩
      | cons second rest =>
        exact ⟨parting ++ parting.intercalate (second :: rest),
          by simp [List.intercalate_cons_cons], by simp, by simp⟩
  | succ i ih =>
    cases widths with
    | nil => simp at column
    | cons v widths =>
      cases parts with
      | nil => simp at here
      | cons first rest =>
        have others : rest ≠ [] := by
          intro empty
          simp [empty] at here
        have ahead : (first ++ parting).length = v + 3 := by
          rw [List.length_append, three, sized 0 v first rfl rfl]
        have placed := ih (fun j => sized (j + 1)) column here
        rw [List.length_cons, Nat.add_lt_add_iff_right, List.intercalate_cons_of_ne_nil others]
        rwa [Stands, start, ← List.drop_drop, ← ahead, List.drop_left]

theorem paddedLength (widths : List Nat) (cells : List String) :
    (padded widths cells).length = cells.length := by
  induction widths generalizing cells with
  | nil => cases cells <;> rfl
  | cons w widths ih => cases cells <;> simp [padded, ih]

theorem paddedAt {widths : List Nat} {cells : List String} {i w : Nat} {cell : String}
    (column : widths[i]? = some w) (here : cells[i]? = some cell) :
    (padded widths cells)[i]? = some (pad w cell) := by
  induction i generalizing widths cells with
  | zero => cases widths <;> cases cells <;> simp_all [padded]
  | succ i ih => cases widths <;> cases cells <;> simp_all [padded]

theorem padSpelt (w : Nat) (cell : String) :
    (pad w cell).toList = cell.toList ++ List.replicate (w - cell.length) ' ' := by
  simp [pad]

theorem padLength {w : Nat} {cell : String} (fit : cell.length ≤ w) :
    (pad w cell).toList.length = w := by
  rw [padSpelt, List.length_append, String.length_toList, List.length_replicate]
  omega

def Fits (widths : List Nat) (cells : List String) : Prop :=
  ∀ (i w : Nat) (cell : String), widths[i]? = some w → cells[i]? = some cell → cell.length ≤ w

variable {widths : List Nat} {cells : List String} {i w : Nat} {cell : String}

theorem paddedSized (fits : Fits widths cells) (j v : Nat) (part : List Char)
    (column : widths[j]? = some v)
    (here : ((padded widths cells).map String.toList)[j]? = some part) : part.length = v := by
  rw [List.getElem?_map] at here
  obtain ⟨text, found, rfl⟩ := Option.map_eq_some_iff.mp here
  have inside := (List.getElem?_eq_some_iff.mp found).1
  rw [paddedLength] at inside
  have given := List.getElem?_eq_getElem inside
  obtain rfl := Option.some.inj ((paddedAt column given).symm.trans found)
  exact padLength (fits j v _ column given)

theorem cellPlaced (fits : Fits widths cells) (column : widths[i]? = some w)
    (here : cells[i]? = some cell) :
    Stands (" │ ".intercalate (padded widths cells)).toList (start widths i) (pad w cell).toList
      " │ ".toList (i + 1 < cells.length) := by
  have placed := partPlaced (by simp : " │ ".toList.length = 3) (paddedSized fits) column
    (by rw [List.getElem?_map, paddedAt column here, Option.map_some])
  rwa [List.length_map, paddedLength, ← String.toList_intercalate] at placed

theorem barPlaced (fits : Fits widths cells) (inside : i < widths.length)
    (more : i + 1 < cells.length) :
    (" │ ".intercalate (padded widths cells)).toList[bar widths i]? = some '│' := by
  have column := List.getElem?_eq_getElem inside
  have here := List.getElem?_eq_getElem (Nat.lt_of_succ_lt more)
  have wide := padLength (fits i _ _ column here)
  obtain ⟨behind, placed, parted, -⟩ := cellPlaced fits column here
  obtain ⟨rest, rfl⟩ := parted more
  rw [barBehind column, Nat.add_assoc, ← List.getElem?_drop, placed,
    List.getElem?_append_right (by omega), wide, Nat.add_sub_cancel_left]
  rfl

theorem lineInColumns (fits : Fits widths cells) :
    InColumns widths cells (line widths cells) := by
  have full := Text.trimmedBlanks Text.isBlank (" │ ".intercalate (padded widths cells))
  have blank : ∀ c ∈ (" │ ".intercalate (padded widths cells)).toList.rtakeWhile Text.isBlank,
      Text.isBlank c = true := fun c => List.mem_rtakeWhile_imp
  refine ⟨⟨_, blank, ?_⟩, fun c last => Text.trimmedEnd last, ?_⟩
  · intro i w cell column here
    rw [line, full, ← padSpelt]
    exact ⟨fits i w cell column here, cellPlaced fits column here⟩
  · intro i inside more
    have placed := barPlaced fits inside more
    -- The bar is no blank, so that it is not among the characters trimmed.
    rw [← full, List.getElem?_append] at placed
    split at placed
    · exact placed
    · exact absurd (blank '│' (List.mem_of_getElem? placed)) (by decide)

theorem separatorSpelt (w v : Nat) (widths : List Nat) :
    (separator (w :: v :: widths)).toList =
      List.replicate (w + 1) '─' ++ '┼' :: '─' :: (separator (v :: widths)).toList := by
  simp [separator, List.replicate_succ']

theorem startEnd (w : Nat) (widths : List Nat) :
    3 ≤ start (w :: widths) (widths.length + 1) := by
  simp only [start]
  omega

theorem crossed {w v : Nat} {widths : List Nat}
    (crosses : ∀ k, (separator (v :: widths)).toList[k]? = some '┼' ↔
      ∃ i, i + 1 < (v :: widths).length ∧ k = bar (v :: widths) i) (k : Nat) :
    (separator (w :: v :: widths)).toList[k]? = some '┼' ↔
      ∃ i, i + 1 < (w :: v :: widths).length ∧ k = bar (w :: v :: widths) i := by
  rw [separatorSpelt]
  constructor
  · intro here
    by_cases near : k < w + 1
    · rw [List.getElem?_append_left (by simpa using near)] at here
      exact absurd (List.eq_of_mem_replicate (List.mem_of_getElem? here)) (by decide)
    rw [List.getElem?_append_right (by simpa using near), List.length_replicate] at here
    obtain ⟨d, rfl⟩ := Nat.exists_eq_add_of_le (Nat.not_lt.mp near)
    rw [Nat.add_sub_cancel_left] at here
    rcases d with - | - | d
    · exact ⟨0, by simp, by rw [barFirst, Nat.add_zero]⟩
    · simp at here
    · obtain ⟨i, inside, same⟩ := (crosses d).mp (by simpa using here)
      refine ⟨i + 1, by simpa using inside, ?_⟩
      rw [barNext (by omega), ← same]
      omega
  · intro crossing
    obtain ⟨i, inside, rfl⟩ := crossing
    cases i with
    | zero =>
      rw [barFirst, List.getElem?_append_right (by simp)]
      simp
    | succ i =>
      have further : i + 1 < (v :: widths).length := by simpa using inside
      have here := (crosses _).mpr ⟨i, further, rfl⟩
      rw [barNext (by omega), List.getElem?_append_right (by simp; omega), List.length_replicate,
        show w + 3 + bar (v :: widths) i - (w + 1) = bar (v :: widths) i + 1 + 1 by omega]
      simpa using here

theorem separatorRuled (widths : List Nat) : Ruled widths (separator widths) := by
  induction widths with
  | nil => exact ⟨rfl, by simp [separator], by simp [separator]⟩
  | cons w widths ih =>
    cases widths with
    | nil =>
      have dashes : ∀ c ∈ (separator [w]).toList, c = '─' := by
        intro c member
        exact List.eq_of_mem_replicate (by simpa [separator] using member)
      refine ⟨by simp [separator, start], fun c member => .inl (dashes c member), ?_⟩
      intro k
      constructor
      · exact fun here => absurd (dashes _ (List.mem_of_getElem? here)) (by decide)
      · simp
    | cons v widths =>
      have spelt := separatorSpelt w v widths
      refine ⟨?_, ?_, crossed ih.crosses⟩
      · have far := startEnd v widths
        have long := ih.long
        rw [← String.length_toList] at long
        rw [← String.length_toList, spelt]
        simp only [List.length_append, List.length_replicate, List.length_cons, start, long]
          at far ⊢
        omega
      · intro c member
        rw [spelt, List.mem_append, List.mem_cons, List.mem_cons] at member
        rcases member with near | rfl | rfl | beyond
        · exact .inl (List.eq_of_mem_replicate near)
        · exact .inr rfl
        · exact .inl rfl
        · exact ih.dashes c beyond

theorem paddedUnbroken (unbroken : Unbroken cells) : Unbroken (padded widths cells) := by
  induction widths generalizing cells with
  | nil => cases cells <;> simpa [padded] using unbroken
  | cons w widths ih =>
    cases cells with
    | nil => simpa [padded] using unbroken
    | cons cell cells =>
      obtain ⟨first, rest⟩ := List.forall_mem_cons.mp unbroken
      refine List.forall_mem_cons.mpr ⟨?_, ih rest⟩
      rw [padSpelt, List.mem_append]
      intro broken
      rcases broken with inside | behind
      · exact first inside
      · exact absurd (List.eq_of_mem_replicate behind) (by decide)

theorem joinedUnbroken {parting : String} (solid : '\n' ∉ parting.toList) {texts : List String}
    (unbroken : Unbroken texts) : '\n' ∉ (parting.intercalate texts).toList := by
  induction texts with
  | nil => simp
  | cons text texts ih =>
    obtain ⟨first, rest⟩ := List.forall_mem_cons.mp unbroken
    cases texts with
    | nil => simpa using first
    | cons next texts =>
      rw [String.intercalate_cons_cons, String.toList_append, String.toList_append]
      simp only [List.mem_append, not_or]
      exact ⟨⟨first, solid⟩, ih rest⟩

theorem lineUnbroken (unbroken : Unbroken cells) : '\n' ∉ (line widths cells).toList := by
  have whole : '\n' ∉ (" │ ".intercalate (padded widths cells)).toList :=
    joinedUnbroken (by simp) (paddedUnbroken unbroken)
  rw [← Text.trimmedBlanks Text.isBlank, List.mem_append, not_or] at whole
  exact whole.1

theorem withinLongest {t : Table} (row : cells ∈ t.headers :: t.rows)
    (here : cells[i]? = some cell) : cell.length ≤ t.longest i := by
  have member : cell ∈ (t.headers :: t.rows).filterMap (·[i]?) :=
    List.mem_filterMap.mpr ⟨cells, row, here⟩
  rw [longest]
  generalize (t.headers :: t.rows).filterMap (·[i]?) = texts at member ⊢
  induction texts with
  | nil => simp at member
  | cons text texts ih =>
    rw [List.foldr_cons]
    rcases List.mem_cons.mp member with rfl | later
    · exact Nat.le_max_left _ _
    · exact Nat.le_trans (ih later) (Nat.le_max_right _ _)

theorem measuredFits (t : Table) : ∀ cells ∈ t.headers :: t.rows, Fits t.measured cells := by
  intro cells row i w cell column here
  rw [measured, List.getElem?_mapIdx] at column
  obtain ⟨header, -, rfl⟩ := Option.map_eq_some_iff.mp column
  exact Nat.le_trans (withinLongest row here) (Nat.le_max_right _ _)

theorem linesLaidOut (t : Table) : LaidOut t.measured t (t.lines id) := by
  have fits := measuredFits t
  rw [lines, widthsMeasured]
  refine ⟨lineInColumns (fits _ List.mem_cons_self), separatorRuled _, ?_⟩
  rw [List.forall₂_map_right_iff, List.forall₂_same]
  exact fun row member => lineInColumns (fits row (List.mem_cons_of_mem _ member))

theorem linesUnbroken {t : Table} (unbroken : ∀ cells ∈ t.headers :: t.rows, Unbroken cells) :
    Unbroken (t.lines id) := by
  obtain ⟨headers, rows⟩ := List.forall_mem_cons.mp unbroken
  refine List.forall_mem_cons.mpr ⟨lineUnbroken headers, List.forall_mem_cons.mpr ⟨?_, ?_⟩⟩
  · intro broken
    rcases (separatorRuled t.widths).dashes _ broken with dash | cross
    · exact absurd dash (by decide)
    · exact absurd cross (by decide)
  · intro text member
    obtain ⟨row, inside, rfl⟩ := List.mem_map.mp member
    exact lineUnbroken (rows row inside)

theorem plainTable (quiet : Bool) (t : Table) :
    (⟨.human, false, quiet⟩ : Writer).table t = textLines (t.lines id) := rfl

/- At other widths it is not drawn: of two lists of widths, one at most the other, the dashes are
as long as the columns of both only if the lists are the same. -/

theorem startApart {widths wider : List Nat} (atMost : List.Forall₂ (· ≤ ·) widths wider) :
    start widths widths.length ≤ start wider wider.length ∧
      (start widths widths.length = start wider wider.length → widths = wider) := by
  induction atMost with
  | nil => simp
  | cons first rest ih =>
    obtain ⟨most, unique⟩ := ih
    simp only [start, List.length_cons]
    refine ⟨by omega, fun same => ?_⟩
    rw [unique (by omega)]
    congr 1
    omega

theorem ruledApart {widths wider : List Nat} {text : String}
    (atMost : List.Forall₂ (· ≤ ·) widths wider) (ruled : Ruled widths text)
    (ruledWider : Ruled wider text) : widths = wider := by
  cases atMost with
  | nil => rfl
  | cons first rest =>
    have long := ruled.long
    rw [ruledWider.long] at long
    refine (startApart (.cons first rest)).2 ?_
    simp only [start, List.length_cons] at long ⊢
    omega

theorem countedAtMost (t : Table) : List.Forall₂ (· ≤ ·) t.counted t.measured := by
  refine List.forall₂_iff_get.mpr ⟨by simp [counted, measured], ?_⟩
  intro i inside _
  simp only [counted, measured, List.get_eq_getElem, List.getElem_mapIdx]
  exact Nat.le_max_right _ _

theorem countedMeasured (t : Table) : t.counted = t.measured ↔
    ∀ (i : Nat) (inside : i < t.headers.length), t.headers[i].utf8ByteSize ≤ t.longest i := by
  rw [counted, measured, List.mapIdx_eq_mapIdx_iff]
  refine forall₂_congr fun i inside => ?_
  omega

theorem drawnCounted {t : Table} (unbroken : ∀ cells ∈ t.headers :: t.rows, Unbroken cells) :
    Draws t.counted t (textLines (t.lines id)) ↔ t.counted = t.measured := by
  have laid := linesLaidOut t
  constructor
  · intro drawn
    obtain ⟨others, same, solid, laidOthers⟩ := drawn
    rw [← linesUnique (linesUnbroken unbroken) solid same] at laidOthers
    exact ruledApart (countedAtMost t) laidOthers.2.1 laid.2.1
  · intro same
    exact ⟨_, rfl, linesUnbroken unbroken, same ▸ laid⟩

/- The widths measured are those counted in characters just if no header has more bytes than the
longest text of its column has characters. -/
theorem columnsAligned (quiet : Bool) (t : Table)
    (unbroken : ∀ cells ∈ t.headers :: t.rows, Unbroken cells) :
    Draws t.measured t ((⟨.human, false, quiet⟩ : Writer).table t) ∧
      (Draws t.counted t ((⟨.human, false, quiet⟩ : Writer).table t) ↔
        ∀ (i : Nat) (inside : i < t.headers.length), t.headers[i].utf8ByteSize ≤ t.longest i) := by
  rw [plainTable, drawnCounted unbroken, countedMeasured]
  exact ⟨⟨_, rfl, linesUnbroken unbroken, linesLaidOut t⟩, Iff.rfl⟩

def ragged : Table :=
  ⟨["Tag", "Symbol"], [["mac", "été", "1"], ["─"], ["win", "PLATFORM_WIN"]]⟩

theorem raggedAligned :
    (∀ cells ∈ ragged.headers :: ragged.rows, Unbroken cells) ∧
      Draws ragged.counted ragged ((⟨.human, false, false⟩ : Writer).table ragged) := by
  have unbroken : ∀ cells ∈ ragged.headers :: ragged.rows, Unbroken cells := by
    simp [ragged, Unbroken]
  exact ⟨unbroken, (columnsAligned false ragged unbroken).2.mpr (by decide)⟩

def accented : Table := ⟨["é", "x"], [["a", "b"]]⟩

theorem accentedMisaligned :
    (∀ cells ∈ accented.headers :: accented.rows, Unbroken cells) ∧
      ¬ Draws accented.counted accented ((⟨.human, false, false⟩ : Writer).table accented) := by
  have unbroken : ∀ cells ∈ accented.headers :: accented.rows, Unbroken cells := by
    simp [accented, Unbroken]
  refine ⟨unbroken, ?_⟩
  rw [plainTable, drawnCounted unbroken]
  decide

example : (⟨.human, false, false⟩ : Writer).table accented =
    "é  │ x\n───┼──\na  │ b\n" := by
  decide

end Table
end StudyPlan
