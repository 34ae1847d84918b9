import Mathlib.Data.List.Basic
import StudyPlan.FileSystem.Basic

/-! The steps of a path, and of the path that it is in: they are the same but for the last one, and
are taken from the same place. -/
namespace StudyPlan.Path

theorem segmentsPlain (path : List Char) : ∀ segment ∈ segments path, '/' ∉ segment := by
  induction path with
  | nil => simp [segments]
  | cons c rest ih =>
    rw [segments]
    split
    · simpa using ih
    · rename_i other
      split
      · simpa using Ne.symm other
      · rename_i first others split
        rw [split] at ih
        simpa [Ne.symm other] using ih

theorem segmentsAlone {name : List Char} (plain : '/' ∉ name) : segments name = [name] := by
  induction name with
  | nil => rfl
  | cons c rest ih =>
    simp only [List.mem_cons, not_or] at plain
    rw [segments, if_neg (Ne.symm plain.1), ih plain.2]

theorem segmentsFirst {name : List Char} (plain : '/' ∉ name) (rest : List Char) :
    segments (name ++ '/' :: rest) = name :: segments rest := by
  induction name with
  | nil => rfl
  | cons c more ih =>
    simp only [List.mem_cons, not_or] at plain
    rw [List.cons_append, segments, if_neg (Ne.symm plain.1), ih plain.2]

theorem segmentsPresent (path : List Char) : segments path ≠ [] := by
  cases path with
  | nil => simp [segments]
  | cons c rest =>
    rw [segments]
    split
    · simp
    · split <;> simp

theorem segmentsParted (front back : List Char) :
    segments (front ++ '/' :: back) = segments front ++ segments back := by
  induction front with
  | nil => simp [segments]
  | cons c rest ih =>
    rw [List.cons_append, segments, segments, ih]
    split
    · rfl
    · cases parts : segments rest with
      | nil => exact absurd parts (segmentsPresent rest)
      | cons first others => rfl

theorem segmentsJoined {names : List String} (present : names ≠ [])
    (plain : ∀ name ∈ names, '/' ∉ name.toList) :
    segments ("/".intercalate names).toList = names.map String.toList := by
  induction names with
  | nil => contradiction
  | cons name rest ih =>
    have first := plain name (by simp)
    cases rest with
    | nil => simpa using segmentsAlone first
    | cons next others =>
      have later := ih (by simp) fun name member => plain name (by simp [member])
      have spelt : ("/".intercalate (name :: next :: others)).toList =
          name.toList ++ '/' :: ("/".intercalate (next :: others)).toList := by
        rw [String.intercalate_cons_cons]
        simp
      rw [spelt, segmentsFirst first, later]
      rfl

structure Name (name : String) : Prop where
  plain : '/' ∉ name.toList
  present : name ≠ ""

theorem componentsNames (path : String) : ∀ name ∈ components path, Name name := by
  intro name member
  unfold components at member
  obtain ⟨inside, present⟩ := List.mem_filter.mp member
  obtain ⟨segment, among, rfl⟩ := List.mem_map.mp inside
  exact ⟨by simpa using segmentsPlain _ segment among, by simpa using present⟩

theorem componentsJoined {names : List String} (all : ∀ name ∈ names, Name name) :
    components ("/".intercalate names) = names := by
  cases names with
  | nil => rfl
  | cons name rest =>
    have joined := segmentsJoined (by simp) fun name member => (all name member).plain
    unfold components
    rw [joined, List.map_map]
    have same : String.ofList ∘ String.toList = id := by
      funext s
      simp
    rw [same, List.map_id]
    exact List.filter_eq_self.mpr fun name member => by simpa using (all name member).present

theorem componentsBelow (text : String) : components ("/" ++ text) = components text := by
  unfold components
  have below : segments ("/" ++ text).toList = [] :: segments text.toList := by simp [segments]
  rw [below]
  rfl

theorem componentsParted (front : String) {name : String} (plain : Name name) :
    components (front ++ "/" ++ name) = components front ++ [name] := by
  have spelt : (front ++ "/" ++ name).toList = front.toList ++ '/' :: name.toList := by simp
  unfold components
  rw [spelt, segmentsParted, segmentsAlone plain.plain, List.map_append, List.filter_append]
  simp [plain.present]

theorem stepsNames (path : String) : ∀ step ∈ steps path, Name step ∧ step ≠ "." := by
  intro step member
  obtain ⟨inside, moves⟩ := List.mem_filter.mp member
  exact ⟨componentsNames path step inside, by simpa using moves⟩

theorem stepsBelow (text : String) : steps ("/" ++ text) = steps text := by
  unfold steps
  rw [componentsBelow]

theorem stepsJoined {names : List String} (all : ∀ name ∈ names, Name name ∧ name ≠ ".") :
    steps ("/".intercalate names) = names := by
  unfold steps
  rw [componentsJoined fun name member => (all name member).1]
  exact List.filter_eq_self.mpr fun name member => by simpa using (all name member).2

theorem fileNameIn (directory : String) {name : String} (plain : Name name) (moves : name ≠ ".")
    (inside : name ≠ "..") : fileName? (directory ++ "/" ++ name) = some name := by
  have last : steps (directory ++ "/" ++ name) = steps directory ++ [name] := by
    simp [steps, componentsParted directory plain, moves]
  simp [fileName?, last, inside]

theorem joinedRelative {names : List String} (all : ∀ name ∈ names, Name name) :
    isAbsolute ("/".intercalate names) = false := by
  cases names with
  | nil => rfl
  | cons name rest =>
    have joined := segmentsJoined (by simp) fun name member => (all name member).plain
    -- the first segment would be blank
    cases text : ("/".intercalate (name :: rest)).toList with
    | nil => simp [isAbsolute, text]
    | cons c more =>
      by_cases slash : c = '/'
      · rw [text, slash, segments, if_pos rfl] at joined
        have blank : name = "" := by simpa using (List.cons.inj joined).1.symm
        exact absurd blank (all name (by simp)).present
      · simp [isAbsolute, text, slash]

theorem parentSteps {path directory : String} (parent : parent? path = some directory) :
    steps directory = (steps path).dropLast := by
  have joined : steps ("/".intercalate (steps path).dropLast) = (steps path).dropLast :=
    stepsJoined fun name member => stepsNames path name (List.dropLast_subset _ member)
  simp only [parent?] at parent
  split at parent
  · split at parent
    · cases parent
    · cases parent
      rw [stepsBelow, joined]
  · cases parent
    exact joined

theorem parentAbsolute {path directory : String} (parent : parent? path = some directory) :
    isAbsolute directory = isAbsolute path := by
  have relative : isAbsolute ("/".intercalate (steps path).dropLast) = false :=
    joinedRelative fun name member => (stepsNames path name (List.dropLast_subset _ member)).1
  simp only [parent?] at parent
  split at parent
  · rename_i absolute
    split at parent
    · cases parent
    · cases parent
      rw [absolute]
      simp [isAbsolute]
  · rename_i absolute
    cases parent
    rw [relative]
    simpa using absolute

end StudyPlan.Path

namespace StudyPlan.FileSystem

theorem pathChecked {path : String}
    (good : '\x00' ∉ path.toList ∧ path ≠ "" ∧ path.utf8ByteSize ≤ 4095) :
    checkPath path = .ok () := by
  obtain ⟨plain, present, short⟩ := good
  have free : path.contains '\x00' = false := by simpa using plain
  have named : path.isEmpty = false := by simpa [String.isEmpty_iff] using present
  have fits : ¬ 4095 < path.utf8ByteSize := by omega
  simp only [checkPath, free, named, fits]
  rfl

end StudyPlan.FileSystem
