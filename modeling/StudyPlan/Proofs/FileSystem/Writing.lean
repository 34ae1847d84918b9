import StudyPlan.FileSystem.Access
import StudyPlan.Proofs.FileSystem.Path

/-! What saving a text changes. Where the saving succeeds the file is there, and the directories on
the way to it; where it fails some of those directories may be there, and the file with the front
of the text when the writing breaks off. Nothing else is touched. -/
namespace StudyPlan.FileSystem

/- A walk leads along its names to a place that does not depend on the files, if it passes
directories only. -/

inductive Passes (fs : FileSystem) : List String → List String → Prop where
  | done {l : List String} : Passes fs l []
  | step {l rest : List String} {name : String} (there : fs.nodeAt l = some .directory)
      (short : name.utf8ByteSize ≤ 255) (onward : Passes fs (step l name) rest) :
      Passes fs l (name :: rest)

theorem walked {fs : FileSystem} {l names m : List String} :
    fs.walk l names = .ok m ↔ Passes fs l names ∧ names.foldl step l = m := by
  induction names generalizing l with
  | nil =>
    simp only [walk, Except.ok.injEq, List.foldl_nil]
    exact ⟨fun same => ⟨.done, same⟩, fun ⟨_, same⟩ => same⟩
  | cons name rest ih =>
    rw [walk]
    constructor
    · intro walks
      split at walks <;> try contradiction
      rename_i there
      split at walks
      · contradiction
      · rename_i short
        obtain ⟨onward, leads⟩ := ih.mp walks
        exact ⟨.step there (Nat.le_of_not_lt short) onward, leads⟩
    · rintro ⟨passes, leads⟩
      cases passes with
      | step there short onward =>
        simp only [there, if_neg (Nat.not_lt.mpr short)]
        exact ih.mpr ⟨onward, leads⟩

theorem Passes.kept {fs fs' : FileSystem} {l names : List String} (passes : Passes fs l names)
    (kept : ∀ l, fs.nodeAt l = some .directory → fs'.nodeAt l = some .directory) :
    Passes fs' l names := by
  induction passes with
  | done => exact .done
  | step there short onward ih => exact .step (kept _ there) short ih

theorem dotsStay (l names : List String) :
    (names.filter (· != ".")).foldl step l = names.foldl step l := by
  induction names generalizing l with
  | nil => rfl
  | cons name rest ih =>
    by_cases dot : name = "."
    · simp [dot, step, ih]
    · simp [dot, ih]

theorem Passes.before {fs : FileSystem} {l names before after : List String}
    (passes : Passes fs l names) (some : after ≠ [])
    (steps : names.filter (· != ".") = before ++ after) :
    fs.nodeAt (before.foldl FileSystem.step l) = .some .directory := by
  induction passes generalizing before with
  | done =>
    cases before with
    | nil => exact absurd steps.symm some
    | cons => contradiction
  | @step l rest name there short onward ih =>
    by_cases dot : name = "."
    · simp only [dot, FileSystem.step, if_true] at ih
      exact ih (by simpa [dot] using steps)
    · cases before with
      | nil => exact there
      | cons first before =>
        simp only [List.filter_cons, bne_iff_ne, ne_eq, dot, not_false_eq_true, if_true,
          List.cons_append, List.cons.injEq] at steps
        rw [List.foldl_cons, ← steps.1]
        exact ih steps.2

structure Grown (way : List String → Prop) (fs fs' : FileSystem) : Prop where
  working : fs'.workingDirectory = fs.workingDirectory
  refusals : fs'.refusals = fs.refusals
  nodes : ∀ l, fs'.nodeAt l = fs.nodeAt l ∨
    fs.nodeAt l = none ∧ fs'.nodeAt l = some .directory ∧ way l

namespace Grown
variable {way way' : List String → Prop} {fs fs' fs'' : FileSystem}

theorem refl : Grown way fs fs := ⟨rfl, rfl, fun _ => .inl rfl⟩

theorem trans (first : Grown way fs fs') (second : Grown way fs' fs'') : Grown way fs fs'' := by
  refine ⟨second.working.trans first.working, second.refusals.trans first.refusals, fun l => ?_⟩
  rcases second.nodes l with same | ⟨free, made, along⟩
  · rw [same]
    exact first.nodes l
  · rcases first.nodes l with same | ⟨_, made', _⟩
    · exact .inr ⟨same ▸ free, made, along⟩
    · rw [made'] at free
      contradiction

theorem along (grown : Grown way fs fs') (wider : ∀ l, way l → way' l) : Grown way' fs fs' :=
  ⟨grown.working, grown.refusals, fun l => (grown.nodes l).imp_right fun ⟨free, made, inside⟩ =>
    ⟨free, made, wider l inside⟩⟩

theorem file (grown : Grown way fs fs') (l : List String) (content : List UInt8) :
    fs'.nodeAt l = some (.file content) ↔ fs.nodeAt l = some (.file content) := by
  rcases grown.nodes l with same | ⟨free, made, _⟩
  · rw [same]
  · simp [free, made]

end Grown

theorem putNode {location : List String} (inside : location ≠ []) (fs : FileSystem)
    (node : FileNode) (l : List String) :
    (fs.put location node).nodeAt l = if l = location then some node else fs.nodeAt l := by
  by_cases here : l = location
  · simp [nodeAt, put, here, inside]
  · simp [nodeAt, put, here]

theorem insideOf {fs : FileSystem} {location : List String}
    (other : fs.nodeAt location ≠ some .directory) : location ≠ [] := by
  rintro rfl
  exact other rfl

def Along (start steps l : List String) : Prop :=
  ∃ before after, steps = before ++ after ∧ before.foldl step start = l

theorem directoryGrown {fs made : FileSystem} {start steps : List String}
    (makes : fs.makeDirectory start steps = .ok made) : Grown (Along start steps) fs made := by
  unfold makeDirectory at makes
  cases walks : fs.walk start steps with
  | error problem => simp [walks, bind, Except.bind] at makes
  | ok location =>
    simp only [walks, bind, Except.bind] at makes
    split at makes <;> try contradiction
    · rename_i free _
      cases makes
      have other : fs.nodeAt location ≠ some .directory := by simp [free]
      have inside := insideOf other
      refine ⟨rfl, rfl, fun l => ?_⟩
      rw [putNode inside]
      split
      · rename_i here
        rw [here]
        exact .inr ⟨free, rfl, steps, [], by simp, (walked.mp walks).2⟩
      · exact .inl rfl

theorem settledGrown {way : List String → Prop} {fs : FileSystem}
    {attempt : Except FileProblem FileSystem} (start steps : List String)
    (grown : ∀ made, attempt = .ok made → Grown way fs made) :
    Grown way fs (fs.settle start steps attempt).2 := by
  cases attempt with
  | ok made => exact grown made rfl
  | error problem => exact .refl

theorem directoriesGrown (fs : FileSystem) (start reversed : List String) :
    Grown (Along start reversed.reverse) fs (fs.makeDirectoriesFrom start reversed).2 := by
  induction reversed generalizing fs with
  | nil => exact .refl
  | cons name before ih =>
    have last (fs' : FileSystem) : Grown (Along start (name :: before).reverse) fs'
        (fs'.settle start (name :: before).reverse
          (fs'.makeDirectory start (name :: before).reverse)).2 :=
      settledGrown _ _ fun _ => directoryGrown
    -- what is made on the way to the directory is made on a part of the way
    have shorter : ∀ l, Along start before.reverse l → Along start (name :: before).reverse l := by
      rintro l ⟨first, after, steps, leads⟩
      exact ⟨first, after ++ [name], by simp [steps], leads⟩
    have earlier := (ih fs).along shorter
    rw [makeDirectoriesFrom]
    split
    · rcases made : fs.makeDirectoriesFrom start before with ⟨result, fs'⟩
      rw [made] at earlier
      cases result with
      | error problem => exact earlier
      | ok _ => exact earlier.trans (last fs')
    · exact last fs

def place (fs : FileSystem) (path : String) : List String :=
  (Path.steps path).foldl step (fs.origin path)

def OnWay (fs : FileSystem) (path : String) (l : List String) : Prop :=
  ∃ before after, Path.steps path = before ++ after ∧ after ≠ [] ∧
    before.foldl step (fs.origin path) = l

theorem parentGrown (fs : FileSystem) (path : String) : Grown (fs.OnWay path) fs
    (fs.makeDirectories ((Path.parent? path).getD "")).2 := by
  cases parent : Path.parent? path with
  | none => exact .refl
  | some directory =>
    have steps := Path.parentSteps parent
    have start : fs.origin directory = fs.origin path := by
      unfold origin
      rw [Path.parentAbsolute parent]
    have grown := fs.directoriesGrown (fs.origin path) (Path.steps path).dropLast.reverse
    rw [List.reverse_reverse] at grown
    show Grown _ fs (fs.makeDirectories directory).2
    unfold makeDirectories
    split
    · exact .refl
    · cases checkPath directory with
      | error problem => exact .refl
      | ok _ =>
        simp only [steps, start]
        cases last : (Path.steps path).getLast? with
        | none =>
          rw [List.getLast?_eq_none_iff.mp last]
          exact .refl
        | some name =>
          refine grown.along ?_
          rintro l ⟨before, after, spelt, leads⟩
          refine ⟨before, after ++ [name], ?_, by simp, leads⟩
          rw [← List.append_assoc, ← spelt]
          exact (List.dropLast_append_getLast? name last).symm

/- Where a file may be written there is no directory, and none of the places that are passed on the
way is that place. -/
structure Target (fs : FileSystem) (path : String) (location : List String) : Prop where
  named : checkPath path = .ok ()
  passes : Passes fs (fs.origin path) (Path.components path)
  leads : fs.place path = location
  free : fs.nodeAt location ≠ some .directory
  unslashed : Path.endsInSlash path = false

theorem targetFound {fs : FileSystem} {path : String} {location : List String}
    (found : fs.target path = .ok location) : fs.Target path location := by
  unfold target at found
  cases named : checkPath path with
  | error problem => simp [named, bind, Except.bind] at found
  | ok _ =>
    cases walks : fs.walk (fs.origin path) (Path.components path) with
    | error problem => simp [named, walks, bind, Except.bind] at found
    | ok l =>
      simp only [named, walks, bind, Except.bind] at found
      split at found
      · contradiction
      · rename_i good
        cases found
        simp only [Bool.or_eq_true, decide_eq_true_eq, not_or] at good
        obtain ⟨passes, leads⟩ := walked.mp walks
        exact ⟨named, passes, (dotsStay _ _).trans leads, good.1, by simpa using good.2⟩

theorem Target.wayPassed {fs : FileSystem} {path : String} {location l : List String}
    (target : fs.Target path location) (way : fs.OnWay path l) : fs.nodeAt l = some .directory := by
  obtain ⟨before, after, steps, more, rfl⟩ := way
  exact target.passes.before more steps

theorem Target.lookupPut {fs : FileSystem} {path : String} {location : List String}
    (target : fs.Target path location) (content : List UInt8) :
    (fs.put location (.file content)).lookup path = .ok (.file content) := by
  have inside := insideOf target.free
  have passes : Passes (fs.put location (.file content)) (fs.origin path)
      (Path.components path) := by
    refine target.passes.kept fun l directory => ?_
    rw [putNode inside, if_neg ?_]
    · exact directory
    · rintro rfl
      exact target.free directory
  have walks : (fs.put location (.file content)).walk (fs.origin path) (Path.components path) =
      .ok location := walked.mpr ⟨passes, (dotsStay _ _).symm.trans target.leads⟩
  have start : (fs.put location (.file content)).origin path = fs.origin path := rfl
  have located : (fs.put location (.file content)).locate path = .ok location := by
    simp [locate, target.named, target.unslashed, start, walks, bind, Except.bind]
  simp [lookup, located, putNode inside, bind, Except.bind, pure, Except.pure]

structure Saved (fs fs' : FileSystem) (path : String) (content : List UInt8) : Prop where
  working : fs'.workingDirectory = fs.workingDirectory
  refusals : fs'.refusals = fs.refusals
  held : fs'.lookup path = .ok (.file content)
  here : fs'.nodeAt (fs.place path) = some (.file content)
  way : ∀ l, fs.OnWay path l → fs'.nodeAt l = some .directory
  others : ∀ l, l ≠ fs.place path → fs'.nodeAt l = fs.nodeAt l ∨
    fs.nodeAt l = none ∧ fs'.nodeAt l = some .directory ∧ fs.OnWay path l

theorem Grown.starts {way : List String → Prop} {fs made : FileSystem}
    (grown : Grown way fs made) (path : String) : made.origin path = fs.origin path := by
  unfold origin
  rw [grown.working]

theorem Grown.place {way : List String → Prop} {fs made : FileSystem} (grown : Grown way fs made)
    (path : String) : made.place path = fs.place path := by
  unfold FileSystem.place
  rw [grown.starts]

theorem putSaved {fs made : FileSystem} {path : String} {location : List String}
    (grown : Grown (fs.OnWay path) fs made) (target : made.Target path location)
    (content : List UInt8) : fs.Saved (made.put location (.file content)) path content := by
  have inside := insideOf target.free
  have leads : fs.place path = location := (grown.place path).symm.trans target.leads
  have way : ∀ l, fs.OnWay path l → made.nodeAt l = some .directory := by
    rintro l ⟨before, after, steps, more, leads⟩
    exact target.wayPassed ⟨before, after, steps, more, by rw [grown.starts, leads]⟩
  refine ⟨grown.working, grown.refusals, target.lookupPut _, ?_, ?_, ?_⟩
  · rw [putNode inside, if_pos leads]
  · intro l along
    rw [putNode inside, if_neg ?_]
    · exact way l along
    · rintro rfl
      exact target.free (way l along)
  · intro l other
    rw [putNode inside, if_neg fun same => other (same.trans leads.symm)]
    exact grown.nodes l

inductive SaveEnds (fs : FileSystem) (path text : String) :
    Except FileProblem Unit → FileSystem → Prop where
  | kept {fs' : FileSystem} (saved : fs.Saved fs' path (Text.toBytes text)) :
      SaveEnds fs path text (.ok ()) fs'
  | refused {fs' : FileSystem} {problem : FileProblem} (grown : Grown (fs.OnWay path) fs fs') :
      SaveEnds fs path text (.error problem) fs'
  | brokenOff {fs' : FileSystem} {problem : FileProblem} {taken : Nat}
      (breaks : fs.refusals.writing (fs.place path) (Text.toBytes text) = some (taken, problem))
      (saved : fs.Saved fs' path ((Text.toBytes text).take taken)) :
      SaveEnds fs path text (.error problem) fs'

theorem writeEnds {fs made : FileSystem} {path : String} (grown : Grown (fs.OnWay path) fs made)
    (text : String) :
    SaveEnds fs path text (made.writeText path text).1 (made.writeText path text).2 := by
  unfold writeText
  cases found : made.target path with
  | error problem => exact .refused grown
  | ok location =>
    have target := targetFound found
    have leads : fs.place path = location := (grown.place path).symm.trans target.leads
    dsimp only
    cases made.refusals.opening location with
    | some problem => exact .refused grown
    | none =>
      dsimp only [fill]
      cases breaks : made.refusals.writing location (Text.toBytes text) with
      | none => exact .kept (putSaved grown target _)
      | some stop =>
        obtain ⟨taken, problem⟩ := stop
        rw [grown.refusals, ← leads] at breaks
        exact .brokenOff breaks (putSaved grown target _)

theorem saveEnds (fs : FileSystem) (path text : String) : ∃ result fs',
    (FileAccess.save path text : StateM FileSystem (Except FileProblem Unit)) fs = (result, fs') ∧
      SaveEnds fs path text result fs' := by
  have grown := fs.parentGrown path
  rcases made : fs.makeDirectories ((Path.parent? path).getD "") with ⟨result, fs'⟩
  rw [made] at grown
  have makes : (FileAccess.makeDirectories ((Path.parent? path).getD "") :
      StateM FileSystem (Except FileProblem Unit)) fs = (result, fs') := made
  simp only [FileAccess.save, bind, StateT.bind, makes]
  cases result with
  | error problem => exact ⟨_, _, rfl, .refused grown⟩
  | ok _ => exact ⟨_, _, rfl, writeEnds grown text⟩

end StudyPlan.FileSystem
