import StudyPlan.Proofs.FileSystem.Writing

/-! What files elsewhere do to a path. A path is followed through directories to one place, so that
it leads to the same before and after files have been added, changed or removed at other places. -/
namespace StudyPlan.FileSystem

/- The file systems have the same directories, and but for some places the same files, which can
be read in both or in none. -/
structure SameBut (changed : List String → Prop) (fs fs' : FileSystem) : Prop where
  working : fs'.workingDirectory = fs.workingDirectory
  directories : ∀ l, fs'.nodeAt l = some .directory ↔ fs.nodeAt l = some .directory
  kept : ∀ l, ¬ changed l → fs'.nodeAt l = fs.nodeAt l
  reading : ∀ l, ¬ changed l → fs'.refusals.reading l = fs.refusals.reading l

theorem putBeside {changed : List String → Prop} {fs : FileSystem} {location : List String}
    (other : fs.nodeAt location ≠ some .directory) (inside : changed location)
    (content : List UInt8) : SameBut changed fs (fs.put location (.file content)) where
  working := rfl
  directories := by
    intro l
    rw [putNode (insideOf other)]
    split
    · rename_i here
      simpa [here] using other
    · rfl
  kept := by
    intro l apart
    rw [putNode (insideOf other), if_neg]
    rintro rfl
    exact apart inside
  reading _ _ := rfl

theorem locatedWalk {fs : FileSystem} {path : String} {location : List String} :
    fs.locate path = .ok location ↔ checkPath path = .ok () ∧ fs.walk (fs.origin path)
      (Path.components path ++ if Path.endsInSlash path then ["."] else []) = .ok location := by
  unfold locate
  cases checkPath path <;> simp [bind, Except.bind]

theorem locatedPlace {fs : FileSystem} {path : String} {location : List String} :
    fs.locate path = .ok location ↔ checkPath path = .ok () ∧
      Passes fs (fs.origin path)
        (Path.components path ++ if Path.endsInSlash path then ["."] else []) ∧
      fs.place path = location := by
  have leads : (Path.components path ++ if Path.endsInSlash path then ["."] else []).foldl step
      (fs.origin path) = fs.place path := by
    rw [← dotsStay, List.filter_append, List.foldl_append]
    cases Path.endsInSlash path <;> rfl
  rw [locatedWalk, walked, leads]

theorem placeNamed (fs : FileSystem) {path name : String}
    (named : Path.fileName? path = some name) : (fs.place path).getLast? = some name := by
  unfold Path.fileName? at named
  split at named
  · rename_i last found
    split at named
    · contradiction
    · rename_i inside
      cases Option.some.inj named
      have moves := (Path.stepsNames path _ (List.mem_of_getLast? found)).2
      obtain ⟨front, steps⟩ := List.getLast?_eq_some_iff.mp found
      rw [place, steps, List.foldl_append]
      simp [step, moves, inside]
  · contradiction

theorem lookedUp {fs : FileSystem} {path : String} {node : FileNode} :
    fs.lookup path = .ok node ↔
      ∃ location, fs.locate path = .ok location ∧ fs.nodeAt location = some node := by
  unfold lookup
  cases located : fs.locate path with
  | error problem => simp [bind, Except.bind]
  | ok location =>
    cases here : fs.nodeAt location <;>
      simp [here, bind, Except.bind, pure, Except.pure, throw, throwThe, MonadExceptOf.throw]

theorem readPlace {fs : FileSystem} {path : String} {node : FileNode}
    (found : fs.lookup path = .ok node) : fs.readText path = fs.readNode (fs.place path) node := by
  obtain ⟨location, leads, here⟩ := lookedUp.mp found
  rw [(locatedPlace.mp leads).2.2]
  simp only [readText, leads, bind, Except.bind, here]

theorem lookupAt {fs : FileSystem} {path : String} {location : List String} {node : FileNode}
    (named : checkPath path = .ok ()) (walks : fs.walk (fs.origin path)
      (Path.components path ++ if Path.endsInSlash path then ["."] else []) = .ok location)
    (there : fs.nodeAt location = some node) : fs.lookup path = .ok node :=
  lookedUp.mpr ⟨location, locatedWalk.mpr ⟨named, walks⟩, there⟩

theorem readAt {fs : FileSystem} {path : String} {location : List String} {node : FileNode}
    (named : checkPath path = .ok ()) (walks : fs.walk (fs.origin path)
      (Path.components path ++ if Path.endsInSlash path then ["."] else []) = .ok location)
    (there : fs.nodeAt location = some node) (allowed : fs.refusals.reading location = none) :
    fs.readText path = node.text := by
  have leads := locatedWalk.mpr ⟨named, walks⟩
  rw [readPlace (lookupAt named walks there), (locatedPlace.mp leads).2.2, readNode, allowed]

namespace SameBut
variable {changed : List String → Prop} {fs fs' : FileSystem} (same : SameBut changed fs fs')
include same

theorem passes {l names : List String} : Passes fs' l names ↔ Passes fs l names :=
  ⟨fun passes => passes.kept fun l => (same.directories l).mp,
    fun passes => passes.kept fun l => (same.directories l).mpr⟩

theorem starts (path : String) : fs'.origin path = fs.origin path := by
  unfold origin
  rw [same.working]

theorem place (path : String) : fs'.place path = fs.place path := by
  unfold FileSystem.place
  rw [same.starts]

theorem located {path : String} {location : List String} :
    fs'.locate path = .ok location ↔ fs.locate path = .ok location := by
  rw [locatedPlace, locatedPlace, same.starts, same.passes, same.place]

theorem found {path : String} (apart : ¬ changed (fs.place path)) (node : FileNode) :
    fs'.lookup path = .ok node ↔ fs.lookup path = .ok node := by
  rw [lookedUp, lookedUp]
  refine exists_congr fun location => ?_
  rw [same.located]
  refine and_congr_right fun leads => ?_
  rw [same.kept location ((locatedPlace.mp leads).2.2 ▸ apart)]

end SameBut
end StudyPlan.FileSystem
