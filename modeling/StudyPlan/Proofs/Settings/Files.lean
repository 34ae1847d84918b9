import Mathlib.Data.List.Nodup
import StudyPlan.Proofs.Commands
import StudyPlan.Proofs.FileSystem.Elsewhere
import StudyPlan.Proofs.Text.Parts

/-! Which settings are loaded. Without a file that is named it is those of the first usual place
that holds good ones; with one it is what that file holds, or why it does not. No file is seen but
those that are read on the way. -/
namespace StudyPlan
open Settings (FileFormat parse usualPlaces search load)

namespace FileSystem

inductive Reads (fs : FileSystem) (path : String) : Except Failure Settings → Prop where
  | absent (gone : fs.isThere path = false) : Reads fs path (.error (.fileNotFound path))
  | unreadable {problem : FileProblem} (there : fs.isThere path = true)
      (unread : fs.readText path = .error problem) : Reads fs path (.error (.io problem))
  | refused {text : String} {f : Failure} (there : fs.isThere path = true)
      (read : fs.readText path = .ok text) (bad : parse (.ofPath path) text = .error f) :
      Reads fs path (.error f)
  | good {text : String} {s : Settings} (there : fs.isThere path = true)
      (read : fs.readText path = .ok text) (parsed : parse (.ofPath path) text = .ok s) :
      Reads fs path (.ok s)

theorem readsExactly {fs : FileSystem} {path : String} {result : Except Failure Settings} :
    fs.Reads path result ↔ fs.settings path = result := by
  constructor
  · intro reads
    unfold settings
    cases reads with
    | absent gone => simp [gone]
    | unreadable there unread => simp [there, unread, Settings.ofContent]
    | refused there read bad => simp [there, read, Settings.ofContent, bad]
    | good there read parsed => simp [there, read, Settings.ofContent, parsed]
  · rintro rfl
    unfold settings
    cases there : fs.isThere path with
    | false => exact .absent there
    | true =>
      cases read : fs.readText path with
      | error problem => exact .unreadable there read
      | ok text =>
        cases parsed : parse (.ofPath path) text with
        | error f => simpa [Settings.ofContent, parsed] using Reads.refused there read parsed
        | ok s => simpa [Settings.ofContent, parsed] using Reads.good there read parsed

theorem settingsAt (fs : FileSystem) (path : String) {location : List String}
    (named : checkPath path = .ok ()) (walks : fs.walk (fs.origin path)
      (Path.components path ++ if Path.endsInSlash path then ["."] else []) = .ok location)
    (allowed : fs.refusals.reading location = none) :
    fs.settings path =
      match fs.nodeAt location with
      | none => .error (.fileNotFound path)
      | some node => Settings.ofContent path node.text := by
  have leads := locatedWalk.mpr ⟨named, walks⟩
  cases here : fs.nodeAt location with
  | none =>
    have gone : fs.isThere path = false := by
      simp [isThere, lookup, leads, bind, Except.bind, here, throw, throwThe, MonadExceptOf.throw,
        Except.isOk, Except.toBool]
    simp [settings, gone]
  | some node =>
    have there : fs.isThere path = true := by
      simp [isThere, lookupAt named walks here, Except.isOk, Except.toBool]
    simp [settings, there, readAt named walks here allowed]

def Beside (fs : FileSystem) (paths : List String) (location : List String) : Prop :=
  ∀ path ∈ paths, fs.place path ≠ location

namespace SameBut
variable {fs fs' : FileSystem} {paths : List String} {path : String}

theorem sameFile (same : SameBut (fs.Beside paths) fs fs') (among : path ∈ paths) :
    fs'.settings path = fs.settings path ∧ fs'.isThere path = fs.isThere path := by
  have apart : ¬ fs.Beside paths (fs.place path) := fun beside => beside path among rfl
  have found := same.found apart
  cases here : fs.lookup path with
  | ok node =>
    have there := (found node).mpr here
    have read : fs'.readText path = fs.readText path := by
      rw [readPlace here, readPlace there, same.place, readNode, readNode, same.reading _ apart]
    simp [settings, isThere, read, here, there]
  | error problem =>
    cases there : fs'.lookup path with
    | ok node => simp [(found node).mp there] at here
    | error problem' => simp [settings, isThere, here, there, Except.isOk, Except.toBool]

end SameBut
end FileSystem

namespace Settings
open FileSystem (SameBut pathChecked)

theorem searchPasses (fs : FileSystem) (places : List String) :
    (∃ front path behind, places = front ++ path :: behind ∧
      (∀ q ∈ front, ¬ ∃ s, fs.Reads q (.ok s)) ∧ fs.Reads path (.ok (search fs places).2)) ∨
    (∀ q ∈ places, ¬ ∃ s, fs.Reads q (.ok s)) ∧ (search fs places).2 = {} := by
  induction places with
  | nil => exact .inr ⟨by simp, rfl⟩
  | cons path rest ih =>
    simp only [FileSystem.readsExactly] at ih ⊢
    cases reads : fs.settings path with
    | ok s => exact .inl ⟨[], path, rest, rfl, by simp, by simp [search, reads]⟩
    | error f =>
      have onward : (search fs (path :: rest)).2 = (search fs rest).2 := by simp [search, reads]
      rw [onward]
      rcases ih with ⟨front, chosen, behind, rfl, passed, held⟩ | ⟨none, defaults⟩
      · exact .inl ⟨path :: front, chosen, behind, rfl, by simpa [reads] using passed, held⟩
      · exact .inr ⟨by simpa [reads] using none, defaults⟩

theorem settingsRead {fs : FileSystem} {path : String} {s : Settings}
    (held : (fs.settings path).toOption = some s) : fs.Reads path (.ok s) := by
  rw [FileSystem.readsExactly]
  cases reads : fs.settings path with
  | error f => simp [reads, Except.toOption] at held
  | ok s' => simpa [reads, Except.toOption] using held

theorem firstGood {fs : FileSystem} {front behind front' behind' : List String}
    {path path' : String} {s s' : Settings}
    (passed : ∀ q ∈ front, (fs.settings q).toOption = none)
    (held : (fs.settings path).toOption = some s)
    (order : front ++ path :: behind = front' ++ path' :: behind')
    (passed' : ∀ q ∈ front', ¬ ∃ s, fs.Reads q (.ok s)) (held' : fs.Reads path' (.ok s')) :
    front' = front ∧ path' = path ∧ behind' = behind ∧ s' = s := by
  have refused : ∀ q ∈ front, ¬ ∃ s, fs.Reads q (.ok s) := by
    rintro q among ⟨s, reads⟩
    have bad := passed q among
    rw [FileSystem.readsExactly.mp reads] at bad
    contradiction
  have good := settingsRead held
  obtain ⟨rfl, rfl, rfl⟩ := splitAtFirst refused passed' ⟨_, good⟩ ⟨_, held'⟩ order
  have same := (FileSystem.readsExactly.mp held').symm.trans (FileSystem.readsExactly.mp good)
  exact ⟨rfl, rfl, rfl, Except.ok.inj same⟩

theorem searchSame {fs fs' : FileSystem} {front behind : List String} {path : String} {s : Settings}
    (held : fs.Reads path (.ok s)) (same : SameBut (fs.Beside (front ++ [path])) fs fs') :
    search fs' (front ++ path :: behind) = search fs (front ++ path :: behind) := by
  have alike : ∀ q ∈ front ++ [path], fs'.settings q = fs.settings q ∧
      fs'.isThere q = fs.isThere q := fun q among => same.sameFile among
  clear same
  induction front with
  | nil =>
    have here := (alike path (by simp)).1
    simp [search, here, FileSystem.readsExactly.mp held]
  | cons q front ih =>
    obtain ⟨read, there⟩ := alike q (by simp)
    have later := ih fun r among => alike r (List.mem_cons_of_mem _ among)
    simp [search, read, there, later]

theorem userPlaceNamed (directory : String) {name : String} (plain : Path.Name name)
    (moves : name ≠ ".") (inside : name ≠ "..") :
    Path.fileName? ((directory ++ (if Path.endsInSlash directory then "" else "/") ++
      "fieldtrial/") ++ name) = some name := by
  have spelt : "fieldtrial/" = "fieldtrial" ++ "/" := rfl
  rw [spelt, ← String.append_assoc]
  exact Path.fileNameIn _ plain moves inside

def placeNames (directory : Option String) : List String :=
  [".fieldtrial.toml", ".fieldtrial.yaml", ".fieldtrial.json"] ++
    if directory.isSome then ["config.toml", "config.yaml", "config.json"] else []

theorem placesNamed (directory : Option String) :
    (usualPlaces directory).map Path.fileName? = (placeNames directory).map some := by
  cases directory with
  | none => rfl
  | some directory =>
    have named (name : String) (member : name ∈ ["config.toml", "config.yaml", "config.json"]) :
        Path.fileName? ((directory ++ (if Path.endsInSlash directory then "" else "/") ++
          "fieldtrial/") ++ name) = some name := by
      have plain : Path.Name name ∧ name ≠ "." ∧ name ≠ ".." := by
        simp only [List.mem_cons, List.not_mem_nil, or_false] at member
        rcases member with rfl | rfl | rfl <;>
          exact ⟨⟨by decide, by decide⟩, by decide, by decide⟩
      exact userPlaceNamed directory plain.1 plain.2.1 plain.2.2
    have hidden : [".fieldtrial.toml", ".fieldtrial.yaml", ".fieldtrial.json"].map Path.fileName? =
        [".fieldtrial.toml", ".fieldtrial.yaml", ".fieldtrial.json"].map some := rfl
    simp only [usualPlaces, placeNames, List.map_append, hidden, List.map_map]
    exact congrArg _ (List.map_congr_left named)

def formatNamed (name? : Option String) : FileFormat :=
  match name?.bind fun name => (Path.extensionOf? name.toList).map String.ofList with
  | some "toml" => .toml
  | some "yaml" => .yaml
  | some "yml" => .yaml
  | _ => .json

theorem placesFormatted (directory : Option String) :
    (usualPlaces directory).map FileFormat.ofPath =
      [.toml, .yaml, .json] ++ if directory.isSome then [.toml, .yaml, .json] else [] := by
  have told : FileFormat.ofPath = formatNamed ∘ Path.fileName? := rfl
  rw [told, ← List.map_map, placesNamed]
  cases directory <;> rfl

theorem placesApart (fs : FileSystem) (directory : Option String) :
    ((usualPlaces directory).map fs.place).Nodup := by
  have last : ((usualPlaces directory).map fs.place).map List.getLast? =
      (placeNames directory).map some := by
    rw [← placesNamed, List.map_map]
    refine List.map_congr_left ?_
    intro path member
    have named : Path.fileName? path ∈ (placeNames directory).map some := by
      rw [← placesNamed]
      exact List.mem_map_of_mem member
    obtain ⟨name, -, same⟩ := List.mem_map.mp named
    rw [← same]
    exact FileSystem.placeNamed fs same.symm
  have distinct : (placeNames directory).Nodup := by
    unfold placeNames
    cases directory.isSome <;> decide
  refine List.Nodup.of_map List.getLast? ?_
  rw [last]
  exact distinct.map fun _ _ same => Option.some.inj same

theorem behindBeside {fs : FileSystem} {directory : Option String} {front behind : List String}
    {path : String} (order : usualPlaces directory = front ++ path :: behind) :
    ∀ q ∈ behind, fs.Beside (front ++ [path]) (fs.place q) := by
  have apart := placesApart fs directory
  rw [order, List.append_cons, List.map_append, List.nodup_append] at apart
  intro q later r among
  exact apart.2.2 _ (List.mem_map_of_mem among) _ (List.mem_map_of_mem later)

theorem placesSpelt (directory : Option String) :
    (directory = none →
      usualPlaces directory = [".fieldtrial.toml", ".fieldtrial.yaml", ".fieldtrial.json"]) ∧
    ∀ d, directory = some d → ∃ user,
      user = d ++ (if d.toList.getLast? = some '/' then "" else "/") ++ "fieldtrial/" ∧
      usualPlaces directory = [".fieldtrial.toml", ".fieldtrial.yaml", ".fieldtrial.json",
        user ++ "config.toml", user ++ "config.yaml", user ++ "config.json"] := by
  constructor
  · rintro rfl
    rfl
  · rintro d rfl
    refine ⟨_, rfl, ?_⟩
    simp [usualPlaces, Path.endsInSlash]

/-- Settings always load when no file is named: those of the first usual place that leads to a text
with settings in its format, or the defaults when none does. A file that is named is read instead,
and all that can be wrong with it is told. Either way no other file has any effect, the ones at the
places behind the chosen one included. -/
theorem loadsFirstGood (fs : FileSystem) (directory : Option String) : ∃ places : List String,
    (directory = none →
      places = [".fieldtrial.toml", ".fieldtrial.yaml", ".fieldtrial.json"]) ∧
    (∀ d, directory = some d → ∃ user,
      user = d ++ (if d.toList.getLast? = some '/' then "" else "/") ++ "fieldtrial/" ∧
      places = [".fieldtrial.toml", ".fieldtrial.yaml", ".fieldtrial.json",
        user ++ "config.toml", user ++ "config.yaml", user ++ "config.json"]) ∧
    places.map FileFormat.ofPath =
      [.toml, .yaml, .json] ++ (if directory.isSome then [.toml, .yaml, .json] else []) ∧
    (∃ warnings s, (load none directory : StateM FileSystem _) fs = ((warnings, .ok s), fs) ∧
      ((∃ front path behind, places = front ++ path :: behind ∧
          (∀ q ∈ front, ¬ ∃ s, fs.Reads q (.ok s)) ∧ fs.Reads path (.ok s) ∧
          (∀ q ∈ behind, fs.Beside (front ++ [path]) (fs.place q)) ∧
          ∀ fs', SameBut (fs.Beside (front ++ [path])) fs fs' →
            (load none directory : StateM FileSystem _) fs' = ((warnings, .ok s), fs')) ∨
        (∀ q ∈ places, ¬ ∃ s, fs.Reads q (.ok s)) ∧ s = {})) ∧
    ∀ path, ∃ result, fs.Reads path result ∧
      (Settings.ofFile path : StateM FileSystem _) fs = (result, fs) ∧
      (load (some path) directory : StateM FileSystem _) fs = (([], result), fs) ∧
      ∀ directory' fs', SameBut (fs.Beside [path]) fs fs' →
        (load (some path) directory' : StateM FileSystem _) fs' = (([], result), fs') := by
  obtain ⟨hidden, all⟩ := placesSpelt directory
  refine ⟨usualPlaces directory, hidden, all, placesFormatted directory, ?_, ?_⟩
  · refine ⟨_, _, loadPlaces directory fs, ?_⟩
    rcases searchPasses fs (usualPlaces directory) with
      ⟨front, path, behind, order, passed, held⟩ | none
    · refine .inl ⟨front, path, behind, order, passed, held, behindBeside order, ?_⟩
      intro fs' same
      rw [loadPlaces, order, searchSame held same]
    · exact .inr none
  · intro path
    refine ⟨_, FileSystem.readsExactly.mpr rfl, fileRead path fs, loadFile path directory fs, ?_⟩
    intro directory' fs' same
    rw [loadFile, (same.sameFile (by simp)).1]

/- The first usual place is a directory, and the text at the second is broken. Good settings are in
the third, or in the directory of the user. -/

def messy : FileSystem :=
  ((FileSystem.fresh "w").put ["w", ".fieldtrial.toml"] .directory).put
    ["w", ".fieldtrial.yaml"] (.file (Text.toBytes "["))

def messyHere : FileSystem :=
  messy.put ["w", ".fieldtrial.json"]
    (.file (Text.toBytes "\x7b\"default_platform\":\"mac\"\x7d"))

def messyUser : FileSystem :=
  ((messy.put ["u"] .directory).put ["u", "fieldtrial"] .directory).put
    ["u", "fieldtrial", "config.yaml"] (.file (Text.toBytes "default_platform: mac"))

def macSettings : Settings := { defaultPlatform := some "mac" }

theorem hereHeld :
    (∀ q ∈ [".fieldtrial.toml", ".fieldtrial.yaml"], (messyHere.settings q).toOption = none) ∧
    (messyHere.settings ".fieldtrial.json").toOption = some macSettings := by
  have toml := messyHere.settingsAt ".fieldtrial.toml" (pathChecked (by decide)) rfl rfl
  have yaml := messyHere.settingsAt ".fieldtrial.yaml" (pathChecked (by decide)) rfl rfl
  have json := messyHere.settingsAt ".fieldtrial.json" (pathChecked (by decide)) rfl rfl
  simp only [List.forall_mem_cons, toml, yaml, json]
  decide +kernel

theorem userHeld :
    (∀ q ∈ [".fieldtrial.toml", ".fieldtrial.yaml", ".fieldtrial.json",
      "/u/fieldtrial/config.toml"], (messyUser.settings q).toOption = none) ∧
    (messyUser.settings "/u/fieldtrial/config.yaml").toOption = some macSettings := by
  have toml := messyUser.settingsAt ".fieldtrial.toml" (pathChecked (by decide)) rfl rfl
  have yaml := messyUser.settingsAt ".fieldtrial.yaml" (pathChecked (by decide)) rfl rfl
  have json := messyUser.settingsAt ".fieldtrial.json" (pathChecked (by decide)) rfl rfl
  have userToml := messyUser.settingsAt "/u/fieldtrial/config.toml" (pathChecked (by decide)) rfl rfl
  have userYaml := messyUser.settingsAt "/u/fieldtrial/config.yaml" (pathChecked (by decide)) rfl rfl
  simp only [List.forall_mem_cons, toml, yaml, json, userToml, userYaml]
  decide +kernel

theorem messyLoads :
    (∃ f, (load (some ".fieldtrial.yaml") (some "/u") : StateM FileSystem _) messyHere =
        (([], .error f), messyHere)) ∧
    (∃ warnings, (load none (some "/u") : StateM FileSystem _) messyHere =
        ((warnings, .ok macSettings), messyHere) ∧
      ∀ content, let more := messyHere.put ["u", "fieldtrial", "config.toml"] (.file content)
        (load none (some "/u") : StateM FileSystem _) more =
          ((warnings, .ok macSettings), more)) ∧
    ∃ warnings, (load none (some "/u") : StateM FileSystem _) messyUser =
        ((warnings, .ok macSettings), messyUser) := by
  refine ⟨?_, ?_, ?_⟩
  · obtain ⟨places, -, -, -, -, named⟩ := loadsFirstGood messyHere (some "/u")
    obtain ⟨result, reads, -, loaded, -⟩ := named ".fieldtrial.yaml"
    have bad := hereHeld.1 ".fieldtrial.yaml" (by decide)
    rw [FileSystem.readsExactly.mp reads] at bad
    cases result with
    | ok s => cases bad
    | error f => exact ⟨f, loaded⟩
  · obtain ⟨places, -, all, -, ⟨warnings, s, loaded, ends⟩, -⟩ :=
      loadsFirstGood messyHere (some "/u")
    obtain ⟨user, spelt, rfl⟩ := all "/u" rfl
    rcases ends with ⟨front, path, behind, order, passed, held, beside, alike⟩ | ⟨none, -⟩
    · obtain ⟨rfl, rfl, rfl, rfl⟩ :=
        firstGood hereHeld.1 hereHeld.2 order passed held
      have named : user ++ "config.toml" = "/u/fieldtrial/config.toml" := by
        rw [spelt]
        decide
      have other : messyHere.nodeAt (messyHere.place "/u/fieldtrial/config.toml") ≠
          some .directory := by decide
      have inside := beside (user ++ "config.toml") (by simp)
      rw [named] at inside
      exact ⟨warnings, loaded, fun content =>
        alike _ (FileSystem.putBeside other inside content)⟩
    · exact absurd ⟨_, settingsRead hereHeld.2⟩ (none ".fieldtrial.json" (by simp))
  · obtain ⟨places, -, all, -, ⟨warnings, s, loaded, ends⟩, -⟩ :=
      loadsFirstGood messyUser (some "/u")
    obtain ⟨user, spelt, rfl⟩ := all "/u" rfl
    have named : user ++ "config.toml" = "/u/fieldtrial/config.toml" ∧
        user ++ "config.yaml" = "/u/fieldtrial/config.yaml" := by
      rw [spelt]
      decide
    rw [named.1, named.2] at ends
    rcases ends with ⟨front, path, behind, order, passed, held, -⟩ | ⟨none, -⟩
    · obtain ⟨-, -, -, rfl⟩ := firstGood userHeld.1 userHeld.2 order passed held
      exact ⟨warnings, loaded⟩
    · exact absurd ⟨_, settingsRead userHeld.2⟩ (none "/u/fieldtrial/config.yaml" (by simp))

end Settings
end StudyPlan
