import StudyPlan.Proofs.Json.NumberWritten
import StudyPlan.Proofs.Json.Reading
import StudyPlan.Proofs.Json.TextWritten
import StudyPlan.Settings.Document
import StudyPlan.Settings.Load

/-! Settings files as overlays. What a file names replaces the default, setting by setting; what it
does not name stays, and what is no setting is passed over, whatever it holds. So all settings can
be read back from what is written for them. -/
namespace StudyPlan
open Json (Value Agree SameRecord)
open Json.Value (Stored partStored storedOnce storedReads openAccepted readString readBool
  readOptional readRecord ofName apartOf stringAccepted boolAccepted optionalAccepted)
open Schema (Problem Record)

namespace Json.Value

def IsObject (v : Value) : Prop := ∃ members, v = .object members ∧ (members.map Prod.fst).Nodup

def member? : Value → List String → Option Value
  | v, [] => some v
  | .object members, name :: path => (members.lookup name).bind (member? · path)
  | _, _ :: _ => none

theorem memberHere (members : List (String × Value)) (name : String) :
    (Value.object members).member? [name] = members.lookup name := by
  cases found : members.lookup name <;> simp [member?, found]

theorem memberInside (members : List (String × Value)) (group name : String) :
    (Value.object members).member? [group, name] =
      (members.lookup group).bind (member? · [name]) := rfl

end Json.Value

namespace Settings

structure Layered (v : Value) : Prop where
  whole : v.IsObject
  output : ∀ m, v.member? ["output"] = some m → m.IsObject
  logging : ∀ m, v.member? ["logging"] = some m → m.IsObject

def Overlaid {α : Type} (is : Value → α → Prop) (default : α) : Option Value → α → Prop
  | none, x => x = default
  | some v, x => is v x

def IsText (v : Value) (s : String) : Prop := v = .string s

def IsFlag (v : Value) (b : Bool) : Prop := v = .bool b

def IsNullable (v : Value) : Option String → Prop
  | none => v = .null
  | some s => v = .string s

structure OverlayOf (v : Value) (s : Settings) : Prop where
  defaultPlatform : Overlaid IsNullable ({} : Settings).defaultPlatform
    (v.member? ["default_platform"]) s.defaultPlatform
  format : Overlaid IsText ({} : Settings).output.format
    (v.member? ["output", "format"]) s.output.format
  color : Overlaid IsFlag ({} : Settings).output.color
    (v.member? ["output", "color"]) s.output.color
  symbolPrefix : Overlaid IsText ({} : Settings).output.symbolPrefix
    (v.member? ["output", "symbol_prefix"]) s.output.symbolPrefix
  elementName : Overlaid IsText ({} : Settings).output.elementName
    (v.member? ["output", "element_name"]) s.output.elementName
  level : Overlaid IsNullable ({} : Settings).logging.level
    (v.member? ["logging", "level"]) s.logging.level
  logFormat : Overlaid IsNullable ({} : Settings).logging.format
    (v.member? ["logging", "format"]) s.logging.format

def nullablePaths : List (List String) :=
  [["default_platform"], ["logging", "level"], ["logging", "format"]]

def textPaths : List (List String) :=
  [["output", "format"], ["output", "symbol_prefix"], ["output", "element_name"]]

def flagPath : List String := ["output", "color"]

structure Fits (v : Value) : Prop where
  nullable : ∀ path ∈ nullablePaths, ∀ m, v.member? path = some m → m = .null ∨ ∃ s, m = .string s
  text : ∀ path ∈ textPaths, ∀ m, v.member? path = some m → ∃ s, m = .string s
  flag : ∀ m, v.member? flagPath = some m → ∃ b, m = .bool b

def paths : List (List String) := flagPath :: nullablePaths ++ textPaths

theorem overlaidSome {α : Type} {is : Value → α → Prop} {default : α} {given : Option Value} :
    (∃ x, Overlaid is default given x) ↔ ∀ m, given = some m → ∃ x, is m x := by
  cases given <;> simp [Overlaid]

theorem nullableSome {v : Value} : (∃ x, IsNullable v x) ↔ v = .null ∨ ∃ s, v = .string s := by
  constructor
  · rintro ⟨_ | s, is⟩
    · exact .inl is
    · exact .inr ⟨s, is⟩
  · rintro (null | ⟨s, text⟩)
    · exact ⟨none, null⟩
    · exact ⟨some s, text⟩

theorem overlayFits {v : Value} : (∃ s, OverlayOf v s) ↔ Fits v := by
  have text (path : List String) (default : String) :
      (∃ x, Overlaid IsText default (v.member? path) x) ↔
        ∀ m, v.member? path = some m → ∃ s, m = .string s := overlaidSome
  have flag : (∃ x, Overlaid IsFlag true (v.member? flagPath) x) ↔
      ∀ m, v.member? flagPath = some m → ∃ b, m = .bool b := overlaidSome
  have nullable (path : List String) : (∃ x, Overlaid IsNullable none (v.member? path) x) ↔
      ∀ m, v.member? path = some m → m = .null ∨ ∃ s, m = .string s := by
    simp only [overlaidSome, nullableSome]
  constructor
  · rintro ⟨s, platform, format, color, symbolPrefix, elementName, level, logFormat⟩
    refine ⟨?_, ?_, flag.mp ⟨_, color⟩⟩
    · simp only [nullablePaths, List.forall_mem_cons]
      exact ⟨(nullable _).mp ⟨_, platform⟩, (nullable _).mp ⟨_, level⟩,
        (nullable _).mp ⟨_, logFormat⟩, by simp⟩
    · simp only [textPaths, List.forall_mem_cons]
      exact ⟨(text _ _).mp ⟨_, format⟩, (text _ _).mp ⟨_, symbolPrefix⟩,
        (text _ _).mp ⟨_, elementName⟩, by simp⟩
  · intro fits
    obtain ⟨platform, atPlatform⟩ := (nullable _).mpr (fits.nullable ["default_platform"] (by decide))
    obtain ⟨level, atLevel⟩ := (nullable _).mpr (fits.nullable ["logging", "level"] (by decide))
    obtain ⟨logFormat, atLogFormat⟩ :=
      (nullable _).mpr (fits.nullable ["logging", "format"] (by decide))
    obtain ⟨format, atFormat⟩ :=
      (text _ ({} : Settings).output.format).mpr (fits.text ["output", "format"] (by decide))
    obtain ⟨color, atColor⟩ := flag.mpr fits.flag
    obtain ⟨symbolPrefix, atPrefix⟩ := (text _ ({} : Settings).output.symbolPrefix).mpr
      (fits.text ["output", "symbol_prefix"] (by decide))
    obtain ⟨elementName, atName⟩ := (text _ ({} : Settings).output.elementName).mpr
      (fits.text ["output", "element_name"] (by decide))
    exact ⟨⟨platform, ⟨format, color, symbolPrefix, elementName⟩, ⟨level, logFormat⟩⟩,
      ⟨atPlatform, atFormat, atColor, atPrefix, atName, atLevel, atLogFormat⟩⟩

def outputReading : Record Value (Except Problem) OutputSettings OutputSettings :=
  Schema.outputRecord

def logReading : Record Value (Except Problem) LogSettings LogSettings := Schema.logRecord

def settingsReading : Record Value (Except Problem) Settings Settings := Schema.settingsRecord

variable {members : List (String × Value)}

def OutputGiven (members : List (String × Value)) (o : OutputSettings) : Prop :=
  Stored members "format" readString id ({} : OutputSettings).format o.format ∧
  Stored members "color" readBool id ({} : OutputSettings).color o.color ∧
  Stored members "symbol_prefix" readString id ({} : OutputSettings).symbolPrefix o.symbolPrefix ∧
  Stored members "element_name" readString id ({} : OutputSettings).elementName o.elementName

theorem outputAccepted (distinct : (members.map Prod.fst).Nodup) {o : OutputSettings} :
    readRecord outputReading (.object members) = .ok o ↔ OutputGiven members o := by
  refine openAccepted rfl rfl distinct ?_ ?_ ?_
  · intro o given
    refine ⟨partStored (·.format) id ⟨⟨_, rfl, fun _ _ => rfl⟩, ?_⟩ distinct given,
      partStored (·.color) id ⟨⟨_, rfl, fun _ _ => rfl⟩, ?_⟩ distinct given,
      partStored (·.symbolPrefix) id ⟨⟨_, rfl, fun _ _ => rfl⟩, ?_⟩ distinct given,
      partStored (·.elementName) id ⟨⟨_, rfl, fun _ _ => rfl⟩, ?_⟩ distinct given⟩
    all_goals simp [outputReading, Schema.outputRecord, Schema.overlay, ofName, apartOf]
  · intro o o' given given'
    obtain ⟨format, color, symbolPrefix, elementName⟩ := given
    obtain ⟨format', color', symbolPrefix', elementName'⟩ := given'
    cases o
    cases o'
    rw [OutputSettings.mk.injEq]
    exact ⟨storedOnce format format', storedOnce color color',
      storedOnce symbolPrefix symbolPrefix', storedOnce elementName elementName'⟩
  · intro o given
    obtain ⟨format, color, symbolPrefix, elementName⟩ := given
    simp only [outputReading, Schema.outputRecord, Schema.overlay, List.forall_mem_cons]
    exact ⟨storedReads distinct format, storedReads distinct color,
      storedReads distinct symbolPrefix, storedReads distinct elementName, by simp⟩

def LogGiven (members : List (String × Value)) (l : LogSettings) : Prop :=
  Stored members "level" (readOptional readString) id ({} : LogSettings).level l.level ∧
  Stored members "format" (readOptional readString) id ({} : LogSettings).format l.format

theorem logAccepted (distinct : (members.map Prod.fst).Nodup) {l : LogSettings} :
    readRecord logReading (.object members) = .ok l ↔ LogGiven members l := by
  refine openAccepted rfl rfl distinct ?_ ?_ ?_
  · intro l given
    refine ⟨partStored (·.level) id ⟨⟨_, rfl, fun _ _ => rfl⟩, ?_⟩ distinct given,
      partStored (·.format) id ⟨⟨_, rfl, fun _ _ => rfl⟩, ?_⟩ distinct given⟩
    all_goals simp [logReading, Schema.logRecord, Schema.overlay, ofName, apartOf]
  · intro l l' given given'
    cases l
    cases l'
    rw [LogSettings.mk.injEq]
    exact ⟨storedOnce given.1 given'.1, storedOnce given.2 given'.2⟩
  · intro l given
    simp only [logReading, Schema.logRecord, Schema.overlay, List.forall_mem_cons]
    exact ⟨storedReads distinct given.1, storedReads distinct given.2, by simp⟩

def Given (members : List (String × Value)) (s : Settings) : Prop :=
  Stored members "default_platform" (readOptional readString) id ({} : Settings).defaultPlatform
    s.defaultPlatform ∧
  Stored members "output" (readRecord outputReading) id {} s.output ∧
  Stored members "logging" (readRecord logReading) id {} s.logging

theorem settingsAccepted (distinct : (members.map Prod.fst).Nodup) {s : Settings} :
    readRecord settingsReading (.object members) = .ok s ↔ Given members s := by
  refine openAccepted rfl rfl distinct ?_ ?_ ?_
  · intro s given
    refine ⟨partStored (·.defaultPlatform) id ⟨⟨_, rfl, fun _ _ => rfl⟩, ?_⟩ distinct given,
      partStored (·.output) id ⟨⟨_, rfl, fun _ _ => rfl⟩, ?_⟩ distinct given,
      partStored (·.logging) id ⟨⟨_, rfl, fun _ _ => rfl⟩, ?_⟩ distinct given⟩
    all_goals simp [settingsReading, Schema.settingsRecord, Schema.overlay, ofName, apartOf]
  · intro s s' given given'
    obtain ⟨platform, output, logging⟩ := given
    obtain ⟨platform', output', logging'⟩ := given'
    cases s
    cases s'
    rw [Settings.mk.injEq]
    exact ⟨storedOnce platform platform', storedOnce output output', storedOnce logging logging'⟩
  · intro s given
    obtain ⟨platform, output, logging⟩ := given
    simp only [settingsReading, Schema.settingsRecord, Schema.overlay, List.forall_mem_cons]
    exact ⟨storedReads distinct platform, storedReads distinct output,
      storedReads distinct logging, by simp⟩

theorem storedOverlaid {α : Type} {read : Value → Except Problem α} {is : Value → α → Prop}
    (accepted : ∀ v x, read v = .ok x ↔ is v x) {name : String} {default x : α} :
    Stored members name read id default x ↔ Overlaid is default (members.lookup name) x := by
  unfold Stored Overlaid
  cases members.lookup name <;> simp [accepted, eq_comm]

theorem nullableAccepted (v : Value) (s? : Option String) :
    readOptional readString v = .ok s? ↔ IsNullable v s? := by
  rw [optionalAccepted]
  cases s? with
  | none => simp [IsNullable]
  | some s =>
    simp only [stringAccepted, IsNullable, Option.some.injEq, reduceCtorEq, and_false, false_or]
    constructor
    · intro given
      obtain ⟨-, s', rfl, rfl⟩ := given
      rfl
    · rintro rfl
      exact ⟨nofun, s, rfl, rfl⟩

theorem textAccepted (v : Value) (s : String) : readString v = .ok s ↔ IsText v s := stringAccepted

theorem flagAccepted (v : Value) (b : Bool) : readBool v = .ok b ↔ IsFlag v b := boolAccepted

theorem groupGiven {σ : Type} {read : Value → Except Problem σ}
    {Made : List (String × Value) → σ → Prop} {group : String} {defaults : σ}
    (accepted : ∀ inner, (inner.map Prod.fst).Nodup → ∀ x,
      read (.object inner) = .ok x ↔ Made inner x)
    (blank : read (.object []) = .ok defaults)
    (layered : ∀ m, (Value.object members).member? [group] = some m → m.IsObject) :
    ∃ inner, (∀ name, (Value.object members).member? [group, name] = inner.lookup name) ∧
      ∀ x, Stored members group read id defaults x ↔ Made inner x := by
  rw [Json.Value.memberHere] at layered
  cases found : members.lookup group with
  | none =>
    refine ⟨[], fun name => by simp [Json.Value.memberInside, found], ?_⟩
    intro x
    rw [← accepted [] List.nodup_nil, blank]
    simp [Stored, found, eq_comm]
  | some m =>
    obtain ⟨inner, rfl, distinct⟩ := layered m found
    refine ⟨inner, fun name => ?_, ?_⟩
    · rw [Json.Value.memberInside, found]
      exact Json.Value.memberHere inner name
    · intro x
      rw [← accepted inner distinct]
      simp [Stored, found]

theorem overlayAccepted {v : Value} (layered : Layered v) {s : Settings} :
    readRecord settingsReading v = .ok s ↔ OverlayOf v s := by
  obtain ⟨members, rfl, distinct⟩ := layered.whole
  have noOutput : readRecord outputReading (.object []) = .ok {} := rfl
  have noLogging : readRecord logReading (.object []) = .ok {} := rfl
  obtain ⟨outer, atOutput, output⟩ :=
    groupGiven (fun _ distinct _ => outputAccepted distinct) noOutput layered.output
  obtain ⟨inner, atLogging, logging⟩ :=
    groupGiven (fun _ distinct _ => logAccepted distinct) noLogging layered.logging
  rw [settingsAccepted distinct, Given, output, logging, OutputGiven, LogGiven]
  simp only [storedOverlaid nullableAccepted, storedOverlaid textAccepted,
    storedOverlaid flagAccepted, ← atOutput, ← atLogging, ← Json.Value.memberHere]
  constructor
  · intro given
    obtain ⟨platform, ⟨format, color, symbolPrefix, elementName⟩, level, logFormat⟩ := given
    exact ⟨platform, format, color, symbolPrefix, elementName, level, logFormat⟩
  · intro laid
    exact ⟨laid.1, ⟨laid.2, laid.3, laid.4, laid.5⟩, laid.6, laid.7⟩

theorem outputSame : SameRecord Schema.outputRecord Schema.outputRecord where
  fields := .cons (SameRecord.field .string ..) <| .cons (SameRecord.field .bool ..) <|
    .cons (SameRecord.field .string ..) <| .cons (SameRecord.field .string ..) .nil
  refusesUnknown := rfl
  initial := rfl
  finish := rfl

theorem logSame : SameRecord Schema.logRecord Schema.logRecord where
  fields := .cons (SameRecord.field (Agree.optional .string) ..) <|
    .cons (SameRecord.field (Agree.optional .string) ..) .nil
  refusesUnknown := rfl
  initial := rfl
  finish := rfl

theorem settingsSame : SameRecord Schema.settingsRecord Schema.settingsRecord where
  fields := .cons (SameRecord.field (Agree.optional .string) ..) <|
    .cons (SameRecord.field outputSame.agree ..) <|
    .cons (SameRecord.field logSame.agree ..) .nil
  refusesUnknown := rfl
  initial := rfl
  finish := rfl

theorem textRead {v : Value} (layered : Layered v) {text : String}
    (shown : Json.Shows text.toList v) (s : Settings) :
    parse .json text = .ok s ↔ OverlayOf v s := by
  rw [← overlayAccepted layered, settingsReading,
    ← Json.shownAgrees settingsSame.agree shown]
  unfold parse
  show Except.mapError _ (Json.Node.readText (Json.Node.readRecord Schema.settingsRecord) _) = _ ↔ _
  cases Json.Node.readText (Json.Node.readRecord Schema.settingsRecord)
    (Text.Glyph.ofString text) <;> simp [Except.mapError]

theorem writtenLayered (s : Settings) : Layered s.toValue where
  whole := ⟨_, rfl, by simp⟩
  output := by
    intro m given
    cases Option.some.inj (given.symm.trans (rfl : _ = some _))
    exact ⟨_, rfl, by simp⟩
  logging := by
    intro m given
    cases Option.some.inj (given.symm.trans (rfl : _ = some _))
    exact ⟨_, rfl, by simp⟩

theorem nullableWritten (s? : Option String) : IsNullable (optionalText s?) s? := by
  cases s? <;> rfl

theorem writtenOverlay (s : Settings) : OverlayOf s.toValue s where
  defaultPlatform := nullableWritten s.defaultPlatform
  format := rfl
  color := rfl
  symbolPrefix := rfl
  elementName := rfl
  level := nullableWritten s.logging.level
  logFormat := nullableWritten s.logging.format

theorem writtenShown (s : Settings) : Json.Shows s.text.toList s.toValue := by
  have nullable (s? : Option String) : (optionalText s?).Legible := by cases s? <;> trivial
  have legible : s.toValue.Legible :=
    ⟨nullable s.defaultPlatform, ⟨trivial, trivial, trivial, trivial, trivial⟩,
      ⟨nullable s.logging.level, nullable s.logging.format, trivial⟩, trivial⟩
  exact Json.compactShown s.toValue legible

def Alike (v w : Value) : Prop := ∀ path ∈ paths, v.member? path = w.member? path

theorem Alike.overlay {v w : Value} (alike : Alike v w) {s : Settings} (laid : OverlayOf v s) :
    OverlayOf w s where
  defaultPlatform := alike ["default_platform"] (by decide) ▸ laid.defaultPlatform
  format := alike ["output", "format"] (by decide) ▸ laid.format
  color := alike ["output", "color"] (by decide) ▸ laid.color
  symbolPrefix := alike ["output", "symbol_prefix"] (by decide) ▸ laid.symbolPrefix
  elementName := alike ["output", "element_name"] (by decide) ▸ laid.elementName
  level := alike ["logging", "level"] (by decide) ▸ laid.level
  logFormat := alike ["logging", "format"] (by decide) ▸ laid.logFormat

theorem Alike.symm {v w : Value} (alike : Alike v w) : Alike w v :=
  fun path known => (alike path known).symm

/-- The text of an object is read as settings exactly when all settings in it are of their kinds,
and then each of them is what its member says, or the default without one; members that are none of
these do not matter. So settings are read back from what is written for them. -/
theorem overlaysDefaults :
    (∀ v : Value, v.Finite →
      Json.Shows v.compact.toList v ∧ ∀ level, Json.Shows (v.pretty level).toList v) ∧
    (∀ v text, Layered v → Json.Shows text.toList v →
      ((∃ s, parse .json text = .ok s) ↔ Fits v) ∧
      (∀ s, parse .json text = .ok s ↔ OverlayOf v s) ∧
      ∀ v' text', Layered v' → Json.Shows text'.toList v' → Alike v v' →
        ∀ s, parse .json text' = .ok s ↔ parse .json text = .ok s) ∧
    ∀ s : Settings, parse .json s.text = .ok s := by
  refine ⟨?_, ?_, fun s => (textRead (writtenLayered s) (writtenShown s) s).mpr (writtenOverlay s)⟩
  · intro v finite
    have legible := Json.Value.legible v finite
    exact ⟨Json.compactShown v legible, Json.prettyShown v legible⟩
  · intro v text layered shown
    have read := textRead layered shown
    refine ⟨by simp only [read, overlayFits], read, ?_⟩
    intro v' text' layered' shown' alike s
    rw [read, textRead layered' shown']
    exact ⟨alike.symm.overlay, alike.overlay⟩

def strewn (elementName : Value) : Value :=
  .object [("theme", .object [("output", .array [.null, .number (.whole (-1))])]),
    ("output", .object [("color", .bool false), ("colour", .object [("format", .null)]),
      ("format", .string "xml"), ("element_name", elementName)]),
    ("logging", .object [("level", .null), ("format", .string "json")]),
    ("default_platform", .null)]

def strewnSettings : Settings where
  output := { format := "xml", color := false, elementName := "" }
  logging := { format := some "json" }

theorem strewnLayered (elementName : Value) : Layered (strewn elementName) where
  whole := ⟨_, rfl, by simp⟩
  output := by
    intro m given
    cases Option.some.inj (given.symm.trans (rfl : _ = some _))
    exact ⟨_, rfl, by simp⟩
  logging := by
    intro m given
    cases Option.some.inj (given.symm.trans (rfl : _ = some _))
    exact ⟨_, rfl, by simp⟩

theorem strewnRead : (∀ v, Layered (strewn v)) ∧
    (strewn (.string "")).Finite ∧ (strewn .null).Finite ∧
    parse .json (strewn (.string "")).compact = .ok strewnSettings ∧
    ¬ ∃ s, parse .json (strewn .null).compact = .ok s := by
  have finite (elementName : Value) (plain : elementName.Finite) : (strewn elementName).Finite :=
    ⟨⟨⟨trivial, trivial, trivial⟩, trivial⟩,
      ⟨trivial, ⟨trivial, trivial⟩, trivial, plain, trivial⟩, ⟨trivial, trivial, trivial⟩,
      trivial, trivial⟩
  have good := finite (.string "") trivial
  have bad := finite .null trivial
  obtain ⟨written, read, -⟩ := overlaysDefaults
  refine ⟨strewnLayered, good, bad, ?_, ?_⟩
  · have laid : OverlayOf (strewn (.string "")) strewnSettings :=
      ⟨rfl, rfl, rfl, rfl, rfl, rfl, rfl⟩
    exact ((read _ _ (strewnLayered _) (written _ good).1).2.1 _).mpr laid
  · intro accepted
    have fits := (read _ _ (strewnLayered _) (written _ bad).1).1.mp accepted
    obtain ⟨s, text⟩ := fits.text ["output", "element_name"] (by decide) .null rfl
    cases text

end Settings
end StudyPlan
