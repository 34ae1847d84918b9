import StudyPlan.Proofs.Json.NumberWritten
import StudyPlan.Proofs.Json.Passing
import StudyPlan.Proofs.Text.Utf8

/-! The ways in which a config is loaded from JSON agree: from a value, from the text of the
value on one line, and from the bytes of a text. Bytes that are no text are refused. -/
namespace StudyPlan.TrialConfig
open Json (Value)
open Schema (okKept)
open Text (Glyph)

theorem valueAsText {v : Value} (finite : v.Finite) (c : TrialConfig) :
    ofValue v = .ok c ↔ ofJson v.compact = .ok c := by
  have same := Json.textAgrees Json.trialConfigAgrees (v.legible finite) c
  unfold ofValue ofJson ofGlyphs
  constructor
  · intro given
    rw [same.mpr (okKept given)]
    rfl
  · intro given
    rw [same.mp (okKept given)]
    rfl

theorem bytesAsText (s : String) : ofJsonBytes s.toUTF8.data.toList = ofJson s := by
  rw [ofJsonBytes, Text.toBytesUtf8, Glyph.ofBytesToBytes, ofJson]

theorem invalidRefused {bytes : ByteArray} (invalid : ¬ bytes.IsValidUTF8) :
    ∃ violation, ofJsonBytes bytes.data.toList = .error violation := by
  cases read : ofJsonBytes bytes.data.toList with
  | error violation => exact ⟨violation, rfl⟩
  | ok c =>
    have characters := Json.textPasses Json.Passing.trialConfig (okKept read)
    exact absurd (Text.validUtf8.mpr characters) invalid

/-- The three ways of loading agree. A value has no infinite float and none that is no number,
for these have no text in JSON. -/
theorem loadersAgree :
    (∀ v : Value, v.Finite → ∀ c, ofValue v = .ok c ↔ ofJson v.compact = .ok c) ∧
      (∀ s : String, ofJsonBytes s.toUTF8.data.toList = ofJson s) ∧
      ∀ bytes : ByteArray, ¬ bytes.IsValidUTF8 →
        ∃ violation, ofJsonBytes bytes.data.toList = .error violation :=
  ⟨fun _ finite c => valueAsText finite c, bytesAsText, fun _ invalid => invalidRefused invalid⟩

def inOrder : Value :=
  .object [("t", .array [.array [.array [.string "linux"], .array [], .null,
    .array [.array [.string "\"\\\x01😀"]]]])]

def illTyped : Value :=
  .object [("t", .array [.array [.array [.number (.float ⟨0x3FF8000000000000⟩),
    .number (.float ⟨0x8000000000000001⟩), .number (.whole (-7))]]])]

/- A key whose only character outside ASCII is cut in two by an escape. -/
def cut : ByteArray := ⟨#[0x7B, 0x22, 0xC3, 0x5C, 0x6E, 0xA9, 0x22, 0x3A, 0x5B, 0x5D, 0x7D]⟩

theorem loadersOnAwkward : inOrder.Finite ∧ illTyped.Finite ∧ ¬ cut.IsValidUTF8 ∧
    (∃ c, ofValue inOrder = .ok c ∧ ofJson inOrder.compact = .ok c) ∧
    (∀ c, ofJson illTyped.compact ≠ .ok c) ∧
    ofJsonBytes "\x7b\"é\":[]\x7d".toUTF8.data.toList = ofJson "\x7b\"é\":[]\x7d" ∧
    ∃ violation, ofJsonBytes cut.data.toList = .error violation := by
  have finite : inOrder.Finite := by
    simp [inOrder, Value.Finite, Value.MembersFinite, Value.ItemsFinite]
  have finite' : illTyped.Finite := by
    simp [illTyped, Value.Finite, Value.MembersFinite, Value.ItemsFinite, Json.Number.Finite]
    decide
  have invalid : ¬ cut.IsValidUTF8 := by
    intro valid
    obtain ⟨cs, read⟩ := Text.validUtf8.mp valid
    have stray : Glyph.stray 0xC3 ∈ Glyph.ofBytes cut.data.toList := by decide
    simp [read] at stray
  obtain ⟨values, texts, refused⟩ := loadersAgree
  refine ⟨finite, finite', invalid, ⟨_, rfl, (values inOrder finite _).mp rfl⟩, ?_, texts _,
    refused cut invalid⟩
  intro c read
  exact absurd ((values illTyped finite' c).mpr read) nofun

end StudyPlan.TrialConfig
