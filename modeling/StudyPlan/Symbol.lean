import StudyPlan.Violation

/-! The closed tables of tags. Configs write lowercase tags; descriptions write
the symbolic constant that stands beside the tag in the table. -/
namespace StudyPlan

inductive Platform where
  | windows | mac | linux | chromeOs | android | androidWebview | ios | fuchsia
  deriving DecidableEq, Repr

inductive FormFactor where
  | desktop | phone | tablet
  deriving DecidableEq, Repr

inductive OptionalBool where
  | missing | yes | no
  deriving DecidableEq, Repr

structure UnknownTag where
  kind : String
  tag : String
  accepted : List String
  deriving DecidableEq, Repr

class TagTable (α : Type) where
  kind : String
  all : List α
  tag : α → String
  symbol : α → String

namespace UnknownTag

def acceptedList (u : UnknownTag) : String := ", ".intercalate u.accepted

def message (u : UnknownTag) : String :=
  "unknown " ++ u.kind ++ " tag '" ++ u.tag ++ "' (expected one of: " ++ u.acceptedList ++ ")"

def toViolation (u : UnknownTag) (path rule : String) : Violation :=
  ⟨path, u.message, some ⟨rule, "one of: " ++ u.acceptedList, u.tag⟩⟩

end UnknownTag

namespace TagTable
variable (α : Type) [TagTable α]

def tags : List String := (all : List α).map tag

variable {α}

def ofTag? (text : String) : Option α := (all : List α).find? (tag · == text)

def parse (text : String) : Except UnknownTag α :=
  match (ofTag? text : Option α) with
  | some x => .ok x
  | none => .error ⟨kind α, text, tags α⟩

class Lawful (α : Type) [TagTable α] : Prop where
  found : ∀ x : α, ofTag? (tag x) = some x

end TagTable

namespace Platform

def all : List Platform :=
  [.windows, .mac, .linux, .chromeOs, .android, .androidWebview, .ios, .fuchsia]

def tag : Platform → String
  | windows => "windows"
  | mac => "mac"
  | linux => "linux"
  | chromeOs => "chromeos"
  | android => "android"
  | androidWebview => "android_webview"
  | ios => "ios"
  | fuchsia => "fuchsia"

def symbol : Platform → String
  | windows => "PLATFORM_WINDOWS"
  | mac => "PLATFORM_MAC"
  | linux => "PLATFORM_LINUX"
  | chromeOs => "PLATFORM_CHROMEOS"
  | android => "PLATFORM_ANDROID"
  | androidWebview => "PLATFORM_ANDROID_WEBVIEW"
  | ios => "PLATFORM_IOS"
  | fuchsia => "PLATFORM_FUCHSIA"

instance : TagTable Platform := ⟨"platform", all, tag, symbol⟩

theorem memAll (p : Platform) : p ∈ all := by cases p <;> decide

instance : TagTable.Lawful Platform := ⟨by intro p; cases p <;> decide⟩

end Platform

namespace FormFactor

def all : List FormFactor := [.desktop, .phone, .tablet]

def tag : FormFactor → String
  | desktop => "desktop"
  | phone => "phone"
  | tablet => "tablet"

def symbol : FormFactor → String
  | desktop => "DESKTOP"
  | phone => "PHONE"
  | tablet => "TABLET"

instance : TagTable FormFactor := ⟨"form factor", all, tag, symbol⟩

theorem memAll (f : FormFactor) : f ∈ all := by cases f <;> decide

instance : TagTable.Lawful FormFactor := ⟨by intro f; cases f <;> decide⟩

end FormFactor

namespace OptionalBool

def symbol : OptionalBool → String
  | missing => "OPTIONAL_BOOL_MISSING"
  | yes => "OPTIONAL_BOOL_TRUE"
  | no => "OPTIONAL_BOOL_FALSE"

def ofOption : Option Bool → OptionalBool
  | none => missing
  | some true => yes
  | some false => no

instance : Inhabited OptionalBool := ⟨missing⟩

end OptionalBool
end StudyPlan
