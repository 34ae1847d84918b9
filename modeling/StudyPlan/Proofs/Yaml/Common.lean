import StudyPlan.Json.Printer
import StudyPlan.Yaml.Token

/-! Values that JSON and YAML write alike on one line. Keys are short: a scanner of YAML does
not wait forever for the colon that tells a key from a value. -/
namespace StudyPlan
open Json (Value)

def PrintableChar (c : Char) : Prop := ' ' ≤ c ∧ c ≤ '~'

instance : DecidablePred PrintableChar := fun c =>
  inferInstanceAs (Decidable (' ' ≤ c ∧ c ≤ '~'))

def Printable (s : String) : Prop := ∀ c ∈ s.toList, PrintableChar c

-- by name: characters are finitely many, and all of them might be tried instead
instance (s : String) : Decidable (Printable s) := List.decidableBAll PrintableChar s.toList

/- A key that is written in at most 1002 characters, with its quotes and escapes. -/
structure Keyable (key : String) : Prop where
  printable : Printable key
  short : key.length ≤ 500

instance (key : String) : Decidable (Keyable key) :=
  decidable_of_iff (Printable key ∧ key.length ≤ 500)
    ⟨fun known => ⟨known.1, known.2⟩, fun known => ⟨known.printable, known.short⟩⟩

namespace Json.Value

def isArray : Value → Bool
  | .array _ => true
  | _ => false

mutual

/- No null and no number; and no array is an item of an array, where JSON might take it for
a record. -/
def Common : Value → Prop
  | .null => False
  | .bool _ => True
  | .number _ => False
  | .string s => Printable s
  | .array items => ItemsCommon items
  | .object members => MembersCommon members

def ItemsCommon : List Value → Prop
  | [] => True
  | v :: rest => v.isArray = false ∧ v.Common ∧ ItemsCommon rest

def MembersCommon : List (String × Value) → Prop
  | [] => True
  | (key, v) :: rest => Keyable key ∧ v.Common ∧ MembersCommon rest

end

theorem itemsCommon {items : List Value} (all : ∀ v ∈ items, v.isArray = false ∧ v.Common) :
    ItemsCommon items := by
  induction items with
  | nil => trivial
  | cons v rest ih =>
    obtain ⟨head, tail⟩ := List.forall_mem_cons.mp all
    exact ⟨head.1, head.2, ih tail⟩

theorem membersCommon {members : List (String × Value)}
    (all : ∀ m ∈ members, Keyable m.1 ∧ m.2.Common) : MembersCommon members := by
  induction members with
  | nil => trivial
  | cons m rest ih =>
    obtain ⟨head, tail⟩ := List.forall_mem_cons.mp all
    exact ⟨head.1, head.2, ih tail⟩

end Json.Value

namespace Yaml

def flagText (b : Bool) : String := if b then "true" else "false"

mutual

def kinds : Value → List TokenKind
  | .null => []
  | .bool b => [.scalar (flagText b) .plain]
  | .number _ => []
  | .string s => [.scalar s .doubleQuoted]
  | .array items => .flowSequenceStart :: itemKinds true items
  | .object members => .flowMappingStart :: memberKinds true members

def itemKinds (first : Bool) : List Value → List TokenKind
  | [] => [.flowSequenceEnd]
  | v :: rest => (if first then [] else [.flowEntry]) ++ (kinds v ++ itemKinds false rest)

def memberKinds (first : Bool) : List (String × Value) → List TokenKind
  | [] => [.flowMappingEnd]
  | (key, v) :: rest =>
    (if first then [] else [.flowEntry]) ++
      ([.key, .scalar key .doubleQuoted, .value] ++ (kinds v ++ memberKinds false rest))

end
end Yaml
end StudyPlan
