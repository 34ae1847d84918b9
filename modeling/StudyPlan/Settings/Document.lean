import StudyPlan.Settings.Basic

/-! The written form of settings. Every setting is written, absent ones as nothing. -/
namespace StudyPlan
open Json (Value)

namespace Settings

def optionalText (s : Option String) : Value := (s.map Value.string).getD .null

def toValue (s : Settings) : Value :=
  .object
    [("default_platform", optionalText s.defaultPlatform),
      ("output", .object
        [("format", .string s.output.format), ("color", .bool s.output.color),
          ("symbol_prefix", .string s.output.symbolPrefix),
          ("element_name", .string s.output.elementName)]),
      ("logging", .object
        [("level", optionalText s.logging.level), ("format", optionalText s.logging.format)])]

def text (s : Settings) : String := s.toValue.compact

end Settings
end StudyPlan
