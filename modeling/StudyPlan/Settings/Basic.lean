import StudyPlan.Document.Description

/-! The settings of the program. Each has a default, so a settings file names only those
that it changes; the command line overrides both. -/
namespace StudyPlan

structure OutputSettings where
  format : String := "human"
  color : Bool := true
  symbolPrefix : String := ElementsLayout.standard.symbolPrefix
  elementName : String := ElementsLayout.standard.elementName
  deriving DecidableEq, Repr, Inhabited

structure LogSettings where
  level : Option String := none
  format : Option String := none
  deriving DecidableEq, Repr, Inhabited

structure Settings where
  defaultPlatform : Option String := none
  output : OutputSettings := {}
  logging : LogSettings := {}
  deriving DecidableEq, Repr, Inhabited

def OutputSettings.layout (o : OutputSettings) : ElementsLayout := ⟨o.elementName, o.symbolPrefix⟩

end StudyPlan
