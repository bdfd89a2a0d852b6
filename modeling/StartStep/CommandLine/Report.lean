import StartStep.CommandLine.OptionValue
import StartStep.Explain
import StartStep.Record
import StartStep.Resolver
import StartStep.Text.Lines

/-!
# What the command line prints

A plan or a list of elements, as text under headings or as indented JSON. The
JSON form of a plan holds all its values, also those that the text form can
withhold.
-/

namespace StartStep.CommandLine

def heading (title : String) : String := "▸ " ++ title

/-- An element in a list: its text, its label, and its properties, if it has any. -/
def describe (e : Element) : String :=
  let properties := e.properties.entries.map fun p => p.1 ++ "=" ++ p.2.text
  let braced :=
    if properties.isEmpty then "" else " \x7b" ++ ", ".intercalate properties ++ "\x7d"
  e.text ++ " " ++ e.label ++ braced

/-- The output for a plan. -/
def planOutput (format : OutputFormat) (redact : Bool) (x : Explanation) : String :=
  match format with
  | .json => x.json.indented ++ "\n"
  | .text => Text.ofLines (heading "Plan" :: (Text.toLines (x.render redact)).map ("  " ++ ·))

/-- The resolution of a step, as JSON. -/
def resolutionJson (step : String) (path : AccessPath) (elements : List Element) : Json :=
  .object [("step", .string step), ("path", path.json),
    ("elements", .array (elements.map Element.json))]

/-- The output for a resolution. -/
def resolutionOutput (format : OutputFormat) (step : String) (path : AccessPath)
    (elements : List Element) : String :=
  match format with
  | .json => (resolutionJson step path elements).indented ++ "\n"
  | .text =>
      Text.ofLines ([heading "Step", "  step: " ++ step, "  path: " ++ path.text,
        heading ("Elements (" ++ toString elements.length ++ ")")] ++
          elements.map fun e => "  - " ++ describe e)

end StartStep.CommandLine
