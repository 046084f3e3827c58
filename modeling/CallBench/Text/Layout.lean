/-
# Layout of values

A value of a structured type is shown as its name and its fields, either on one
line or spread over several. In the spread form every item stands on a line of
its own, four spaces deeper than what holds it, and ends in a comma; a record that
keeps some of its fields to itself ends in two dots in both forms.
-/

import CallBench.Text.Quoted

namespace CallBench.Text

/-- The shape of a value that is to be shown. -/
inductive Layout where
  /-- Text that needs no further layout, such as a number. -/
  | atom (text : String)
  /-- A named record. `hidden` says that it has fields which are not shown. -/
  | record (name : String) (fields : List (String × Layout)) (hidden : Bool)
  /-- Unnamed or named positional values in parentheses. -/
  | tuple (name : String) (items : List Layout)
  /-- Values in square brackets. -/
  | list (items : List Layout)

namespace Layout

/-- A text, shown between quotes. -/
def text (value : String) : Layout :=
  .atom (quoted value)

/-- A number, shown in decimal. -/
def number (value : Nat) : Layout :=
  .atom (toString value)

/-- A list of texts. -/
def texts (values : List String) : Layout :=
  .list (values.map text)

mutual

/-- The layout on one line. -/
def inline : Layout → String
  | .atom text => text
  | .record name fields hidden =>
      let shown := inlineFields fields ++ if hidden then [".."] else []
      if shown.isEmpty then name
      else name ++ " \x7b " ++ ", ".intercalate shown ++ " \x7d"
  | .tuple name items => name ++ "(" ++ ", ".intercalate (inlineAll items) ++ ")"
  | .list items => "[" ++ ", ".intercalate (inlineAll items) ++ "]"

/-- Each layout on one line. -/
def inlineAll : List Layout → List String
  | [] => []
  | item :: rest => inline item :: inlineAll rest

/-- Each field with its name, on one line. -/
def inlineFields : List (String × Layout) → List String
  | [] => []
  | (name, value) :: rest => (name ++ ": " ++ inline value) :: inlineFields rest

end

/-- One line moved to the right by one level. -/
def indent (line : String) : String :=
  "    " ++ line

/-- A text before the first of some lines. -/
def before (start : String) : List String → List String
  | [] => [start]
  | line :: rest => (start ++ line) :: rest

/-- A text after the last of some lines. -/
def after (finish : String) : List String → List String
  | [] => [finish]
  | [line] => [line ++ finish]
  | line :: rest => line :: after finish rest

mutual

/-- The lines of the spread layout. -/
def lines : Layout → List String
  | .atom text => [text]
  | .record name fields hidden =>
      let shown := fieldLines fields ++ if hidden then [".."] else []
      if shown.isEmpty then [name]
      else [name ++ " \x7b"] ++ shown.map indent ++ ["\x7d"]
  | .tuple name items =>
      if items.isEmpty then [name ++ "()"]
      else [name ++ "("] ++ (itemLines items).map indent ++ [")"]
  | .list items =>
      if items.isEmpty then ["[]"]
      else ["["] ++ (itemLines items).map indent ++ ["]"]

/-- The lines of some items, each item followed by a comma. -/
def itemLines : List Layout → List String
  | [] => []
  | item :: rest => after "," (lines item) ++ itemLines rest

/-- The lines of some fields, each field followed by a comma. -/
def fieldLines : List (String × Layout) → List String
  | [] => []
  | (name, value) :: rest => after "," (before (name ++ ": ") (lines value)) ++ fieldLines rest

end

/-- The spread layout. -/
def spread (layout : Layout) : String :=
  "\n".intercalate layout.lines

/-- The layout in the form asked for. -/
def render (pretty : Bool) (layout : Layout) : String :=
  if pretty then layout.spread else layout.inline

end Layout

end CallBench.Text
