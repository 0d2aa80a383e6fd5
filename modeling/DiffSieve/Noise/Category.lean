import DiffSieve.Text.Basic

/-!
# Categories of formatting noise

The seven ways in which a change may leave the meaning of a program alone, in the order in which
they are reported.  Each has a name for reports and an option for configurations.
-/

namespace DiffSieve

/-- A way in which a change may be formatting only. -/
inductive Category where
  | whitespace
  | comment
  | quote
  | trailingComma
  | semicolon
  | importOrder
  | lineWrap
  deriving DecidableEq

namespace Category

/-- The categories in the order of reports. -/
def all : List Category :=
  [whitespace, comment, quote, trailingComma, semicolon, importOrder, lineWrap]

/-- The name of a category. -/
def name : Category → Text
  | whitespace => "whitespace".toList
  | comment => "comment".toList
  | quote => "quote".toList
  | trailingComma => "trailing-comma".toList
  | semicolon => "semicolon".toList
  | importOrder => "import".toList
  | lineWrap => "line-wrap".toList

/-- The category with the given name. -/
def ofName? (name : Text) : Option Category :=
  all.find? (·.name = name)

/-- The configuration option that stands for a category. -/
def option : Category → Text
  | whitespace => "ignore_whitespace".toList
  | comment => "ignore_comments".toList
  | quote => "ignore_quotes".toList
  | trailingComma => "ignore_trailing_commas".toList
  | semicolon => "ignore_optional_semicolons".toList
  | importOrder => "ignore_import_reordering".toList
  | lineWrap => "ignore_line_wrapping".toList

/-- The category that a configuration option stands for. -/
def ofOption? (option : Text) : Option Category :=
  all.find? (·.option = option)

/-- What a report says of a category. -/
def description : Category → Text
  | whitespace => "Detected whitespace-only changes".toList
  | comment => "Detected comment-only changes".toList
  | quote => "Detected quote-style-only changes".toList
  | trailingComma => "Detected trailing-comma-only changes".toList
  | semicolon => "Detected semicolon-only changes".toList
  | importOrder => "Detected import reordering only".toList
  | lineWrap => "Detected line-wrapping-only changes".toList

theorem mem_all (category : Category) : category ∈ all := by
  cases category <;> decide

end Category

end DiffSieve
