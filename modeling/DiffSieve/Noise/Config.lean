import DiffSieve.Noise.Category

/-!
# Configurations

Which categories of noise are to be removed.  A category does not influence another one, so a
configuration is a choice for each of them; nothing is removed unless it is asked for.
-/

namespace DiffSieve

/-- The categories to be removed, and a hint at the language, which changes nothing. -/
structure Config where
  whitespace : Bool := false
  comment : Bool := false
  quote : Bool := false
  trailingComma : Bool := false
  semicolon : Bool := false
  importOrder : Bool := false
  lineWrap : Bool := false
  language : Option Text := none
  deriving DecidableEq

namespace Config

/-- Whether a category is to be removed. -/
def ignores (config : Config) : Category → Bool
  | .whitespace => config.whitespace
  | .comment => config.comment
  | .quote => config.quote
  | .trailingComma => config.trailingComma
  | .semicolon => config.semicolon
  | .importOrder => config.importOrder
  | .lineWrap => config.lineWrap

/-- The choice of the categories that satisfy `p`. -/
def ofPredicate (p : Category → Bool) (language : Option Text) : Config where
  whitespace := p .whitespace
  comment := p .comment
  quote := p .quote
  trailingComma := p .trailingComma
  semicolon := p .semicolon
  importOrder := p .importOrder
  lineWrap := p .lineWrap
  language := language

/-- The choice of every category. -/
def full (language : Option Text) : Config :=
  ofPredicate (fun _ => true) language

/-- The categories to be removed, in the order of reports. -/
def categories (config : Config) : List Category :=
  Category.all.filter config.ignores

/-- The questions a configuration answers, which can be asked for by name like its options. -/
def questions : List Text :=
  ["all_enabled", "is_enabled", "enabled_categories"].map String.toList

/-- The names between double underscores that stand for what every record of options carries with
it: its kind, its members, and how it is made, compared, shown and stored. -/
def reserved : List Text :=
  let words := ["annotations", "class", "dataclass_fields", "dataclass_params", "delattr", "dict",
    "dir", "doc", "eq", "format", "ge", "getattribute", "getstate", "gt", "hash", "init",
    "init_subclass", "le", "lt", "match_args", "module", "ne", "new", "reduce", "reduce_ex",
    "repr", "setattr", "sizeof", "str", "subclasshook"]
  words.map fun word => "__".toList ++ word.toList ++ "__".toList

/-- Whether the option of the given name is set.  The hint is set if it is not empty; a name that
is no option is not set, unless it names a question or is reserved. -/
def isEnabled (config : Config) (option : Text) : Bool :=
  match Category.ofOption? option with
  | some category => config.ignores category
  | none =>
    if option = "language".toList then config.language.any (!·.isEmpty)
    else questions.contains option || reserved.contains option

@[simp] theorem ignores_ofPredicate (p : Category → Bool) (language : Option Text)
    (category : Category) : (ofPredicate p language).ignores category = p category := by
  cases category <;> rfl

theorem mem_categories {config : Config} {category : Category} :
    category ∈ config.categories ↔ config.ignores category = true := by
  simp [categories, Category.mem_all]

end Config
end DiffSieve
