import DiffSieve.Noise.Category

/-!
# Switches of the command line

Every switch has a long spelling and some have a short one.  A long spelling may be cut short as
long as one switch only is left; several short ones may be run together.
-/

namespace DiffSieve

/-- A switch of the command line. -/
inductive Switch where
  | help
  | output
  | all
  | category (category : Category)
  | language
  | exclude
  | ignoreFile
  | stats
  | listChanges
  | quiet
  deriving DecidableEq

namespace Switch

/-- The switches in the order in which they are listed. -/
def listed : List Switch :=
  [help, output, all] ++ Category.all.map category ++
    [language, exclude, ignoreFile, stats, listChanges, quiet]

/-- The letter of the short spelling. -/
def short? : Switch → Option Char
  | help => some 'h'
  | output => some 'o'
  | all => some 'a'
  | exclude => some 'x'
  | stats => some 's'
  | listChanges => some 'l'
  | quiet => some 'q'
  | category _ | language | ignoreFile => none

/-- The long spelling. -/
def long : Switch → Text
  | help => "--help".toList
  | output => "--output".toList
  | all => "--all".toList
  | category .whitespace => "--whitespace".toList
  | category .comment => "--comments".toList
  | category .quote => "--quotes".toList
  | category .trailingComma => "--trailing-commas".toList
  | category .semicolon => "--semicolons".toList
  | category .importOrder => "--imports".toList
  | category .lineWrap => "--line-wrap".toList
  | language => "--language".toList
  | exclude => "--exclude".toList
  | ignoreFile => "--ignore-file".toList
  | stats => "--stats".toList
  | listChanges => "--list-changes".toList
  | quiet => "--quiet".toList

/-- Whether a value belongs to the switch. -/
def takesValue : Switch → Bool
  | output | language | exclude | ignoreFile => true
  | help | all | category _ | stats | listChanges | quiet => false

/-- Both spellings, as messages name the switch. -/
def spelling (switch : Switch) : Text :=
  match switch.short? with
  | some letter => '-' :: letter :: '/' :: switch.long
  | none => switch.long

/-- The switch with the given letter. -/
def ofLetter? (letter : Char) : Option Switch :=
  listed.find? (·.short? = some letter)

/-- The switch with the given long spelling. -/
def ofLong? (word : Text) : Option Switch :=
  listed.find? (·.long = word)

/-- The switches whose long spelling opens with the given text. -/
def abbreviated (word : Text) : List Switch :=
  listed.filter (word.isPrefixOf ·.long)

end Switch
end DiffSieve
