import DiffSieve.Text.Blank

/-!
# Dialects of source files

What a line of a file may mean depends on the language of the file, and that is told by the
suffix of its path.  Two families of languages matter: the scripts of the web, and Go.
-/

namespace DiffSieve

/-- The suffix of a path: the last dot of its last component and what follows, provided that
something stands before the dot and something after it. -/
def pathSuffix (path : Text) : Text :=
  let components := (path.splitOn '/').filter fun c => !c.isEmpty && c != ['.']
  match components.getLast? with
  | none => []
  | some name =>
    let ending := Text.afterLast '.' name
    let stem := name.length - ending.length - 1
    if ending.isEmpty || ending.length = name.length || stem = 0 then [] else '.' :: ending

/-- A family of languages. -/
inductive Dialect where
  | script
  | go
  | other
  deriving DecidableEq

namespace Dialect

/-- The suffixes of scripts. -/
def scriptSuffixes : List Text :=
  [".ts", ".tsx", ".js", ".jsx", ".mjs", ".cjs", ".vue", ".svelte"].map String.toList

/-- The dialect of the file at a path.  Capital letters in the suffix do not matter, and letters
beyond ASCII stand in no suffix that is known. -/
def ofPath (path : Text) : Dialect :=
  let suffix := (pathSuffix path).map Char.toLower
  if scriptSuffixes.contains suffix then script
  else if suffix = ".go".toList then go
  else other

/-- Whether the order of imports is free. -/
def importsMayMove : Dialect → Bool
  | script => true
  | go => true
  | other => false

/-- Whether a statement may be wrapped over several lines at will. -/
def linesMayWrap : Dialect → Bool
  | script => true
  | go => false
  | other => false

/-- Whether `word` stands at the head of a text and is followed by white space. -/
def opensWithWord (word text : Text) : Bool :=
  match Text.after? word text with
  | some (c :: _) => Text.isBlank c
  | _ => false

/-- Whether `word` stands somewhere in a text and is followed by white space. -/
def holdsWord (word : Text) : Text → Bool
  | [] => false
  | c :: rest => opensWithWord word (c :: rest) || holdsWord word rest

/-- Whether a line imports something.  In Go the lines inside a parenthesised import are bare
paths, which may have a name before them. -/
def isImport (dialect : Dialect) (line : Text) : Bool :=
  let line := Text.trim line
  match dialect with
  | script =>
    opensWithWord "import".toList line || opensWithWord "export".toList line ||
      Text.holds "require(".toList line || holdsWord "from".toList line
  | go => Text.opensWithAny ["import ".toList, ['\x22'], ['\x60'], ['.']] line
  | other => false

/-- Whether a line is a comment in one of the usual styles, or the middle of one. -/
def isCommentLine (line : Text) : Bool :=
  Text.opensWithAny ["//".toList, "/*".toList, ['*'], ['#'], "--".toList] (Text.trim line)

end Dialect
end DiffSieve
