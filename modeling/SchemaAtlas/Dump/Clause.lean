import SchemaAtlas.Document.Basic
import SchemaAtlas.Text.Blank
import SchemaAtlas.Text.Letter
/-!
# The parts of a table statement

Readers for the header of a `CREATE TABLE` statement and for the clauses of its
body: columns, primary keys and foreign keys. Keywords are recognised regardless of
case, any run of blanks separates words, and names may stand in backticks. A clause
of any other kind (indexes, checks) is passed over.
-/

namespace SchemaAtlas.Dump

open Text

/-- Reads one or more blanks. -/
def eatBlanks : List Char → Option (List Char)
  | [] => none
  | c :: cs => if isBlank c then some (cs.dropWhile isBlank) else none

/-- Reads a given character. -/
def eat (c : Char) : List Char → Option (List Char)
  | [] => none
  | x :: xs => if x = c then some xs else none

/-- Passes over a backtick, if there is one. -/
def dropTick : List Char → List Char
  | '`' :: cs => cs
  | cs => cs

/-- Reads a longest run, at least one character, of what satisfies `p`. -/
def eatRun (p : Char → Bool) (cs : List Char) : Option (List Char × List Char) :=
  match cs.takeWhile p with
  | [] => none
  | run => some (run, cs.dropWhile p)

/-- Reads one of the words of a pattern and the blanks after it. -/
def eatWordBlanks (w : List Char) (cs : List Char) : Option (List Char) :=
  eatWord w cs >>= eatBlanks

/-! ## Headers -/

/-- Characters of a table name in a header. The long s and the Kelvin sign count as
the letters they fold to. -/
def isNameChar (c : Char) : Bool :=
  let c := foldCase c
  ('a' ≤ c && c ≤ 'z') || ('0' ≤ c && c ≤ '9') || c == '_' || c == '$'

/-- Passes over `IF NOT EXISTS` and the blanks after it, if they are there. -/
def dropIfNotExists (cs : List Char) : List Char :=
  (eatWordBlanks ['i', 'f'] cs >>= eatWordBlanks ['n', 'o', 't'] >>=
    eatWordBlanks ['e', 'x', 'i', 's', 't', 's']).getD cs

/-- Reads a header `CREATE TABLE name (` up to its parenthesis. -/
def header? (cs : List Char) : Option (List Char × List Char) := do
  let cs ← eatWordBlanks ['c', 'r', 'e', 'a', 't', 'e'] cs
  let cs ← eatWordBlanks ['t', 'a', 'b', 'l', 'e'] cs
  let (name, cs) ← eatRun isNameChar (dropTick (dropIfNotExists cs))
  let cs ← eat '(' ((dropTick cs).dropWhile isBlank)
  return (name, cs)

/-- The first header of a text: the table's name and the text after the parenthesis. -/
def firstHeader? : List Char → Option (List Char × List Char)
  | [] => none
  | c :: cs =>
    match header? (c :: cs) with
    | some r => some r
    | none => firstHeader? cs

/-! ## Clauses -/

/-- What a clause of a table body declares. -/
inductive Clause
  | column (field : Field)
  | foreignKey (key : ForeignKey)
  | primaryKey (columns : List String)
  /-- Nothing that a document holds. -/
  | other
deriving DecidableEq, Repr

/-- The words that start a clause which is no column. -/
def constraintWords : List String :=
  ["PRIMARY", "FOREIGN", "CONSTRAINT", "KEY", "INDEX", "UNIQUE", "FULLTEXT", "SPATIAL", "CHECK"]

/-- Whether a clause, given in upper case, declares a column: its first word, which
ends at a blank or a parenthesis, is not a constraint's. A backtick always starts a
column. -/
def isColumn (upper : List Char) : Bool :=
  upper.head? == some '`' ||
    let first := (upper.dropWhile isBlank).takeWhile (!isBlank ·)
    let word := first.takeWhile (· != '(')
    !word.isEmpty && !constraintWords.contains (String.ofList word)

/-- A column type, in upper case, that makes the column a primary key. -/
def typeIsPrimary (upper : List Char) : Bool :=
  occursIn "PRIMARY KEY".toList upper || occursIn "AUTO_INCREMENT".toList upper

/-- Reads a column: its name, which ends at a blank or a backtick, and its type, which
is the rest. -/
def column? (cs : List Char) : Option Field := do
  let (name, cs) ← eatRun (fun c => c != '`' && !isBlank c) (dropTick cs)
  let type ← eatBlanks (dropTick cs)
  if type.isEmpty then none
  else
    let type := trimChars type
    return ⟨String.ofList name, String.ofList type, typeIsPrimary (upperChars type)⟩

/-- Reads up to the parenthesis that closes a column list; a backtick may come first. -/
def closeList : List Char → Option (List Char)
  | '`' :: cs => eat ')' (cs.dropWhile isBlank)
  | cs => eat ')' cs

/-- Reads a parenthesised column list, the opening parenthesis being read: a text
without backticks and parentheses, trimmed. A list of blanks only reads as the empty
text, a list without any character does not read. -/
def columnList? (cs : List Char) : Option (List Char × List Char) :=
  let start := cs.dropWhile isBlank
  match eatRun (fun c => c != '`' && c != ')') (dropTick start) with
  | some (columns, rest) => (closeList rest).map fun rest => (trimChars columns, rest)
  | none =>
    if start.length < cs.length then (eat ')' (dropTick start)).map fun rest => ([], rest)
    else none

/-- Reads `FOREIGN KEY (columns) REFERENCES table (columns)`. -/
def foreignKeyHere? (cs : List Char) : Option ForeignKey := do
  let cs ← eatWordBlanks ['f', 'o', 'r', 'e', 'i', 'g', 'n'] cs
  let cs ← eatWord ['k', 'e', 'y'] cs
  let cs ← eat '(' (cs.dropWhile isBlank)
  let (field, cs) ← columnList? cs
  let cs ← eatWordBlanks ['r', 'e', 'f', 'e', 'r', 'e', 'n', 'c', 'e', 's'] (cs.dropWhile isBlank)
  let (table, cs) ← eatRun (fun c => c != '`' && c != '(' && !isBlank c) (dropTick cs)
  let cs ← eat '(' ((dropTick cs).dropWhile isBlank)
  let (target, _) ← columnList? cs
  return ⟨String.ofList field, String.ofList table, String.ofList target⟩

/-- The first foreign key of a clause. -/
def foreignKey? : List Char → Option ForeignKey
  | [] => none
  | c :: cs =>
    match foreignKeyHere? (c :: cs) with
    | some k => some k
    | none => foreignKey? cs

/-- The part of a text before its last `)`. -/
def beforeLastParen (cs : List Char) : Option (List Char) :=
  match cs.reverse.dropWhile (· != ')') with
  | [] => none
  | _ :: r => some r.reverse

/-- Cuts a text at every comma. -/
def commaParts : List Char → List (List Char)
  | [] => [[]]
  | c :: cs =>
    if c = ',' then [] :: commaParts cs
    else match commaParts cs with
      | [] => [[c]]
      | p :: ps => (c :: p) :: ps

/-- Reads `PRIMARY KEY (columns)`. The list ends at the last parenthesis of its line. -/
def primaryKeyHere? (cs : List Char) : Option (List String) := do
  let cs ← eatWordBlanks ['p', 'r', 'i', 'm', 'a', 'r', 'y'] cs
  let cs ← eatWord ['k', 'e', 'y'] cs
  let cs ← eat '(' (cs.dropWhile isBlank)
  let columns ← beforeLastParen (cs.takeWhile (· != '\n'))
  return (commaParts columns).map fun c =>
    String.ofList (stripBoth (· == '`') (trimChars c))

/-- Reads a constraint's name in backticks and the blanks after it. -/
def eatTicked (cs : List Char) : Option (List Char) := do
  let cs ← eat '`' cs
  let cs ← eat '`' (cs.dropWhile (· != '`'))
  eatBlanks cs

/-- Reads a constraint's name, up to the next blank, and the blanks after it. -/
def eatPlain (cs : List Char) : Option (List Char) := do
  let (_, cs) ← eatRun (!isBlank ·) cs
  eatBlanks cs

/-- Reads a primary key clause, which may start with `CONSTRAINT name`. -/
def primaryKey? (cs : List Char) : Option (List String) :=
  match eatWordBlanks ['c', 'o', 'n', 's', 't', 'r', 'a', 'i', 'n', 't'] cs with
  | none => primaryKeyHere? cs
  | some cs => (eatTicked cs >>= primaryKeyHere?).or (eatPlain cs >>= primaryKeyHere?)

/-- Reads a clause: a column if its first word says so, else a foreign key if it
speaks of one, else a primary key. A clause that fails to read as its kind declares
nothing. -/
def Clause.read (cs : List Char) : Clause :=
  let upper := upperChars cs
  if isColumn upper then ((column? cs).map Clause.column).getD .other
  else if occursIn "FOREIGN KEY".toList upper then
    ((foreignKey? cs).map Clause.foreignKey).getD .other
  else ((primaryKey? cs).map Clause.primaryKey).getD .other

end SchemaAtlas.Dump
