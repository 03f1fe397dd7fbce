import SchemaAtlas.Web.Message
/-!
# Media types

A content type is `type/subtype`, perhaps with parameters. A body is JSON if the
subtype, or the suffix after its last plus sign, says so, in either case of letters.
-/

namespace SchemaAtlas.Web.MediaType

/-- The characters of names. -/
def isToken (c : Char) : Bool :=
  c.isAlphanum ||
    ['!', '#', '$', '%', '&', Char.ofNat 39, '*', '+', '-', '.', '^', '_', '`', '|', '~'].contains c

/-- Reads to the closing quote; at least one character stands before it. -/
def eatQuoted : (any : Bool) → List Char → Option (List Char)
  | _, [] => none
  | any, c :: cs =>
    if c = '"' && any then some cs
    else if 31 < c.toNat && c.toNat ≠ 127 then eatQuoted true cs
    else none

/-- Whether parameters are well formed. Each is a name, an equals sign and a value,
which may be quoted; semicolons stand between them. The fuel bounds their number; the
length of the text is enough. -/
def areParameters : (fuel : Nat) → List Char → Bool
  | 0, _ => false
  | fuel + 1, cs =>
    match cs.dropWhile (· = ' ') with
    | [] => true
    | cs =>
      match cs.takeWhile isToken, cs.dropWhile isToken with
      | _ :: _, '=' :: '"' :: r =>
        match (eatQuoted false r).map (·.dropWhile (· = ' ')) with
        | some [] => true
        | some (';' :: r) => areParameters fuel r
        | _ => false
      | _ :: _, '=' :: r =>
        match r.takeWhile isToken, r.dropWhile isToken with
        | _, [] => true
        | _ :: _, ';' :: r => areParameters fuel r
        | _, _ => false
      | _, _ => false

/-- Splits at the last plus sign that is not at the start. -/
def splitSuffix (cs : List Char) : List Char × Option (List Char) :=
  let after := (cs.reverse.takeWhile (· ≠ '+')).reverse
  let before := cs.take (cs.length - after.length - 1)
  if after.length = cs.length || before.isEmpty then (cs, none) else (before, some after)

/-- Whether a content type says that the body is JSON. -/
def isJson (s : String) : Bool :=
  let cs := s.toList.map Char.toLower
  isReadableHeader s &&
    match cs.takeWhile isToken, cs.dropWhile isToken with
    | _ :: _, '/' :: r =>
      let (subtype, suffix) := splitSuffix (r.takeWhile isToken)
      (subtype == ['j', 's', 'o', 'n'] || suffix == some ['j', 's', 'o', 'n']) &&
        match r.dropWhile isToken with
        | [] => true
        | c :: ps => c = ';' && areParameters (ps.length + 1) ps
    | _, _ => false

end SchemaAtlas.Web.MediaType
