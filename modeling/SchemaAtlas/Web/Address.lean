import SchemaAtlas.Text.Blank
import SchemaAtlas.Web.Host
/-!
# Addresses

An address names a scheme, mostly a host, and a path. Reading one brings it into its
usual form: the scheme and the host in lower case, the port left out if it is the
scheme's own, dot segments resolved and characters escaped where they have to be. What
an address says after its path plays no part here, since an endpoint's path is always
continued and that drops it.
-/

namespace SchemaAtlas.Web

/-- Who is asked, and as whom. -/
structure Authority where
  user : String := ""
  password : String := ""
  host : Host
  port : Option Nat := none
deriving DecidableEq, Inhabited, Repr

/-- The path of an address: segments, each after a slash, or a text that has none. -/
inductive AddressPath
  | segments (names : List String)
  | plain (text : String)
deriving DecidableEq, Inhabited, Repr

/-- An address. -/
structure Address where
  scheme : String
  authority : Option Authority
  path : AddressPath
deriving DecidableEq, Inhabited, Repr

/-- The port of a well-known scheme. -/
def usualPort? (scheme : String) : Option Nat :=
  [("http", 80), ("https", 443), ("ws", 80), ("wss", 443), ("ftp", 21)].lookup scheme

/-- The schemes whose addresses have a host and a path of segments. -/
def isSpecial (scheme : String) : Bool := (usualPort? scheme).isSome || scheme == "file"

/-! ## Paths -/

def isSlash (special : Bool) (c : Char) : Bool := c = '/' || (special && c = '\\')

/-- Where the path ends. -/
def endsPath (c : Char) : Bool := c = '?' || c = '#'

/-- Cuts a path into its segments. -/
def cutSegments (special : Bool) : List Char → List (List Char)
  | [] => [[]]
  | c :: cs =>
    if isSlash special c then [] :: cutSegments special cs
    else match cutSegments special cs with
      | [] => [[c]]
      | p :: ps => (c :: p) :: ps

/-- A point, or its escape. -/
def eatDot : List Char → Option (List Char)
  | '.' :: r => some r
  | '%' :: '2' :: e :: r => if e = 'e' || e = 'E' then some r else none
  | _ => none

/-- Whether a segment is the folder itself. -/
def isDot (cs : List Char) : Bool := eatDot cs = some []

/-- Whether a segment is the folder above. -/
def isDoubleDot (cs : List Char) : Bool := (eatDot cs).bind eatDot = some []

/-- Whether a segment names a drive: a letter and a colon, or a bar in its place. -/
def isDrive : List Char → Bool
  | [letter, mark] => letter.isAlpha && (mark = ':' || mark = '|')
  | _ => false

/-- The segments of a path, and whether the first of them was given as a drive. -/
structure Route where
  names : List String
  onDrive : Bool := false
deriving DecidableEq, Inhabited, Repr

/-- Splits a drive off a segment that says more. -/
def splitDrive : List Char → Option (String × List Char)
  | letter :: ':' :: c :: cs =>
    if letter.isAlpha then some (String.ofList [letter, ':'], c :: cs) else none
  | _ => none

/-- Adds a segment to those above it, which are in reverse. The folder above a drive is
the drive itself, and a dot segment at the end leaves an open folder. -/
def enter (above : List String) (s : List Char) (isLast : Bool) : List String :=
  let opened : List String := if isLast then [""] else []
  if isDoubleDot s then
    match above with
    | d :: up => opened ++ if isDrive d.toList then d :: up else up
    | [] => opened
  else if isDot s then opened ++ above
  else String.ofList s :: above

/-- Resolves dot segments. -/
def resolve (above : List String) : List (List Char) → List String
  | [] => above.reverse
  | s :: rest => resolve (enter above s rest.isEmpty) rest

/-- Resolves the segments of a file's path. A drive at the start is written with a colon,
and stands apart from what follows it. -/
def resolveFile (above : List String) : List (List Char) → Route
  | [] => ⟨above.reverse, false⟩
  | s :: rest =>
    if above.isEmpty && isDrive s then ⟨resolve [String.ofList (s.take 1 ++ [':'])] rest, true⟩
    else match if above.isEmpty then splitDrive s else none with
      | some (drive, s) => ⟨resolve [drive] (s :: rest), false⟩
      | none => resolveFile (enter above s rest.isEmpty) rest

/-- Drops empty segments in front of others. -/
def dropEmpty : List String → List String
  | "" :: s :: r => dropEmpty (s :: r)
  | r => r

/-- Resolves the segments of a path. A file's path starts with one slash only. -/
def resolveFor (scheme : String) (segments : List (List Char)) : Route :=
  if scheme == "file" then
    let r := resolveFile [] segments
    { r with names := dropEmpty r.names }
  else ⟨resolve [] segments, false⟩

/-- Reads the segments of a path that stand after its first slash. -/
def readSegments (scheme : String) (cs : List Char) : Route :=
  resolveFor scheme
    ((cutSegments (isSpecial scheme) (cs.takeWhile (!endsPath ·))).map (Percent.encode Percent.inPath))

/-- Reads the path that follows the authority. -/
def readPath (scheme : String) : List Char → Route
  | [] => if isSpecial scheme then ⟨[""], false⟩ else ⟨[], false⟩
  | c :: cs =>
    if isSlash (isSpecial scheme) c then readSegments scheme cs
    else if endsPath c && !isSpecial scheme then ⟨[], false⟩
    else readSegments scheme (c :: cs)

/-! ## Authorities -/

/-- Where the authority ends. -/
def endsAuthority (special : Bool) (c : Char) : Bool := isSlash special c || endsPath c

/-- Splits at the last `@`, if there is one. -/
def splitUserInfo (cs : List Char) : Option (List Char) × List Char :=
  let after := (cs.reverse.takeWhile (· ≠ '@')).reverse
  if after.length = cs.length then (none, cs)
  else (some (cs.take (cs.length - after.length - 1)), after)

/-- Splits the host from what follows it: a colon ends it, except in brackets. -/
def splitHost (special : Bool) : (inBrackets : Bool) → List Char → List Char × List Char
  | _, [] => ([], [])
  | inBrackets, c :: cs =>
    if endsAuthority special c || (c = ':' && !inBrackets) then ([], c :: cs)
    else
      let (h, r) := splitHost special (c = '[' || (inBrackets && c ≠ ']')) cs
      (c :: h, r)

/-- Reads a port, which may be left out, and gives what follows it. -/
def readPort (usual : Option Nat) (cs : List Char) : Except AddressError (Option Nat × List Char) :=
  let digits := cs.takeWhile (·.isDigit)
  let rest := cs.dropWhile (·.isDigit)
  let n := Decimal.value 0 digits
  if 65535 < n || rest.head?.any (!endsAuthority true ·) then .error .portNumber
  else .ok (if digits.isEmpty || some n = usual then none else some n, rest)

/-- Reads an authority and gives what follows it. A well-known scheme needs a host, and
so does a port or a user; a bad host is found before a bad port. -/
def readAuthority (scheme : String) (cs : List Char) : Except AddressError (Authority × List Char) := do
  let special := isSpecial scheme
  let (info, _) := splitUserInfo (cs.takeWhile (!endsAuthority special ·))
  let after := match info with
    | some i => cs.drop (i.length + 1)
    | none => cs
  if info = some [] && after.head?.any (endsAuthority special ·) then throw .noHost
  let user := (info.getD []).takeWhile (· ≠ ':')
  let password := ((info.getD []).dropWhile (· ≠ ':')).drop 1
  let (hostText, afterHost) := splitHost special false after
  if special && hostText.isEmpty then throw .noHost
  let host ← Host.read special hostText
  if hostText.isEmpty && afterHost.head? = some ':' then throw .noHost
  let (port, rest) ← match afterHost with
    | ':' :: r => readPort (usualPort? scheme) r
    | _ => pure (none, afterHost)
  if hostText.isEmpty && (!user.isEmpty || !password.isEmpty) then throw .noHost
  let encode (cs : List Char) : String := String.ofList (Percent.encode Percent.inUserInfo cs)
  return ({ user := encode user, password := encode password, host, port }, rest)

/-- Reads the host of a file address, which has neither a port nor a user. The local
machine need not be named. -/
def readFileHost (cs : List Char) : Except AddressError Host :=
  if cs.isEmpty then .ok (.name "")
  else do
    let h ← Host.read true cs
    return if h = .name "localhost" then .name "" else h

/-! ## Addresses -/

/-- Characters that are passed over. -/
def isPassedOver (c : Char) : Bool := c = '\t' || c = '\n' || c = '\r'

/-- Splits the scheme off, in lower case. -/
def splitScheme (cs : List Char) : Option (String × List Char) :=
  let isPart (c : Char) : Bool := c.isAlphanum || c = '+' || c = '-' || c = '.'
  match cs.dropWhile isPart with
  | ':' :: rest =>
    if (cs.head?.map Char.isAlpha).getD false then
      some (String.ofList ((cs.takeWhile isPart).map Char.toLower), rest)
    else none
  | _ => none

namespace Address

/-- An address of a file. A drive is on the local machine, whatever host is named. -/
def ofFile (host : Host) (route : Route) : Address :=
  ⟨"file", some { host := if route.onDrive then .name "" else host }, .segments route.names⟩

/-- Reads what follows the scheme of a file address. What stands after two slashes is
the host, unless it is a drive. -/
def readFile (cs : List Char) : Except AddressError Address :=
  match cs with
  | a :: b :: r =>
    if isSlash true a && isSlash true b then
      let hostText := r.takeWhile (!endsAuthority true ·)
      if isDrive hostText then .ok (ofFile (.name "") (readSegments "file" r))
      else do
        let host ← readFileHost hostText
        return ofFile host (readPath "file" (r.dropWhile (!endsAuthority true ·)))
    else .ok (ofFile (.name "") (readPath "file" cs))
  | _ => .ok (ofFile (.name "") (readPath "file" cs))

/-- Reads what follows the scheme. -/
def readRest (scheme : String) (cs : List Char) : Except AddressError Address :=
  let located (cs : List Char) : Except AddressError Address := do
    let (authority, rest) ← readAuthority scheme cs
    return ⟨scheme, some authority, .segments (readPath scheme rest).names⟩
  if scheme == "file" then readFile cs
  else if isSpecial scheme then located (cs.dropWhile (isSlash true))
  else
    match cs with
    | '/' :: '/' :: r => located r
    | '/' :: r => .ok ⟨scheme, none, .segments (readSegments scheme r).names⟩
    | _ =>
      let path := Percent.encode Percent.everywhere (cs.takeWhile (!endsPath ·))
      .ok ⟨scheme, none, .plain (String.ofList path)⟩

/-- Reads an address. Control characters and spaces around it do not count, nor do tabs
and line ends within. -/
def read (s : String) : Except AddressError Address :=
  let cs := (Text.stripBoth (·.toNat ≤ 0x20) s.toList).filter (!isPassedOver ·)
  match splitScheme cs with
  | none => .error .noScheme
  | some (scheme, rest) => readRest scheme rest

/-- How the authority is written. -/
def authorityText (a : Authority) : String :=
  let info :=
    if a.user.isEmpty && a.password.isEmpty then ""
    else a.user ++ (if a.password.isEmpty then "" else ":" ++ a.password) ++ "@"
  let port := match a.port with
    | some n => ":" ++ Decimal.text n
    | none => ""
  "//" ++ info ++ a.host.text ++ port

/-- How the path is written. -/
def pathText : AddressPath → String
  | .segments names => String.join (names.map ("/" ++ ·))
  | .plain text => text

/-- How the address is written. Without a host, a path that starts with an empty segment
is kept apart from the scheme. -/
def text (a : Address) : String :=
  let front := match a.authority, a.path with
    | some w, _ => authorityText w
    | none, .segments ("" :: _ :: _) => "/."
    | none, _ => ""
  a.scheme ++ ":" ++ front ++ pathText a.path

/-- Whether what is escaped in a text is readable. -/
def isReadable (s : String) : Bool :=
  (Text.ofUtf8? (Percent.decode (Text.bytes s.toList))).isSome

/-- The address without user and password, if they are readable: the user, and without a
user the password. -/
def anonymous (a : Address) : Address :=
  { a with authority := a.authority.map fun w =>
      if isReadable w.user && (!w.user.isEmpty || isReadable w.password) then
        { w with user := "", password := "" }
      else w }

/-- The address as a folder: its path ends with a slash. A path that does not is read
once more with the slash added. -/
def asFolder (a : Address) : Address :=
  match a.path with
  | .plain _ => a
  | .segments names =>
    if names.getLast? = some "" then a
    else { a with path := .segments (resolveFor a.scheme (names.map String.toList ++ [[]])).names }

/-- Puts names in place of the last segment. -/
def continueWith (a : Address) (names : List String) : Except AddressError Address :=
  match a.path with
  | .plain _ => .error .noBase
  | .segments before => .ok { a with path := .segments (before.dropLast ++ names) }

/-- Appends one name as a segment of its own. The names of the folder itself and of the
folder above are not appended, and tabs and line ends do not count. -/
def push (a : Address) (name : String) : Address :=
  match a.path with
  | .plain _ => a
  | .segments before =>
    if name == "." || name == ".." then a
    else
      let kept := name.toList.filter (!isPassedOver ·)
      let names :=
        if kept = ['.'] then before ++ [""]
        else if kept = ['.', '.'] then before.dropLast ++ [""]
        else before ++ [String.ofList (Percent.encode (Percent.inSegment (isSpecial a.scheme)) kept)]
      { a with path := .segments (if a.scheme == "file" then dropEmpty names else names) }

end Address
end SchemaAtlas.Web
