import CdnPublish.Url.Basic

/-!
# Reading URLs

`Url.parse` reads an absolute URL, `Url.join` a link as seen from a base URL. Reading is lenient:
blanks around a link and line breaks in it vanish, a URL of the web may be written with backslashes
or with too few slashes, and a path is put into canonical form while it is read.
-/

namespace CdnPublish.Url

/-- A link without control characters and blanks at its ends and without line breaks and tabs. -/
def clean (link : List Char) : List Char :=
  let isMargin := fun character : Char => character.toNat ≤ 0x20
  let isBreak := fun character : Char => character = '\t' || character = '\n' || character = '\r'
  (((link.dropWhile isMargin).reverse.dropWhile isMargin).reverse).filter fun character =>
    !isBreak character

/-- Whether a character may stand in a scheme. -/
def isSchemeChar (character : Char) : Bool :=
  character.isAlphanum || character = '+' || character = '-' || character = '.'

/-- The scheme at the start of a link, in lower case, and what follows its colon. -/
def cutScheme? (link : List Char) : Option (List Char × List Char) :=
  match link with
  | [] => none
  | first :: _ =>
    if first.isAlpha then
      match link.dropWhile isSchemeChar with
      | ':' :: rest => some ((link.takeWhile isSchemeChar).map Char.toLower, rest)
      | _ => none
    else none

/-- A slash, or what is taken for one. -/
def isSlash (character : Char) : Bool :=
  character = '/' || character = '\\'

/-- Whether a character separates the segments of a path. -/
def isSeparator (kind : Kind) (character : Char) : Bool :=
  character = '/' || (kind.isSpecial && character = '\\')

/-- Whether a character ends a path. -/
def isPathEnd (character : Char) : Bool :=
  character = '?' || character = '#'

/-- The query and the fragment that follow a path. -/
def queryAndFragment (kind : Kind) (rest : List Char) : Option (List Char) × Option (List Char) :=
  let fragmentOf := fun text : List Char =>
    match text with
    | '#' :: fragment => some (percentEncode .fragment fragment)
    | _ => none
  match rest with
  | '?' :: query =>
    let part := if kind.isSpecial then Part.specialQuery else Part.query
    (some (percentEncode part (query.takeWhile (· ≠ '#'))), fragmentOf (query.dropWhile (· ≠ '#')))
  | rest => (none, fragmentOf rest)

/-! ### Paths -/

/-- Whether an encoded segment names the directory itself. -/
def isSingleDot (segment : Segment) : Bool :=
  [".", "%2e"].contains (String.ofList (segment.map Char.toLower))

/-- Whether an encoded segment names the directory above. -/
def isDoubleDot (segment : Segment) : Bool :=
  ["..", ".%2e", "%2e.", "%2e%2e"].contains (String.ofList (segment.map Char.toLower))

/-- A letter and a colon, which name a drive in a path of a file. -/
def isDrive : Segment → Bool
  | [letter, ':'] => letter.isAlpha
  | _ => false

/-- A letter and a colon or what is taken for one. -/
def isLooseDrive : Segment → Bool
  | [letter, ':'] => letter.isAlpha
  | [letter, '|'] => letter.isAlpha
  | _ => false

/-- A path without its last segment; a drive is kept. -/
def shorten (kind : Kind) (path : List Segment) : List Segment :=
  match path.getLast? with
  | some last => if kind = .file && isDrive last then path else path.dropLast
  | none => path

/-- A path followed by a proper segment; a drive at its start is written with a colon. -/
def extend (kind : Kind) (path : List Segment) (segment : Segment) : List Segment :=
  match kind, path, segment with
  | .file, [], [letter, '|'] => if letter.isAlpha then [[letter, ':']] else [segment]
  | _, path, segment => path ++ [segment]

/-- A path followed by further segments. A dot at the end leaves an empty segment behind. -/
def follow (kind : Kind) (path : List Segment) : List Segment → List Segment
  | [] => path
  | segment :: rest =>
    if isDoubleDot segment then
      let shorter := shorten kind path
      if rest = [] then shorter ++ [[]] else follow kind shorter rest
    else if isSingleDot segment then
      if rest = [] then path ++ [[]] else follow kind path rest
    else follow kind (extend kind path segment) rest

/-- The path of a file does not start with empty segments. -/
def settle (kind : Kind) (path : List Segment) : List Segment :=
  match kind with
  | .file =>
    match path.dropWhile (· = []) with
    | [] => [[]]
    | first :: others => first :: others
  | _ => path

/-- The segments of a text. -/
def segmentsOf (kind : Kind) (text : List Char) : List Segment :=
  let slashed := text.map fun character => if isSeparator kind character then '/' else character
  (Text.pieces '/' slashed).map (percentEncode .path)

/-- The path that a text leads to from a path. -/
def walk (kind : Kind) (path : List Segment) (text : List Char) : List Segment :=
  settle kind (follow kind path (segmentsOf kind text))

/-- What precedes the query and the fragment, and these two. -/
def cutPath (text : List Char) : List Char × List Char :=
  (text.takeWhile fun character => !isPathEnd character,
    text.dropWhile fun character => !isPathEnd character)

/-- The URL whose path a text leads to from a path; `text` may go on with a query and a fragment. -/
def withPath (scheme : List Char) (authority : Option Authority) (path : List Segment)
    (text : List Char) : Url :=
  let kind := Kind.ofScheme scheme
  let (pathText, rest) := cutPath text
  let (query, fragment) := queryAndFragment kind rest
  ⟨scheme, authority, .segments (walk kind path pathText), query, fragment⟩

/-- The URL whose path is the start of a text. -/
def fromRoot (scheme : List Char) (authority : Option Authority) (text : List Char) : Url :=
  let kind := Kind.ofScheme scheme
  match text with
  | [] =>
    if kind.isSpecial then withPath scheme authority [] []
    else ⟨scheme, authority, .segments [], none, none⟩
  | first :: rest =>
    if isSeparator kind first then withPath scheme authority [] rest
    else if isPathEnd first && !kind.isSpecial then
      let (query, fragment) := queryAndFragment kind text
      ⟨scheme, authority, .segments [], query, fragment⟩
    else withPath scheme authority [] text

/-! ### Authorities -/

/-- Whether a character ends an authority. -/
def isAuthorityEnd (kind : Kind) (character : Char) : Bool :=
  isSeparator kind character || isPathEnd character

/-- What stands before and after the last at sign. -/
def cutCredentials? (text : List Char) : Option (List Char × List Char) :=
  if text.contains '@' then
    let host := (text.reverse.takeWhile (· ≠ '@')).reverse
    some (text.take (text.length - host.length - 1), host)
  else none

/-- The user name and the password before an at sign, encoded. -/
def userOf (credentials : List Char) : List Char × List Char :=
  (percentEncode .userinfo (credentials.takeWhile (· ≠ ':')),
    percentEncode .userinfo ((credentials.dropWhile (· ≠ ':')).drop 1))

/-- What stands before and after the colon that ends a host; a colon in brackets does not. -/
def cutHost (inBrackets : Bool) : List Char → List Char × List Char
  | [] => ([], [])
  | character :: rest =>
    if character = ':' && !inBrackets then ([], character :: rest)
    else
      let inside := character = '[' || (inBrackets && character ≠ ']')
      let (host, after) := cutHost inside rest
      (character :: host, after)

/-- The port behind a host and what is left of the text; the implied port is not kept. -/
def portOf (scheme : List Char) : List Char → Except Fault (Option Nat × List Char)
  | ':' :: text =>
    let digits := text.takeWhile Char.isDigit
    let rest := text.dropWhile Char.isDigit
    let port := ofDigits 10 (digits.filterMap hexDigitValue?)
    if 65535 < port then .error .invalidPort
    else
      match rest with
      | [] => .ok (if digits = [] || some port = defaultPort? scheme then none else some port, rest)
      | '\\' :: _ =>
        .ok (if digits = [] || some port = defaultPort? scheme then none else some port, rest)
      | _ => .error .invalidPort
  | text => .ok (none, text)

/-- The host at the start of an authority. -/
def hostOf (kind : Kind) (text after : List Char) : Except Fault Host :=
  match kind with
  | .other => do
    let host ← Host.parseVerbatim text
    if host = .empty && after.head? = some ':' then throw .emptyHost
    return host
  | _ => if text = [] then .error .emptyHost else Host.parse text

/-- The URL that goes on with an authority. -/
def afterSlashes (scheme text : List Char) : Except Fault Url := do
  let kind := Kind.ofScheme scheme
  let authorityText := text.takeWhile fun character => !isAuthorityEnd kind character
  let after := text.dropWhile fun character => !isAuthorityEnd kind character
  let (credentials, hostText) := (cutCredentials? authorityText).getD ([], authorityText)
  if authorityText.contains '@' && credentials = [] && hostText = [] && after ≠ [] then
    throw .emptyHost
  let (username, password) := userOf credentials
  let (hostName, portText) := cutHost false hostText
  let host ← hostOf kind hostName portText
  let (port, left) ← portOf scheme portText
  if host = .empty && (username ≠ [] || password ≠ []) then throw .emptyHost
  return fromRoot scheme (some ⟨username, password, host, port⟩) (left ++ after)

/-! ### Files -/

/-- The authority of a file without a host. -/
def noHost : Authority := ⟨[], [], .empty, none⟩

/-- Whether a text starts with a segment that names a drive. -/
def startsWithDrive (text : List Char) : Bool :=
  isLooseDrive (text.take 2) &&
    match text.drop 2 with
    | [] => true
    | next :: _ => isSlash next || isPathEnd next

/-- The URL of a file behind `file://`. -/
def fileWithHost (scheme text : List Char) : Except Fault Url := do
  let isEnd := fun character : Char => isSlash character || isPathEnd character
  let hostText := text.takeWhile fun character => !isEnd character
  let rest := text.dropWhile fun character => !isEnd character
  if isLooseDrive hostText then
    return withPath scheme (some noHost) [] text
  else if hostText = [] then
    return fromRoot scheme (some noHost) rest
  else
    let host ← Host.parse hostText
    let named := if host = .domain "localhost".toList then Host.empty else host
    let url := fromRoot scheme (some ⟨[], [], named, none⟩) rest
    let startsAtDrive := (url.segments.head?.map isDrive).getD false
    return if startsAtDrive then { url with authority := some noHost } else url

/-- The URL of a file behind a single slash, as seen from another file. -/
def fileFromRoot (scheme : List Char) (base : Option Url) (text : List Char) : Url :=
  match base with
  | none => withPath scheme (some noHost) [] text
  | some base =>
    if startsWithDrive text then withPath scheme (some noHost) [] text
    else
      match base.segments with
      | first :: _ =>
        if isDrive first then withPath scheme (some noHost) [first] text
        else withPath scheme base.authority [] text
      | [] => withPath scheme base.authority [] text

/-! ### Links -/

/-- The URL that a query or a fragment of its own makes of a base. -/
def withQuery (base : Url) (text : List Char) : Url :=
  let (query, fragment) := queryAndFragment base.kind text
  { base with query, fragment }

/-- The URL that a fragment makes of a base. -/
def withFragment (base : Url) (text : List Char) : Url :=
  { base with fragment := (queryAndFragment base.kind text).2 }

/-- A link to a file, as seen from another file if there is one. -/
def fileLink (scheme : List Char) (base : Option Url) (text : List Char) : Except Fault Url :=
  match text, base with
  | first :: second :: rest, _ =>
    if isSlash first && isSlash second then fileWithHost scheme rest
    else if isSlash first then .ok (fileFromRoot scheme base (second :: rest))
    else
      match base with
      | none => .ok (withPath scheme (some noHost) [] text)
      | some base =>
        if first = '?' then .ok (withQuery base text)
        else if first = '#' then .ok (withFragment base text)
        else if startsWithDrive text then .ok (withPath scheme (some noHost) [] text)
        else .ok (withPath scheme base.authority (shorten .file base.segments) text)
  | [first], base =>
    if isSlash first then .ok (fileFromRoot scheme base [])
    else
      match base with
      | none => .ok (withPath scheme (some noHost) [] text)
      | some base =>
        if first = '?' then .ok (withQuery base text)
        else if first = '#' then .ok (withFragment base text)
        else .ok (withPath scheme base.authority (shorten .file base.segments) text)
  | [], none => .ok (withPath scheme (some noHost) [] [])
  | [], some base => .ok { base with fragment := none }

/-- A link without a scheme of its own, as seen from a base whose path has a hierarchy. -/
def relativeLink (base : Url) (text : List Char) : Except Fault Url :=
  match text with
  | [] => .ok { base with fragment := none }
  | '?' :: _ => .ok (withQuery base text)
  | '#' :: _ => .ok (withFragment base text)
  | first :: rest =>
    if isSlash first then
      match rest with
      | second :: others =>
        if isSlash second then
          if first = '/' && second = '/' then afterSlashes base.scheme others
          else afterSlashes base.scheme (others.dropWhile isSlash)
        else .ok (withPath base.scheme base.authority [] rest)
      | [] => .ok (withPath base.scheme base.authority [] rest)
    else .ok (withPath base.scheme base.authority base.segments.dropLast text)

/-- The URL behind a scheme that the grammar does not know. -/
def otherLink (scheme text : List Char) : Except Fault Url :=
  match text with
  | '/' :: '/' :: rest => afterSlashes scheme rest
  | '/' :: rest => .ok (withPath scheme none [] rest)
  | text =>
    let (pathText, rest) := cutPath text
    let (query, fragment) := queryAndFragment .other rest
    .ok ⟨scheme, none, .verbatim (percentEncode .hostText pathText), query, fragment⟩

/-- The URL behind a scheme. -/
def afterScheme (base : Option Url) (scheme text : List Char) : Except Fault Url :=
  match Kind.ofScheme scheme with
  | .file => fileLink scheme (base.filter fun base => base.kind = .file) text
  | .other => otherLink scheme text
  | .web =>
    let slashes := (text.takeWhile isSlash).length
    match base.filter fun base => base.scheme = scheme with
    | some base =>
      if slashes < 2 then relativeLink base text else afterSlashes scheme (text.dropWhile isSlash)
    | none => afterSlashes scheme (text.dropWhile isSlash)

/-- The URL that a text stands for. -/
def parseChars (text : List Char) : Except Fault Url :=
  match cutScheme? (clean text) with
  | some (scheme, rest) => afterScheme none scheme rest
  | none => .error .relativeWithoutBase

/-- The URL that a link stands for, as seen from a base. -/
def joinChars (base : Url) (link : List Char) : Except Fault Url :=
  let cleaned := clean link
  match cutScheme? cleaned with
  | some (scheme, rest) => afterScheme (some base) scheme rest
  | none =>
    if cleaned.head? = some '#' then .ok (withFragment base cleaned)
    else if base.isVerbatim then .error .relativeToOpaque
    else if base.kind = .file then fileLink base.scheme (some base) cleaned
    else relativeLink base cleaned

/-- The URL that a text stands for. -/
def parse (text : String) : Except Fault Url :=
  parseChars text.toList

/-- The URL that a link stands for, as seen from a base. -/
def join (base : Url) (link : String) : Except Fault Url :=
  joinChars base link.toList

end CdnPublish.Url
