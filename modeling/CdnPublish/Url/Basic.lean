import CdnPublish.Url.Host

/-!
# URLs

A URL in parts. The parts hold their encoded texts, so writing a URL only puts them together. The
path is a list of segments, except in a URL of a scheme that names things without a hierarchy, whose
path is kept as it is.
-/

namespace CdnPublish

namespace Url

/-- One segment of a path, encoded. -/
abbrev Segment := List Char

/-- A path. -/
inductive Path where
  /-- Segments, each with a slash before it. -/
  | segments (parts : List Segment)
  /-- A path without a hierarchy. -/
  | verbatim (text : List Char)
  deriving DecidableEq, Repr

/-- How the rules of the URL grammar treat a scheme. -/
inductive Kind where
  /-- A scheme of the web, which always has a host. -/
  | web
  | file
  | other
  deriving DecidableEq, Repr

/-- The treatment of a scheme. -/
def Kind.ofScheme (scheme : List Char) : Kind :=
  if ["http", "https", "ws", "wss", "ftp"].contains (String.ofList scheme) then .web
  else if scheme = "file".toList then .file
  else .other

/-- Whether a scheme is one of those that the grammar knows. -/
def Kind.isSpecial : Kind → Bool
  | .web => true
  | .file => true
  | .other => false

/-- The port that a scheme implies. -/
def defaultPort? (scheme : List Char) : Option Nat :=
  match String.ofList scheme with
  | "http" => some 80
  | "ws" => some 80
  | "https" => some 443
  | "wss" => some 443
  | "ftp" => some 21
  | _ => none

/-- Who is to be addressed: a host, perhaps a port that is not implied, and perhaps a user. -/
structure Authority where
  username : List Char
  password : List Char
  host : Host
  port : Option Nat
  deriving DecidableEq, Repr

end Url

/-- A URL. -/
structure Url where
  scheme : List Char
  authority : Option Url.Authority
  path : Url.Path
  query : Option (List Char)
  fragment : Option (List Char)
  deriving DecidableEq, Repr

namespace Url

/-- The treatment of a URL's scheme. -/
def kind (url : Url) : Kind :=
  .ofScheme url.scheme

/-- The part before the host. -/
def Authority.credentials (authority : Authority) : List Char :=
  if authority.username = [] && authority.password = [] then []
  else if authority.password = [] then authority.username ++ ['@']
  else authority.username ++ ':' :: authority.password ++ ['@']

/-- An authority as it is written, without the slashes before it. -/
def Authority.text (authority : Authority) : List Char :=
  authority.credentials ++ authority.host.text
    ++ (authority.port.elim [] fun port => ':' :: Nat.toDigits 10 port)

/-- A path as it is written. -/
def Path.text : Path → List Char
  | .segments parts => parts.flatMap ('/' :: ·)
  | .verbatim text => text

/-- What has to stand between a scheme and a path that could be mistaken for an authority. -/
def Path.guard : Path → List Char
  | .segments ([] :: _ :: _) => ['/', '.']
  | _ => []

/-- A URL up to its path. -/
def origin (url : Url) : List Char :=
  match url.authority with
  | some authority => url.scheme ++ ':' :: '/' :: '/' :: authority.text
  | none => url.scheme ++ ':' :: url.path.guard

/-- A URL as it is written. -/
def chars (url : Url) : List Char :=
  url.origin ++ url.path.text ++ url.query.elim [] ('?' :: ·) ++ url.fragment.elim [] ('#' :: ·)

/-- A URL as it is written. -/
def text (url : Url) : String :=
  String.ofList url.chars

/-- Whether a URL's path has no hierarchy, so that nothing is relative to it. -/
def isVerbatim (url : Url) : Bool :=
  match url.path with
  | .verbatim _ => true
  | .segments _ => false

/-- The segments of a URL's path. -/
def segments (url : Url) : List Segment :=
  match url.path with
  | .segments parts => parts
  | .verbatim _ => []

/-- The URL with one more pair in its query. -/
def withQueryPair (url : Url) (name value : List Char) : Url :=
  let pair := formEncode name ++ '=' :: formEncode value
  match url.query with
  | none => { url with query := some pair }
  | some [] => { url with query := some pair }
  | some query => { url with query := some (query ++ '&' :: pair) }

end Url

end CdnPublish
