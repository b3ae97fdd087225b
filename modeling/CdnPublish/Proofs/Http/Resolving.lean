import CdnPublish.Http.Connection
import CdnPublish.Proofs.Url.Joining

/-!
# Links of a gateway

A gateway may live below a path of its site. What its connection makes of a plain link depends on
the link alone: a link that starts with a slash is meant from the root of the site, a link without
one from the address of the gateway, path included, just like the paths that the connection itself
addresses, and a link with a site of its own is taken as it is.
-/

namespace CdnPublish

namespace Url

/-- The route as a link. -/
def Route.text (route : Route) : String :=
  String.ofList route.chars

/-- The site as the beginning of a link. -/
def Site.text (site : Site) : String :=
  String.ofList site.chars

end Url

namespace Http

open Url

/-- The address of a gateway: a plain site, and the path below which the gateway lives. -/
structure Address where
  site : Site
  above : List PlainSegment

/-- The address as it is written, without a slash at its end. -/
def Address.text (address : Address) : String :=
  String.ofList (address.site.chars ++ (namesOf address.above).flatMap ('/' :: ·))

/-- The check of a certificate and its key, if both are given. -/
def checkPair (tree : FileTree) : Option LocalPath → Option LocalPath → Except SyncFault Unit
  | some cert, some key => checkIdentity tree cert key
  | _, _ => pure ()

/-- The check of a bundle of authorities, if one is given. -/
def checkBundle (tree : FileTree) : Option LocalPath → Except SyncFault Unit
  | some bundle => checkAuthorities tree bundle
  | none => pure ()

/-- The checks that a connection makes of the credentials in its settings. -/
def checkCredentials (tree : FileTree) (settings : Settings) : Except SyncFault Unit := do
  checkPair tree settings.cert settings.key
  checkBundle tree settings.caBundle

namespace Address

variable (address : Address) (route : Route)

/-- The base of all links: the address with a slash behind it. -/
def base : Url :=
  address.site.url (namesOf address.above ++ [[]]) none

/-- A connection to the gateway at the address. -/
def connection (uploadUrl : String) : Connection :=
  ⟨address.base, address.text, uploadUrl⟩

theorem isPlainPath_base : IsPlainPath (namesOf address.above ++ [[]]) none := by
  refine ⟨by simp, ?_, by simp⟩
  intro part mem
  rcases List.mem_append.mp mem with isAbove | isLast
  · exact isLiteral_of_mem_namesOf isAbove
  · rw [List.mem_singleton.mp isLast]
    exact isLiteral_nil

theorem parse_text : Url.parse (address.text ++ "/") = .ok address.base := by
  have written : (address.text ++ "/").toList = address.base.chars := by
    rw [base, Site.chars_url _ address.isPlainPath_base, cons_pathText (by simp)]
    simp [text, queryText]
  rw [Url.parse, written]
  exact address.site.parseChars_url address.isPlainPath_base

/-- At a plain address only the credentials can keep a connection from being set up. -/
theorem ofSettings_eq (tree : FileTree) (settings : Settings) :
    Connection.ofSettings tree { settings with gwUrl := address.text } =
      (checkCredentials tree settings).map fun _ => address.connection settings.uploadUrl := by
  have authorities : ∀ (bundle : Option LocalPath) (connection : Connection),
      (match bundle with
        | some bundle => checkAuthorities tree bundle >>= fun _ => pure connection
        | none => pure connection) = (checkBundle tree bundle).map fun _ => connection := by
    intro bundle connection
    cases bundle with
    | none => rfl
    | some bundle => exact bind_pure_comp _ _
  unfold Connection.ofSettings checkCredentials
  simp only [parse_text]
  cases settings.cert with
  | none => exact authorities _ _
  | some cert =>
      cases settings.key with
      | none => exact authorities _ _
      | some key =>
          change (checkIdentity tree cert key >>= _) = (checkIdentity tree cert key >>= _).map _
          cases checkIdentity tree cert key with
          | error fault => rfl
          | ok checked => exact authorities _ _

/-- What a route leads to below the address. -/
def below : Url :=
  address.site.url (namesOf address.above ++ namesOf route.segments) route.query

theorem text_below : (address.below route).text = address.text ++ "/" ++ route.text := by
  apply String.toList_inj.mp
  have written : (address.below route).chars =
      address.site.chars ++ ((namesOf address.above).flatMap ('/' :: ·) ++ '/' :: route.chars) := by
    rw [below, Site.chars_url _ (route.isPlainPath address.above),
      cons_pathText (route.isPlainPath address.above).proper, Route.chars,
      cons_pathText route.isPlainPath_self.proper, List.flatMap_append, List.append_assoc]
  simp [Url.text, written, text, Route.text]

theorem text_root (site : Site) : (Address.mk site []).text = site.text := by
  simp [text, Site.text, namesOf]

theorem resolve_of_join {connection : Connection} {link : String}
    (joined : joinChars connection.base link.toList = .ok (address.below route)) :
    connection.resolve link = .ok (address.text ++ "/" ++ route.text) := by
  rw [Connection.resolve, Url.join, joined, ← text_below]

/-- What a route leads to below an address is kept by every connection. -/
theorem resolve_text_below (connection : Connection) :
    connection.resolve (address.text ++ "/" ++ route.text) =
      .ok (address.text ++ "/" ++ route.text) := by
  apply resolve_of_join
  rw [← text_below, Url.text, String.toList_ofList]
  exact address.site.joinChars_url connection.base (route.isPlainPath address.above)

theorem resolve_relative (uploadUrl : String) :
    (address.connection uploadUrl).resolve route.text =
      .ok (address.text ++ "/" ++ route.text) := by
  apply resolve_of_join
  rw [Route.text, String.toList_ofList]
  exact joinChars_relative address.site route address.above

theorem resolve_rooted (uploadUrl : String) :
    (address.connection uploadUrl).resolve ("/" ++ route.text) =
      .ok (address.site.text ++ "/" ++ route.text) := by
  have written : ("/" ++ route.text).toList = '/' :: route.chars := by simp [Route.text]
  rw [← text_root]
  apply resolve_of_join
  rw [written]
  exact joinChars_rooted address.site route _ _

/-- The connection addresses its own paths like links without a slash. -/
theorem endpoint_text (uploadUrl : String) :
    (address.connection uploadUrl).endpoint route.text = address.text ++ "/" ++ route.text := by
  rcases route.exists_first with ⟨first, rest, shape, plain⟩
  have slash : first ≠ '/' := ne_of_isPlain plain rfl
  have kept : route.chars.dropWhile (· = '/') = route.chars := by
    rw [shape, List.dropWhile_cons_of_neg (by simp [slash])]
  rw [Connection.endpoint, Route.text, String.toList_ofList, kept]
  rfl

end Address

/-- Plain links and what they lead to, from a gateway at a plain address. Whatever path the gateway
has, a relative link leads below it, to just where a path of the gateway's own is addressed, a
rooted link leads to the root of the site, a link with a site of its own stays what it is, and so
does everything that a link has led to. Only unusable credentials keep the connection from being set
up. -/
theorem resolve_plain_links (address : Address) (tree : FileTree) (settings : Settings) :
    ∃ connection : Connection,
      Connection.ofSettings tree { settings with gwUrl := address.text } =
        (checkCredentials tree settings).map (fun _ => connection) ∧
      ∀ (route : Route) (other : Site),
        connection.resolve route.text = .ok (address.text ++ "/" ++ route.text) ∧
        connection.endpoint route.text = address.text ++ "/" ++ route.text ∧
        connection.resolve ("/" ++ route.text) = .ok (address.site.text ++ "/" ++ route.text) ∧
        connection.resolve (other.text ++ "/" ++ route.text) =
          .ok (other.text ++ "/" ++ route.text) ∧
        ∀ url ∈ [address.text ++ "/" ++ route.text, address.site.text ++ "/" ++ route.text,
          other.text ++ "/" ++ route.text], connection.resolve url = .ok url := by
  refine ⟨address.connection settings.uploadUrl, address.ofSettings_eq tree settings, ?_⟩
  intro route other
  have kept := fun place : Address =>
    place.resolve_text_below route (address.connection settings.uploadUrl)
  have fixed := kept address
  have root := kept ⟨address.site, []⟩
  have absolute := kept ⟨other, []⟩
  rw [Address.text_root] at root absolute
  refine ⟨address.resolve_relative route _, address.endpoint_text route _,
    address.resolve_rooted route _, absolute, ?_⟩
  intro url mem
  simp only [List.mem_cons, List.not_mem_nil, or_false] at mem
  rcases mem with rfl | rfl | rfl
  · exact fixed
  · exact root
  · exact absolute

section Prefixed

/-- A segment of one of these names. -/
def segmentNamed (name : String)
    (plain : name.toList ≠ [] ∧ name.toList.all isSegmentChar = true ∧
      name.toList ≠ ['.'] ∧ name.toList ≠ ['.', '.']) : PlainSegment :=
  ⟨name.toList, plain.1, List.all_eq_true.mp plain.2.1, plain.2.2.1, plain.2.2.2⟩

/-- A gateway below a path, on a port of its own. -/
def prefixed : Address where
  site :=
    { protocol := .https
      labels := [⟨'g', ['w'], rfl, by simp [isHostChar], by decide⟩]
      labels_ne_nil := by simp
      port := some 8443
      port_range := by simp
      port_ne := by simp [Protocol.port] }
  above := [segmentNamed "exodus" (by decide)]

/-- The way to a publish, with a query. -/
def publishRoute : Route where
  segments := [segmentNamed "publish" (by decide), segmentNamed "p" (by decide)]
  segments_ne_nil := by simp
  query := some ['a', '=', 'b']
  isQueryChar_query := by simp [isQueryChar]

/-- The path of the gateway stays in front of a link without a slash. -/
theorem resolve_plain_links_prefixed :
    ∃ connection, Connection.ofSettings ⟨[], [], []⟩
        ⟨"live", "https://gw:8443/exodus", "", none, none, none, 5, 3, 120⟩ = .ok connection ∧
      connection.resolve "publish/p?a=b" = .ok "https://gw:8443/exodus/publish/p?a=b" ∧
      connection.resolve "/publish/p?a=b" = .ok "https://gw:8443/publish/p?a=b" := by
  have address : prefixed.text = "https://gw:8443/exodus" := by decide
  have site : prefixed.site.text = "https://gw:8443" := by decide
  have route : publishRoute.text = "publish/p?a=b" := by decide
  rcases resolve_plain_links prefixed ⟨[], [], []⟩
    ⟨"live", "", "", none, none, none, 5, 3, 120⟩ with ⟨connection, given, links⟩
  have resolved := links publishRoute prefixed.site
  rw [address] at given
  rw [address, site, route] at resolved
  exact ⟨connection, given, resolved.1, resolved.2.2.1⟩

end Prefixed

end Http

end CdnPublish
