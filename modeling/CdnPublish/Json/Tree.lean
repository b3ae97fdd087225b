import CdnPublish.Json.Token

/-!
# JSON texts as trees

The structure of a JSON text before it is decided what is wanted of it: numerals are kept as they
are written, strings may lack a text, and an object may repeat a name. Any depth of nesting is
read. `Tree.value?` gives the value of a whole tree and is stricter: it has no room for numerals
without a value or strings without a text, and bounds the nesting.
-/

namespace CdnPublish.Json

/-- A JSON text as a tree. -/
inductive Tree where
  | null
  | bool (value : Bool)
  | numeral (number : Numeral)
  | string (text : Option String)
  | array (elements : List Tree)
  | object (members : List (Option String × Tree))
  deriving Inhabited

namespace Tree

/-- An array or object that is still open: what stands in it already, last first, and for an object
the name whose value is being read. -/
inductive Frame where
  | array (before : List Tree)
  | object (before : List (Option String × Tree)) (name : Option String)

/-- What may come next. -/
inductive Position where
  | value
  /-- The first element of an array, or its end. -/
  | firstElement
  /-- The first name of an object, or its end. -/
  | firstName
  /-- A further name, behind a comma. -/
  | name (before : List (Option String × Tree))
  | colon (before : List (Option String × Tree)) (name : Option String)
  /-- A tree is complete. -/
  | complete (tree : Tree)

/-- The tree of a token that is a value by itself. -/
def ofToken? : Token → Option Tree
  | .null => some .null
  | .bool value => some (.bool value)
  | .numeral number => some (.numeral number)
  | .string text => some (.string text)
  | .openArray => none
  | .closeArray => none
  | .openObject => none
  | .closeObject => none
  | .comma => none
  | .colon => none

/-- Starts a value with a token. -/
def start? (stack : List Frame) (token : Token) : Option (List Frame × Position) :=
  match token with
  | .openArray => some (.array [] :: stack, .firstElement)
  | .openObject => some (stack, .firstName)
  | scalar => (ofToken? scalar).map fun tree => (stack, .complete tree)

/-- Goes on behind a complete tree. -/
def proceed? (tree : Tree) (stack : List Frame) (token : Token) :
    Option (List Frame × Position) :=
  match stack, token with
  | .array before :: outer, .comma => some (.array (tree :: before) :: outer, .value)
  | .array before :: outer, .closeArray =>
    some (outer, .complete (.array (tree :: before).reverse))
  | .object before name :: outer, .comma => some (outer, .name ((name, tree) :: before))
  | .object before name :: outer, .closeObject =>
    some (outer, .complete (.object ((name, tree) :: before).reverse))
  | _, _ => none

/-- One token further. -/
def step? (state : List Frame × Position) (token : Token) : Option (List Frame × Position) :=
  match state, token with
  | (stack, .value), token => start? stack token
  | (.array [] :: outer, .firstElement), .closeArray => some (outer, .complete (.array []))
  | (stack, .firstElement), token => start? stack token
  | (stack, .firstName), .closeObject => some (stack, .complete (.object []))
  | (stack, .firstName), .string text => some (stack, .colon [] text)
  | (stack, .name before), .string text => some (stack, .colon before text)
  | (stack, .colon before name), .colon => some (.object before name :: stack, .value)
  | (stack, .complete tree), token => proceed? tree stack token
  | _, _ => none

/-- The tree of a sequence of tokens. -/
def ofTokens? (tokens : List Token) : Option Tree :=
  match tokens.foldlM step? ([], .value) with
  | some ([], .complete tree) => some tree
  | _ => none

/-- The tree of a received text. -/
def ofReceived? (received : Text.Received) : Option Tree :=
  (Token.ofReceived? received).bind ofTokens?

/-- The tree of a text. -/
def ofString? (text : String) : Option Tree :=
  ofReceived? (text.toList.map some)

/-- A member put into an object: its name must be a text, and a later value replaces an earlier
one. -/
def insert (members : List (String × Json)) (name : String) (value : Json) :
    List (String × Json) :=
  members.filter (·.1 ≠ name) ++ [(name, value)]

/-- Members in the order of their names. -/
def sorted (members : List (String × Json)) : List (String × Json) :=
  members.mergeSort fun first second => decide (first.1 ≤ second.1)

/-- How deep the arrays and objects of a value may be nested. -/
def maxDepth : Nat := 127

/-- The value of a tree whose arrays and objects are nested at most `depth` deep. The members of an
object are sorted by name, and of two with one name the later one counts. -/
def valueWithin? : Nat → Tree → Option Json
  | _, .null => some .null
  | _, .bool value => some (.bool value)
  | _, .numeral number => number.value?
  | _, .string text => text.map .string
  | 0, .array _ => none
  | 0, .object _ => none
  | depth + 1, .array elements => (elements.mapM (valueWithin? depth)).map .array
  | depth + 1, .object members => do
    let values ← members.mapM fun (name, tree) => do return (← name, ← valueWithin? depth tree)
    return .object (sorted (values.foldl (fun kept (name, value) => insert kept name value) []))

/-- The value of a tree. -/
def value? (tree : Tree) : Option Json :=
  tree.valueWithin? maxDepth

end Tree

/-- The value of a received text, which may hold nothing else. -/
def ofReceived? (received : Text.Received) : Option Json :=
  (Tree.ofReceived? received).bind Tree.value?

/-- The value of a text, which may hold nothing else. -/
def ofString? (text : String) : Option Json :=
  (Tree.ofString? text).bind Tree.value?

end CdnPublish.Json
