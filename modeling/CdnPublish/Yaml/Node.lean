import CdnPublish.Yaml.Token.Lexer

/-!
# Values of YAML texts

A YAML text holds a tree of scalars, sequences and mappings, in which a part can be given a name and
be used again. The same name can be given twice, so the uses are kept apart from the parts and refer
to them by number.
-/

namespace CdnPublish.Yaml

/-- A value of a YAML text. -/
inductive Node where
  | scalar (text : List Char) (style : Style) (tag : Option (List Char))
  | sequence (items : List Node)
  | mapping (entries : List (Node × Node))
  /-- The value that has an anchor with a number. -/
  | reference (anchor : Nat)

/-- A value with an anchor. -/
structure Anchored where
  /-- The number of the anchor. -/
  number : Nat
  /-- How many values with anchors start before it. -/
  position : Nat
  node : Node

/-- A whole text. -/
structure Document where
  /-- Its value; a text of nothing but comments has none. -/
  root : Option Node
  anchors : List Anchored

/-- The value that stands where nothing is written. -/
def Node.nothing : Node := .scalar [] .plain none

/-- The value that an anchor with a number stands for: of several the one that starts last. -/
def Document.find? (document : Document) (number : Nat) : Option Node :=
  let named := document.anchors.filter (·.number = number)
  let last := (named.map (·.position)).foldl max 0
  (named.find? (·.position = last)).map (·.node)

/-- What a value stands for. -/
def Document.follow? (document : Document) : Node → Option Node
  | .reference number => document.find? number
  | node => some node

/-- What is still to be read, and what the names in it stand for. -/
structure Reader where
  tokens : List Token
  /-- The handles of tags and what they are short for. -/
  handles : List (List Char × List Char)
  /-- The names of anchors and their numbers. -/
  names : List (List Char × Nat)
  /-- How many values with anchors have started. -/
  started : Nat
  anchors : List Anchored

/-- Reads from the tokens of a text, or finds that they are out of order. -/
abbrev Reading := StateT Reader Option

namespace Reading

/-- The next token. -/
def next? : Reading (Option Token) := do
  return (← get).tokens.head?

/-- Goes past the next token. -/
def skip : Reading Unit :=
  modify fun reader => { reader with tokens := reader.tokens.tail }

/-- Goes past the next token if it is a given one, and tells whether it was. -/
def take (token : Token) : Reading Bool := do
  if (← next?) = some token then
    skip
    return true
  else return false

/-- Goes past the next token, which has to be a given one. -/
def expect (token : Token) : Reading Unit := do
  if !(← take token) then failure

/-- Whether the next token is one of some. -/
def isBefore (tokens : List Token) : Reading Bool := do
  return (← next?).any tokens.contains

/-- The name of an anchor, if one follows. -/
def anchor? : Reading (Option (List Char)) := do
  match ← next? with
  | some (.anchor name) =>
    skip
    return some name
  | _ => return none

/-- A tag, if one follows. -/
def tag? : Reading (Option TagName) := do
  match ← next? with
  | some (.tag name) =>
    skip
    return some name
  | _ => return none

/-- The anchor and the tag before a value, in any order. -/
def properties : Reading (Option (List Char) × Option TagName) := do
  match ← tag? with
  | some tag => return (← anchor?, some tag)
  | none =>
    let anchor ← anchor?
    return (anchor, ← tag?)

/-- A tag in full; its handle has to be known. -/
def expand (name : TagName) : Reading (List Char) := do
  if name.handle = [] then return name.suffix
  else
    match (← get).handles.lookup name.handle with
    | some start => return start ++ name.suffix
    | none => failure

/-- Notes that a value with an anchor starts. A name that is new or is given again gets the number
of the names there have been. -/
def start (name : List Char) : Reading (Nat × Nat) := do
  let reader ← get
  let number := reader.names.length
  let names := (name, number) :: reader.names.filter (·.1 ≠ name)
  set { reader with names, started := reader.started + 1 }
  return (number, reader.started)

/-- Reads a value, noting its anchor. -/
def anchored (anchor : Option (List Char)) (value : Reading Node) : Reading Node := do
  match anchor with
  | none => value
  | some name =>
    let (number, position) ← start name
    let node ← value
    modify fun reader => { reader with anchors := ⟨number, position, node⟩ :: reader.anchors }
    return node

/-- The value that a name stands for. -/
def reference (name : List Char) : Reading Node := do
  match (← get).names.lookup name with
  | some number => return .reference number
  | none => failure

/-- A scalar that is written out, with its tag; the tag of a single mark counts as none. -/
def tagged (text : List Char) (style : Style) (tag : Option (List Char)) : Node :=
  .scalar text style (tag.filter (· ≠ ['!']))

mutual

/-- Reads a value. Block collections are read only outside of flow collections, and a sequence
without an indentation of its own only in a block mapping. -/
def node (inBlock inMapping : Bool) : Nat → Reading Node
  | 0 => failure
  | fuel + 1 => do
    match ← next? with
    | some (.reference name) =>
      skip
      reference name
    | _ =>
      let (anchor, name) ← properties
      let tag ← name.mapM expand
      let content : Reading Node := do
        match ← next? with
        | some .blockEntry =>
          if inMapping then return .sequence (← looseItems fuel)
          else if anchor.isSome || tag.isSome then return .scalar [] .plain tag
          else failure
        | some (.scalar text style) =>
          skip
          return tagged text style tag
        | some .flowSequenceStart =>
          skip
          return .sequence (← flowItems true fuel)
        | some .flowMappingStart =>
          skip
          return .mapping (← flowEntries true fuel)
        | next =>
          if inBlock && next = some .blockSequenceStart then
            skip
            return .sequence (← blockItems fuel)
          else if inBlock && next = some .blockMappingStart then
            skip
            return .mapping (← blockEntries fuel)
          else if anchor.isSome || tag.isSome then return .scalar [] .plain tag
          else failure
      anchored anchor content

/-- Reads a value, or nothing where one of some tokens follows. -/
def nodeUnless (ends : List Token) (inBlock inMapping : Bool) : Nat → Reading Node
  | 0 => failure
  | fuel + 1 => do
    if ← isBefore ends then return .nothing else node inBlock inMapping fuel

/-- Reads the items of a block sequence and its end. -/
def blockItems : Nat → Reading (List Node)
  | 0 => failure
  | fuel + 1 => do
    if ← take .blockEnd then return []
    else
      expect .blockEntry
      let item ← nodeUnless [.blockEntry, .blockEnd] true false fuel
      return item :: (← blockItems fuel)

/-- Reads the items of a sequence that stands at the indentation of its mapping. -/
def looseItems : Nat → Reading (List Node)
  | 0 => failure
  | fuel + 1 => do
    if ← take .blockEntry then
      let item ← nodeUnless [.blockEntry, .key, .value, .blockEnd] true false fuel
      return item :: (← looseItems fuel)
    else return []

/-- Reads the entries of a block mapping and its end. -/
def blockEntries : Nat → Reading (List (Node × Node))
  | 0 => failure
  | fuel + 1 => do
    if ← take .blockEnd then return []
    else
      expect .key
      let ends := [.key, .value, .blockEnd]
      let key ← nodeUnless ends true true fuel
      let value ←
        if ← take .value then nodeUnless ends true true fuel else pure .nothing
      return (key, value) :: (← blockEntries fuel)

/-- Reads the only entry of a mapping that is an item of a flow sequence, behind the mark of its
key. Where no key is written the token behind the mark is passed over. -/
def onlyEntry : Nat → Reading (Node × Node)
  | 0 => failure
  | fuel + 1 => do
    let key ←
      if ← isBefore [.value, .flowEntry, .flowSequenceEnd] then
        skip
        pure .nothing
      else node false false fuel
    let value ←
      if ← take .value then nodeUnless [.flowEntry, .flowSequenceEnd] false false fuel
      else pure .nothing
    return (key, value)

/-- Reads the items of a flow sequence and its end. -/
def flowItems (isFirst : Bool) : Nat → Reading (List Node)
  | 0 => failure
  | fuel + 1 => do
    if ← take .flowSequenceEnd then return []
    else
      if !isFirst then expect .flowEntry
      if ← take .flowSequenceEnd then return []
      else
        let item ←
          if ← take .key then return .mapping [← onlyEntry fuel] :: (← flowItems false fuel)
          else node false false fuel
        return item :: (← flowItems false fuel)

/-- Reads the entries of a flow mapping and its end. -/
def flowEntries (isFirst : Bool) : Nat → Reading (List (Node × Node))
  | 0 => failure
  | fuel + 1 => do
    if ← take .flowMappingEnd then return []
    else
      if !isFirst then expect .flowEntry
      if ← take .flowMappingEnd then return []
      else
        let entry ←
          if ← take .key then
            let key ← nodeUnless [.value, .flowEntry, .flowMappingEnd] false false fuel
            let value ←
              if ← take .value then nodeUnless [.flowEntry, .flowMappingEnd] false false fuel
              else pure .nothing
            pure (key, value)
          else pure (← node false false fuel, .nothing)
        return entry :: (← flowEntries false fuel)

end

/-- The handles that need no directive. -/
def usualHandles : List (List Char × List Char) :=
  [(['!'], ['!']), (['!', '!'], "tag:yaml.org,2002:".toList)]

/-- Reads directives: a version that is known, given once at most, and handles, each given once. -/
def directives (hasVersion : Bool) (handles : List (List Char × List Char)) : Nat → Reading Unit
  | 0 => failure
  | fuel + 1 => do
    match ← next? with
    | some (.versionDirective major minor) =>
      if hasVersion || major ≠ 1 || (minor ≠ 1 && minor ≠ 2) then failure
      skip
      directives true handles fuel
    | some (.tagDirective handle start) =>
      if (handles.lookup handle).isSome then failure
      skip
      directives hasVersion ((handle, start) :: handles) fuel
    | _ => modify fun reader => { reader with handles := handles ++ usualHandles }

/-- Whether a directive follows. -/
def isBeforeDirective : Reading Bool := do
  match ← next? with
  | some (.versionDirective _ _) | some (.tagDirective _ _) => return true
  | _ => return false

/-- Reads the value of a text behind the mark of its start. -/
def content (fuel : Nat) : Reading Node := do
  let isEmpty := (← next?).isNone || (← isBeforeDirective)
    || (← isBefore [.documentStart, .documentEnd])
  if isEmpty then return .nothing else node true false fuel

/-- Reads a text. The mark of its start has to stand only behind directives. -/
def document : Reading Document := do
  let fuel := 2 * (← get).tokens.length + 2
  if (← next?).isNone then return ⟨none, []⟩
  else
    let hasDirectives ← isBeforeDirective
    directives false [] fuel
    let root ←
      if ← take .documentStart then content fuel
      else if hasDirectives then failure
      else node true false fuel
    let reader ← get
    if reader.tokens.all (· = .documentEnd) then return ⟨some root, reader.anchors⟩ else failure

end Reading

/-- What a text says, if it is well formed. -/
def Document.ofText? (text : List Char) : Option Document := do
  let tokens ← Token.ofText? text
  let (document, _) ← Reading.document.run ⟨tokens, [], [], 0, []⟩
  return document

end CdnPublish.Yaml
