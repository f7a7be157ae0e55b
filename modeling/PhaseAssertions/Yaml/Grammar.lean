import PhaseAssertions.Yaml.Lexer
import PhaseAssertions.Yaml.Node

/-!
# From tokens to nodes

The grammar of documents, read from left to right with one token of lookahead.
Nodes that are not written are empty scalars on the line of the token after
which they are missing.  An alias must refer to an anchor that was met before
it.  Only the first document of a stream is read; of what follows it is only
told whether there is anything.
-/

namespace PhaseAssertions.Yaml

namespace Grammar

/-- The state of the reading. -/
structure State where
  tokens : List Token
  /-- The numbers of the names of anchors met so far, the latest first. -/
  anchors : List (String × Nat)
  /-- The handles of tags and what they stand for. -/
  handles : List (List UInt8 × List UInt8)

/-- Reads something, or refuses the document. -/
abbrev Reader := StateT State Option

/-- The next token, which stays. -/
def peek : Reader Token := do
  match (← get).tokens with
  | token :: _ => return token
  | [] => failure

def skip : Reader Unit :=
  modify fun state => { state with tokens := state.tokens.drop 1 }

/--
Gives a name to an anchor.  Its number is the number of names known before,
whether or not the name is one of them.
-/
def defineAnchor (name : String) : Reader Nat := do
  let state ← get
  let number := (state.anchors.map Prod.fst).eraseDups.length
  set { state with anchors := (name, number) :: state.anchors }
  return number

def anchorNumber (name : String) : Reader Nat := do
  match (← get).anchors.lookup name with
  | some number => return number
  | none => failure

/-- The tag of a handle and a suffix. -/
def resolveTag (handle suffix : List UInt8) : Reader (List UInt8) := do
  if handle.isEmpty then return suffix
  match (← get).handles.lookup handle with
  | some start => return start ++ suffix
  | none => failure

/-- An anchor, if one is next. -/
def readAnchor : Reader (Option String) := do
  match (← peek).kind with
  | .anchor name => do
    skip
    return some name
  | _ => return none

/-- A tag, if one is next. -/
def readTag : Reader (Option (List UInt8 × List UInt8)) := do
  match (← peek).kind with
  | .tag handle suffix => do
    skip
    return some (handle, suffix)
  | _ => return none

/-- An anchor and a tag in any order, as far as they are next. -/
def readProperties : Reader Properties := do
  let line := (← peek).line
  let before ← readAnchor
  let tag ← readTag
  let after ← if before.isNone && tag.isSome then readAnchor else pure none
  let tag ← tag.mapM fun (handle, suffix) => resolveTag handle suffix
  let anchor ← (before.or after).mapM defineAnchor
  return { anchor, tag, line }

/-- The tag that says nothing about a scalar. -/
def unspecificTag : List UInt8 :=
  Property.bytes ['!']

mutual

/--
A node.  Block collections are allowed if `block` holds, and a block sequence
without an indentation of its own if `indentless` holds.
-/
def readNode (fuel : Nat) (block indentless : Bool) : Reader Node :=
  match fuel with
  | 0 => failure
  | fuel + 1 => do
    let first ← peek
    match first.kind with
    | .alias name => do
      let number ← anchorNumber name
      skip
      return .alias number first.line
    | _ => do
      let properties ← readProperties
      match (← peek).kind, block with
      | .scalar text style, _ => do
        skip
        let tag := properties.tag.filter (· ≠ unspecificTag)
        return .scalar { properties with tag } text style
      | .flowSequenceStart, _ => do
        skip
        return .sequence properties (← readFlowItems fuel true)
      | .flowMappingStart, _ => do
        skip
        return .mapping properties (← readFlowPairs fuel true)
      | .blockSequenceStart, true => do
        skip
        return .sequence properties (← readBlockItems fuel)
      | .blockMappingStart, true => do
        skip
        return .mapping properties (← readBlockPairs fuel)
      | kind, _ =>
        if indentless && kind = .blockEntry then
          return .sequence properties (← readIndentlessItems fuel)
        else if properties.anchor.isSome || properties.tag.isSome then
          return .scalar properties "" .plain
        else
          failure

/-- A node of a block collection, unless the next token is one of some others. -/
def readBlockNode (fuel : Nat) (indentless : Bool) (line : Nat) (others : List TokenKind) :
    Reader Node :=
  match fuel with
  | 0 => failure
  | fuel + 1 => do
    if others.contains (← peek).kind then return .empty line
    else readNode fuel true indentless

/-- A node of a flow collection, unless the next token is one of some others. -/
def readFlowNode (fuel : Nat) (others : List TokenKind) : Reader Node :=
  match fuel with
  | 0 => failure
  | fuel + 1 => do
    let next ← peek
    if others.contains next.kind then return .empty next.line
    else readNode fuel false false

def readBlockItems (fuel : Nat) : Reader (List Node) :=
  match fuel with
  | 0 => failure
  | fuel + 1 => do
    let token ← peek
    match token.kind with
    | .blockEntry => do
      skip
      let item ← readBlockNode fuel false token.line [.blockEntry, .blockEnd]
      return item :: (← readBlockItems fuel)
    | .blockEnd => do
      skip
      return []
    | _ => failure

def readIndentlessItems (fuel : Nat) : Reader (List Node) :=
  match fuel with
  | 0 => failure
  | fuel + 1 => do
    let token ← peek
    match token.kind with
    | .blockEntry => do
      skip
      let item ←
        readBlockNode fuel false token.line [.blockEntry, .key, .value, .blockEnd]
      return item :: (← readIndentlessItems fuel)
    | _ => return []

def readBlockPairs (fuel : Nat) : Reader (List (Node × Node)) :=
  match fuel with
  | 0 => failure
  | fuel + 1 => do
    let token ← peek
    match token.kind with
    | .key => do
      skip
      let key ← readBlockNode fuel true token.line [.key, .value, .blockEnd]
      let next ← peek
      let value ←
        match next.kind with
        | .value => do
          skip
          readBlockNode fuel true next.line [.key, .value, .blockEnd]
        | _ => pure (.empty next.line)
      return (key, value) :: (← readBlockPairs fuel)
    | .blockEnd => do
      skip
      return []
    | _ => failure

def readFlowItems (fuel : Nat) (first : Bool) : Reader (List Node) :=
  match fuel with
  | 0 => failure
  | fuel + 1 => do
    if !first && (← peek).kind = .flowEntry then skip
    else if !first && (← peek).kind ≠ .flowSequenceEnd then failure
    let token ← peek
    match token.kind with
    | .flowSequenceEnd => do
      skip
      return []
    | .key => do
      skip
      let pair ← readFlowPair fuel
      return .mapping { line := token.line } [pair] :: (← readFlowItems fuel false)
    | _ => do
      let item ← readNode fuel false false
      return item :: (← readFlowItems fuel false)

/--
The pair of a mapping that is written as an item of a flow sequence.  Where its
key is missing, the token in place of the key is passed over.
-/
def readFlowPair (fuel : Nat) : Reader (Node × Node) :=
  match fuel with
  | 0 => failure
  | fuel + 1 => do
    let next ← peek
    let key ←
      if [TokenKind.value, .flowEntry, .flowSequenceEnd].contains next.kind then do
        skip
        pure (.empty next.line)
      else
        readNode fuel false false
    if (← peek).kind = .value then
      skip
      return (key, ← readFlowNode fuel [.flowEntry, .flowSequenceEnd])
    else
      return (key, .empty (← peek).line)

def readFlowPairs (fuel : Nat) (first : Bool) : Reader (List (Node × Node)) :=
  match fuel with
  | 0 => failure
  | fuel + 1 => do
    if !first && (← peek).kind = .flowEntry then skip
    else if !first && (← peek).kind ≠ .flowMappingEnd then failure
    let token ← peek
    match token.kind with
    | .flowMappingEnd => do
      skip
      return []
    | .key => do
      skip
      let key ← readFlowNode fuel [.value, .flowEntry, .flowMappingEnd]
      let value ←
        if (← peek).kind = .value then do
          skip
          readFlowNode fuel [.flowEntry, .flowMappingEnd]
        else
          pure (.empty (← peek).line)
      return (key, value) :: (← readFlowPairs fuel false)
    | _ => do
      let key ← readNode fuel false false
      let value := Node.empty (← peek).line
      return (key, value) :: (← readFlowPairs fuel false)

end

/-- The handles that need no directive. -/
def defaultHandles : List (List UInt8 × List UInt8) :=
  [ (Property.bytes ['!'], Property.bytes ['!']),
    (Property.bytes ['!', '!'], Property.bytes "tag:yaml.org,2002:".toList) ]

/--
The handles that the directives before a document give.  At most one directive
names a version, which must be 1.1 or 1.2, and no handle is given twice.
-/
def readDirectives (versioned : Bool) (handles : List (List UInt8 × List UInt8)) :
    Nat → Reader (List (List UInt8 × List UInt8))
  | 0 => failure
  | fuel + 1 => do
    match (← peek).kind with
    | .versionDirective major minor => do
      if versioned || major ≠ 1 || (minor ≠ 1 && minor ≠ 2) then failure
      skip
      readDirectives true handles fuel
    | .tagDirective handle start => do
      if (handles.lookup handle).isSome then failure
      skip
      readDirectives versioned (handles ++ [(handle, start)]) fuel
    | _ => return handles

/-- Whether a token shows that a document has no content. -/
def endsDocument : TokenKind → Bool
  | .versionDirective _ _ | .tagDirective _ _ | .documentStart | .documentEnd | .streamEnd =>
    true
  | _ => false

/-- The root of the first document; an empty stream has an empty one. -/
def readRoot (fuel : Nat) : Reader Node := do
  let first ← peek
  match first.kind with
  | .streamEnd => return .empty 0
  | .versionDirective _ _ | .tagDirective _ _ | .documentStart => do
    let handles ← readDirectives false [] fuel
    modify fun state => { state with handles := handles ++ defaultHandles }
    if (← peek).kind ≠ .documentStart then failure
    skip
    let next ← peek
    if endsDocument next.kind then return .empty next.line
    else readNode fuel true false
  | _ => readNode fuel true false

def readDocument (fuel : Nat) : Reader Document := do
  let root ← readRoot fuel
  let _ ← peek
  let following := (← get).tokens.dropWhile fun token => token.kind = .documentEnd
  let continued :=
    match following with
    | token :: _ => token.kind ≠ .streamEnd
    | [] => true
  return { root, continued }

end Grammar

/-- The first document of a stream, if the stream is well-formed up to its end. -/
def Document.ofTokens? (stream : TokenStream) : Option Document :=
  let state : Grammar.State :=
    { tokens := stream.tokens, anchors := [], handles := Grammar.defaultHandles }
  ((Grammar.readDocument (3 * stream.tokens.length + 3)).run state).map Prod.fst

/-- The first document that some bytes spell, if they are well-formed. -/
def Document.parse? (bytes : List UInt8) : Option Document :=
  Document.ofTokens? (.ofSource (.ofBytes bytes))

end PhaseAssertions.Yaml
