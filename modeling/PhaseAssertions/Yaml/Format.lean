import PhaseAssertions.Schema.Decode
import PhaseAssertions.Schema.Record
import PhaseAssertions.Yaml.Grammar
import PhaseAssertions.Yaml.Resolve

/-!
# Reading YAML documents by a schema

The first fault in the order of the document is reported, with the path of the
value that it was found in and the line of its node.  A fault that has no
place of its own gets that of the value around it.

An alias is read as the node that it stands for.  The number of aliases that
are followed is bounded by the size of the document, so that few lines cannot
stand for very much.
-/

namespace PhaseAssertions.Yaml

open Schema (Fault Found Record Field Format)

/-- The path of a value in a document. -/
inductive Path where
  | root
  | item (parent : Path) (index : Nat)
  | member (parent : Path) (key : String)
  /-- The value of a key that is no scalar. -/
  | unknown (parent : Path)

namespace Path

/-- A path in front of the name of a member. -/
def parentText (path : Path) (text : String) : String :=
  match path with
  | .root => ""
  | _ => text ++ "."

def text : Path → String
  | .root => "."
  | .item parent index => text parent ++ "[" ++ toString index ++ "]"
  | .member parent key => parentText parent (text parent) ++ key
  | .unknown parent => parentText parent (text parent) ++ "?"

end Path

/-- Where a fault was found. -/
structure Place where
  /-- The number of lines before the line of the node. -/
  line : Nat
  path : Path

/-- A fault in a document. -/
structure DocumentFault where
  fault : Fault
  place : Option Place

/-- The wording of a fault, with the path in front unless it is the root. -/
def DocumentFault.message (error : DocumentFault) : String :=
  match error.place with
  | some { path := .root, .. } | none => error.fault.message
  | some { path, .. } => path.text ++ ": " ++ error.fault.message

/-- A value of a document: a node and its path. -/
structure Value where
  node : Node
  path : Path

/-- What the reading of values depends on. -/
structure Context where
  /-- What each anchor stands for, the later of two with the same number first. -/
  targets : List (Nat × Node)
  /-- The greatest number of aliases that are followed. -/
  aliasLimit : Nat

/-- Actions that read a value of a document and count the aliases followed. -/
abbrev Reading := ReaderT Context (StateT Nat (Except DocumentFault))

namespace Value

/-- Reports a fault that has no place yet. -/
def refuse {Result : Type} (fault : Fault) : Reading Result :=
  throw { fault, place := none }

/-- Gives the place of a value to the faults of an action that have none. -/
def placed {Result : Type} (value : Value) (action : Reading Result) : Reading Result :=
  tryCatch action fun error =>
    if error.place.isNone && error.fault.isAboutValue then
      throw { error with place := some { line := value.node.line, path := value.path } }
    else
      throw error

/-- The value with the node that it stands for, if its node is an alias. -/
def resolve (value : Value) : Reading Value := do
  match value.node with
  | .alias number _ => do
    let context ← read
    let followed ← getModify (· + 1)
    if context.aliasLimit ≤ followed then refuse .repetitionLimit
    match context.targets.lookup number with
    | some node => return { value with node }
    | none => refuse .endOfDocument
  | _ => return value

/-- The fault that a node is not of the expected type. -/
def mismatch {Result : Type} (node : Node) (expected : String) : Reading Result :=
  match node with
  | .alias _ _ => refuse .endOfDocument
  | .scalar properties text style =>
    match Resolve.scalar properties.tag text style with
    | .ok found => refuse (.invalidType found expected)
    | .error fault => refuse fault
  | .sequence _ _ => refuse (.invalidType .sequence expected)
  | .mapping _ _ => refuse (.invalidType .map expected)

/-- Reads the node that a value stands for; its faults get the place of that node. -/
def withNode {Result : Type} (value : Value) (action : Value → Reading Result) :
    Reading Result := do
  let value ← value.resolve
  value.placed (action value)

/-- Whether a scalar is read by its form, because of its style or its tag. -/
def isReadByForm (tag : String) (properties : Properties) (style : ScalarStyle) : Bool :=
  style = .plain || (style = .literal && properties.tag = some (Resolve.coreTag tag))

def integer (value : Value) : Reading Int64 :=
  value.withNode fun value => do
    if let .scalar properties text style := value.node then
      if isReadByForm "int" properties style then
        if let some number := Resolve.integer? text then
          if Int64.minValue.toInt ≤ number && number ≤ Int64.maxValue.toInt then
            return Int64.ofInt number
    mismatch value.node "i64"

def truth (value : Value) : Reading Bool :=
  value.withNode fun value => do
    if let .scalar properties text style := value.node then
      if isReadByForm "bool" properties style then
        if let some truth := Resolve.bool? text then
          return truth
    mismatch value.node "a boolean"

/-- The text of any scalar, where something is expected. -/
def textOf (expected : String) (value : Value) : Reading String :=
  value.withNode fun value => do
    match value.node with
    | .scalar _ text _ => return text
    | node => mismatch node expected

def text (value : Value) : Reading String :=
  value.textOf "a string"

def choose {Result : Type} (known : List (String × Result)) (name : String) :
    Reading Result :=
  match known.find? fun pair => pair.1 = name with
  | some pair => return pair.2
  | none => refuse (.unknownVariant name (known.map Prod.fst))

/-- The name that a local tag gives, without its mark unless it is nothing else. -/
def tagName? (tag : Option (List UInt8)) : Option String := do
  let bytes ← tag
  if Resolve.isLocal bytes then
    Text.Utf8.text? (if bytes.length = 1 then bytes else bytes.drop 1)
  else
    none

/-- Refuses a value with a tag for a name if it is anything but null. -/
def checkUnit (value : Value) : Reading Unit :=
  value.placed do
    match value.node with
    | .scalar _ text style =>
      if style = .plain && (text.isEmpty || Resolve.isNull text) then return
      else refuse (.invalidValue (.text text) "null")
    | node => mismatch node "unit"

/-- The tag of a node that is no alias. -/
def tagOf : Node → Option (List UInt8)
  | .alias _ _ => none
  | .scalar properties _ _ => properties.tag
  | .sequence properties _ => properties.tag
  | .mapping properties _ => properties.tag

/-- A value as one of some named things: the name is a scalar or a tag. -/
def choice {Result : Type} (known : List (String × Result)) (value : Value) :
    Reading Result := do
  let value ← value.resolve
  match tagName? (tagOf value.node) with
  | some name => do
    let result ← choose known name
    value.checkUnit
    return result
  | none =>
    value.placed do
      let expected := "a YAML tag starting with '!'"
      match value.node with
      | .scalar _ text _ => choose known text
      | .sequence _ _ => refuse (.invalidType .sequence expected)
      | .mapping _ _ => refuse (.invalidType .map expected)
      | .alias _ _ => refuse .endOfDocument

/-- Reads the items of a sequence, the first of which stands at `index`. -/
def readItems {Result : Type} (read : Value → Reading Result) (parent : Path)
    (index : Nat) : List Node → Reading (List Result)
  | [] => return []
  | node :: rest => do
    let result ← read { node, path := .item parent index }
    return result :: (← readItems read parent (index + 1) rest)

/-- Whether a node is an empty plain scalar, which stands for an empty collection. -/
def isEmptyPlain : Node → Bool
  | .scalar _ text style => text.isEmpty && style = .plain
  | _ => false

def sequence {Result : Type} (read : Value → Reading Result) (value : Value) :
    Reading (List Result) :=
  value.withNode fun value => do
    match value.node with
    | .sequence _ items => readItems read value.path 0 items
    | node => if isEmptyPlain node then return [] else mismatch node "a sequence"

/-- Whether a node is absent, or the fault that it does not fit its tag. -/
def isAbsent : Node → Except Fault Bool
  | .scalar properties text style =>
    if style ≠ .plain then .ok false
    else
      match properties.tag with
      | none => .ok (text.isEmpty || Resolve.isNull text)
      | some tag =>
        if tag ≠ Resolve.coreTag "null" then .ok false
        else if Resolve.isNull text then .ok true
        else .error (.invalidValue (.text text) "null")
  | _ => .ok false

def optional {Result : Type} (read : Value → Reading Result) (value : Value) :
    Reading (Option Result) := do
  let value ← value.resolve
  match isAbsent value.node with
  | .ok true => return none
  | .ok false => return some (← read value)
  | .error fault => refuse fault

/-- The path of the value of a key. -/
def memberPath (parent : Path) : Node → Path
  | .scalar _ text _ => .member parent text
  | _ => .unknown parent

/-- The draft of a record after the pairs of a mapping. -/
def readMembers {Draft Result : Type} (record : Record Reading Value Draft Result)
    (parent : Path) : Draft → List (Node × Node) → Reading Draft
  | draft, [] => return draft
  | draft, (key, content) :: rest => do
    let key' : Value := { node := key, path := parent }
    let field? ← key'.withNode fun target => do
      let name ← target.textOf "field identifier"
      match record.field? name with
      | some field => return some field
      | none =>
        if record.closed then refuse (.unknownField name record.fieldNames)
        return none
    match field? with
    | some field =>
      if field.isFilled draft then refuse (.duplicateField field.name)
      let value : Value := { node := content, path := memberPath parent key }
      readMembers record parent (← field.read draft value) rest
    | none => readMembers record parent draft rest

/-- A draft with defaults for what is missing, or the fault that it is required. -/
def finish {Result : Type} : Except Fault Result → Reading Result
  | .ok result => return result
  | .error fault => refuse fault

def record {Draft Result : Type} (record : Record Reading Value Draft Result)
    (value : Value) : Reading Result :=
  value.withNode fun value => do
    match value.node with
    | .mapping _ pairs => do
      finish (record.finish (← readMembers record value.path record.start pairs))
    | node =>
      if isEmptyPlain node then finish (record.finish record.start)
      else mismatch node record.name

/-- A map from texts to texts after the pairs of a mapping. -/
def readPairs (parent : Path) : TextMap → List (Node × Node) → Reading TextMap
  | map, [] => return map
  | map, (key, content) :: rest => do
    let name ← text { node := key, path := parent }
    let value ← text { node := content, path := memberPath parent key }
    readPairs parent (map.insert name value) rest

def textMap (value : Value) : Reading TextMap :=
  value.withNode fun value => do
    match value.node with
    | .mapping _ pairs => readPairs value.path .empty pairs
    | node => if isEmptyPlain node then return .empty else mismatch node "a map"

end Value

/-- How YAML documents are read. -/
def format : Format Reading Value where
  integer := Value.integer
  text := Value.text
  truth := Value.truth
  choice := Value.choice
  sequence := Value.sequence
  optional := Value.optional
  record := Value.record
  textMap := Value.textMap

/-- Reads the root of a document; behind it the stream must end. -/
def Document.read {Result : Type} (document : Document) (action : Value → Reading Result) :
    Except DocumentFault Result :=
  let context : Context :=
    { targets := document.targets, aliasLimit := 100 * document.eventCount }
  match ((action { node := document.root, path := .root }).run context).run 0 with
  | .error error => .error error
  | .ok (result, _) =>
    if document.continued then
      .error { fault := .moreThanOneDocument, place := none }
    else
      .ok result

/-- Decodes the only document of the stream that some bytes spell. -/
def decode {Result : Type} (read : Value → Reading Result) (bytes : List UInt8) :
    Except DecodeError Result :=
  match Document.parse? bytes with
  | none => .error (.malformed .yaml)
  | some document =>
    match document.read read with
    | .ok result => .ok result
    | .error error =>
      .error (.unexpected error.message (error.place.map fun place => place.line + 1))

end PhaseAssertions.Yaml
