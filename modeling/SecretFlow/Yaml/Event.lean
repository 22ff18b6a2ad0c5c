import SecretFlow.Yaml.Token

set_option autoImplicit false
set_option relaxedAutoImplicit false

/-!
Events of a YAML stream: its documents, and in them collections and scalars in order, with
anchors and resolved tags.
-/

namespace SecretFlow.Yaml

open Text.Utf8 (Bytes)

structure Properties where
  anchor : Option String := none
  tag : Option Tag := none
  deriving DecidableEq, Repr

inductive Event where
  | documentStart
  | documentEnd
  | streamEnd
  | alias (name : String)
  | scalar (properties : Properties) (text : String) (plain : Bool)
  | sequenceStart (properties : Properties)
  | sequenceEnd
  | mappingStart (properties : Properties)
  | mappingEnd
  deriving DecidableEq, Repr

inductive Expect where
  | document (implicit : Bool)
  | documentContent
  | documentEnd
  | blockNode
  | blockSequenceFirst
  | blockSequenceEntry
  | indentlessEntry
  | blockMappingFirst
  | blockMappingKey
  | blockMappingValue
  | flowSequenceFirst
  | flowSequenceEntry
  | flowPairKey
  | flowPairValue
  | flowPairEnd
  | flowMappingFirst
  | flowMappingKey
  | flowMappingValue
  | flowMappingEmptyValue
  | nothing
  deriving DecidableEq, Repr

/-- The state of reading events: tokens that are left, the error behind them, what is expected
now and after that, and the expansions of tag handles. -/
structure Events where
  tokens : List Token
  behind : YamlError
  expect : Expect
  later : List Expect
  handles : List (String × Bytes)

namespace Events

def defaultHandles : List (String × Bytes) :=
  [("!", Text.Utf8.encode "!"), ("!!", Text.Utf8.encode Tag.coreStart)]

def peek (s : Events) : Except YamlError Token :=
  match s.tokens with
  | t :: _ => .ok t
  | [] => .error s.behind

def skip (s : Events) : Events :=
  { s with tokens := s.tokens.drop 1 }

def resume (s : Events) : Events :=
  { s with expect := s.later.headD .nothing, later := s.later.drop 1 }

private def putOff (s : Events) (e : Expect) : Events :=
  { s with later := e :: s.later }

private def emptyScalar (p : Properties) : Event :=
  .scalar p "" true

private def empty (s : Events) (e : Expect) : Except YamlError (Event × Events) :=
  .ok (emptyScalar {}, { s with expect := e })

private def resolveTag (s : Events) (handle : String) (suffix : Bytes) : Except YamlError Tag :=
  if handle.isEmpty then .ok (.ofBytes (Tag.untilNull suffix))
  else
    match s.handles.find? (·.1 = handle) with
    | some (_, expansion) =>
        .ok (.ofBytes (Tag.untilNull expansion ++ Tag.untilNull suffix))
    | none => .error .undefinedTag

/-- Anchor and tag before a node, in any order, each at most once. -/
private def readProperties (s : Events) : Except YamlError (Properties × Events) := do
  match ← s.peek with
  | .anchor a =>
      let s := s.skip
      match ← s.peek with
      | .tag h x => return (⟨some a, some (← s.resolveTag h x)⟩, s.skip)
      | _ => return (⟨some a, none⟩, s)
  | .tag h x =>
      let s := s.skip
      match ← s.peek with
      | .anchor a => return (⟨some a, some (← s.resolveTag h x)⟩, s.skip)
      | _ => return (⟨none, some (← s.resolveTag h x)⟩, s)
  | _ => return ({}, s)

/-- The start of a node. In block context it may be a block collection; as the value of a key
also a sequence that is not indented. -/
private def readNode (s : Events) (block indentless : Bool) : Except YamlError (Event × Events) := do
  match ← s.peek with
  | .alias name => return (.alias name, s.skip.resume)
  | _ =>
      let (p, s) ← s.readProperties
      match ← s.peek with
      | .blockEntry =>
          if indentless then return (.sequenceStart p, { s with expect := .indentlessEntry })
          else if p = {} then .error .unexpectedToken
          else return (emptyScalar p, s.resume)
      | .scalar text plain =>
          return (.scalar p text plain, s.skip.resume)
      | .flowSequenceStart => return (.sequenceStart p, { s with expect := .flowSequenceFirst })
      | .flowMappingStart => return (.mappingStart p, { s with expect := .flowMappingFirst })
      | t =>
          if block && t = .blockSequenceStart then
            return (.sequenceStart p, { s with expect := .blockSequenceFirst })
          else if block && t = .blockMappingStart then
            return (.mappingStart p, { s with expect := .blockMappingFirst })
          else if p = {} then .error .unexpectedToken
          else return (emptyScalar p, s.resume)

private def readDirectives (version : Bool) (declared : List (String × Bytes)) :
    Nat → Events → Except YamlError Events
  | 0, _ => .error .unexpectedEnd
  | turns + 1, s => do
      match ← s.peek with
      | .versionDirective major minor =>
          if version || major ≠ 1 || (minor ≠ 1 && minor ≠ 2) then .error .badDirective
          readDirectives true declared turns s.skip
      | .tagDirective h x =>
          if (declared.find? (·.1 = h)).isSome then .error .badDirective
          readDirectives version (declared ++ [(h, x)]) turns s.skip
      | _ => return { s with handles := declared ++ defaultHandles }

private def skipDocumentEnds : Nat → Events → Events
  | 0, s => s
  | turns + 1, s =>
      match s.tokens with
      | .documentEnd :: _ => skipDocumentEnds turns s.skip
      | _ => s

/-- The start of a document. The first one needs no indicator. -/
private def readDocumentStart (s : Events) (implicit : Bool) :
    Except YamlError (Event × Events) := do
  let s := if implicit then s else skipDocumentEnds (s.tokens.length + 1) s
  let t ← s.peek
  let explicit := match t with
    | .versionDirective _ _ | .tagDirective _ _ | .documentStart | .streamEnd => true
    | _ => false
  if implicit && !explicit then
    return (.documentStart,
      { s with handles := defaultHandles, expect := .blockNode, later := .documentEnd :: s.later })
  else if t = .streamEnd then return (.streamEnd, { s with expect := .nothing })
  else
    let s ← readDirectives false [] (s.tokens.length + 1) s
    if (← s.peek) ≠ .documentStart then .error .unexpectedToken
    return (.documentStart,
      { s.skip with expect := .documentContent, later := .documentEnd :: s.later })

private def isOneOf (t : Token) (ts : List Token) : Bool :=
  ts.contains t

private def readBlockSequenceEntry (s : Events) : Except YamlError (Event × Events) := do
  match ← s.peek with
  | .blockEntry =>
      let s := s.skip
      if isOneOf (← s.peek) [.blockEntry, .blockEnd] then s.empty .blockSequenceEntry
      else (s.putOff .blockSequenceEntry).readNode true false
  | .blockEnd => return (.sequenceEnd, s.skip.resume)
  | _ => .error .unexpectedToken

private def readIndentlessEntry (s : Events) : Except YamlError (Event × Events) := do
  match ← s.peek with
  | .blockEntry =>
      let s := s.skip
      if isOneOf (← s.peek) [.blockEntry, .key, .value, .blockEnd] then s.empty .indentlessEntry
      else (s.putOff .indentlessEntry).readNode true false
  | _ => return (.sequenceEnd, s.resume)

private def readBlockMappingKey (s : Events) : Except YamlError (Event × Events) := do
  match ← s.peek with
  | .key =>
      let s := s.skip
      if isOneOf (← s.peek) [.key, .value, .blockEnd] then s.empty .blockMappingValue
      else (s.putOff .blockMappingValue).readNode true true
  | .blockEnd => return (.mappingEnd, s.skip.resume)
  | _ => .error .unexpectedToken

private def readBlockMappingValue (s : Events) : Except YamlError (Event × Events) := do
  match ← s.peek with
  | .value =>
      let s := s.skip
      if isOneOf (← s.peek) [.key, .value, .blockEnd] then s.empty .blockMappingKey
      else (s.putOff .blockMappingKey).readNode true true
  | _ => s.empty .blockMappingKey

private def readFlowSequenceEntry (s : Events) (first : Bool) :
    Except YamlError (Event × Events) := do
  let t ← s.peek
  if t = .flowSequenceEnd then return (.sequenceEnd, s.skip.resume)
  else if !first && t ≠ .flowEntry then .error .unexpectedToken
  else
    let s := if first then s else s.skip
    match ← s.peek with
    | .key => return (.mappingStart {}, { s.skip with expect := .flowPairKey })
    | .flowSequenceEnd => return (.sequenceEnd, s.skip.resume)
    | _ => (s.putOff .flowSequenceEntry).readNode false false

private def readFlowPairKey (s : Events) : Except YamlError (Event × Events) := do
  if isOneOf (← s.peek) [.value, .flowEntry, .flowSequenceEnd] then s.skip.empty .flowPairValue
  else (s.putOff .flowPairValue).readNode false false

private def readFlowPairValue (s : Events) : Except YamlError (Event × Events) := do
  if (← s.peek) = .value then
    let s := s.skip
    if isOneOf (← s.peek) [.flowEntry, .flowSequenceEnd] then s.empty .flowPairEnd
    else (s.putOff .flowPairEnd).readNode false false
  else s.empty .flowPairEnd

private def readFlowMappingKey (s : Events) (first : Bool) :
    Except YamlError (Event × Events) := do
  let t ← s.peek
  if t = .flowMappingEnd then return (.mappingEnd, s.skip.resume)
  else if !first && t ≠ .flowEntry then .error .unexpectedToken
  else
    let s := if first then s else s.skip
    match ← s.peek with
    | .key =>
        let s := s.skip
        if isOneOf (← s.peek) [.value, .flowEntry, .flowMappingEnd] then s.empty .flowMappingValue
        else (s.putOff .flowMappingValue).readNode false false
    | .flowMappingEnd => return (.mappingEnd, s.skip.resume)
    | _ => (s.putOff .flowMappingEmptyValue).readNode false false

private def readFlowMappingValue (s : Events) : Except YamlError (Event × Events) := do
  if (← s.peek) = .value then
    let s := s.skip
    if isOneOf (← s.peek) [.flowEntry, .flowMappingEnd] then s.empty .flowMappingKey
    else (s.putOff .flowMappingKey).readNode false false
  else s.empty .flowMappingKey

def step (s : Events) : Except YamlError (Event × Events) := do
  match s.expect with
  | .document implicit => s.readDocumentStart implicit
  | .documentContent =>
      match ← s.peek with
      | .versionDirective _ _ | .tagDirective _ _ | .documentStart | .documentEnd | .streamEnd =>
          return (emptyScalar {}, s.resume)
      | _ => s.readNode true false
  | .documentEnd =>
      let s := if (← s.peek) = .documentEnd then s.skip else s
      return (.documentEnd, { s with expect := .document false })
  | .blockNode => s.readNode true false
  | .blockSequenceFirst => s.skip.readBlockSequenceEntry
  | .blockSequenceEntry => s.readBlockSequenceEntry
  | .indentlessEntry => s.readIndentlessEntry
  | .blockMappingFirst => s.skip.readBlockMappingKey
  | .blockMappingKey => s.readBlockMappingKey
  | .blockMappingValue => s.readBlockMappingValue
  | .flowSequenceFirst => s.skip.readFlowSequenceEntry true
  | .flowSequenceEntry => s.readFlowSequenceEntry false
  | .flowPairKey => s.readFlowPairKey
  | .flowPairValue => s.readFlowPairValue
  | .flowPairEnd => return (.mappingEnd, { s with expect := .flowSequenceEntry })
  | .flowMappingFirst => s.skip.readFlowMappingKey true
  | .flowMappingKey => s.readFlowMappingKey false
  | .flowMappingValue => s.readFlowMappingValue
  | .flowMappingEmptyValue => s.empty .flowMappingKey
  | .nothing => .error .unexpectedEnd

end Events

/-- The events of a document between its start and its end, and the error that cuts it short. -/
structure DocumentEvents where
  events : List Event
  error : Option YamlError
  deriving DecidableEq, Repr

/-- Collect events into documents; a document with an error is the last. A stream without any
document counts as one without events. -/
private def collect : Nat → Bool → List Event → Events → List DocumentEvents
  | 0, _, _, _ => []
  | turns + 1, first, seen, s =>
      match s.step with
      | .error e => [⟨seen.reverse, some e⟩]
      | .ok (.streamEnd, _) => if first then [⟨seen.reverse, none⟩] else []
      | .ok (.documentStart, s) => collect turns first seen s
      | .ok (.documentEnd, s) => ⟨seen.reverse, none⟩ :: collect turns false [] s
      | .ok (e, s) => collect turns first (e :: seen) s

/-- The documents of a text. An event takes a token or stands for one that is missing, so a few
turns for each token suffice. -/
def documentEvents (text : String) : List DocumentEvents :=
  let (ts, behind) := tokens text
  let s : Events := {
    tokens := ts
    behind := behind.getD .unexpectedEnd
    expect := .document true
    later := []
    handles := Events.defaultHandles }
  collect (4 * ts.length + 16) true [] s

end SecretFlow.Yaml
