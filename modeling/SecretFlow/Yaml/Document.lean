import SecretFlow.Yaml.Event
import SecretFlow.Yaml.Plain

set_option autoImplicit false
set_option relaxedAutoImplicit false

/-!
Documents of a YAML text as values. Aliases are followed, a key stands once in its mapping, and
both the depth and the number of aliases followed are bounded.
-/

namespace SecretFlow.Yaml

/-- Nodes in the order of the text, where an alias carries the number of its anchor. -/
inductive Item where
  | alias (anchor : Nat)
  | scalar (tag : Option Tag) (text : String) (plain : Bool)
  | sequenceStart (tag : Option Tag)
  | sequenceEnd
  | mappingStart (tag : Option Tag)
  | mappingEnd
  deriving DecidableEq, Repr

/-- The nodes of a document, and for each anchor's number the place of its node. -/
structure Outline where
  items : Array Item := #[]
  anchors : List (String × Nat) := []
  places : List (Nat × Nat) := []

namespace Outline

private def push (o : Outline) (i : Item) : Outline :=
  { o with items := o.items.push i }

/-- Number an anchor by how many names are known; a name that is used again takes the new
number. -/
private def note (o : Outline) : Option String → Outline
  | none => o
  | some name =>
      let number := o.anchors.length
      { o with
        anchors := (name, number) :: o.anchors.filter (·.1 ≠ name)
        places := (number, o.items.size) :: o.places.filter (·.1 ≠ number) }

private def add (o : Outline) : Event → Except YamlError Outline
  | .alias name =>
      match o.anchors.find? (·.1 = name) with
      | some (_, number) => .ok (o.push (.alias number))
      | none => .error .unknownAlias
  | .scalar p text plain => .ok ((o.note p.anchor).push (.scalar p.tag text plain))
  | .sequenceStart p => .ok ((o.note p.anchor).push (.sequenceStart p.tag))
  | .sequenceEnd => .ok (o.push .sequenceEnd)
  | .mappingStart p => .ok ((o.note p.anchor).push (.mappingStart p.tag))
  | .mappingEnd => .ok (o.push .mappingEnd)
  | _ => .ok o

def ofEvents (events : List Event) : Except YamlError Outline :=
  events.foldlM add {}

end Outline

def maxDepth : Nat := 128

/-- How many aliases may be followed for each node of a document. -/
def aliasesPerNode : Nat := 100

/-- What reading a node gives: its value, the place after it, and the aliases followed so far. -/
private abbrev Reading := Except YamlError (Value × Nat × Nat)

private def readItems (items : Array Item) (read : Nat → Nat → Reading) :
    Nat → List Value → Nat → Nat → Reading
  | 0, _, _, _ => .error .unexpectedEnd
  | turns + 1, seen, place, jumps =>
      match items[place]? with
      | none => .error .unexpectedEnd
      | some .sequenceEnd => .ok (.sequence seen.reverse, place + 1, jumps)
      | some _ =>
          match read place jumps with
          | .error e => .error e
          | .ok (v, place, jumps) => readItems items read turns (v :: seen) place jumps

private def readEntries (items : Array Item) (read : Nat → Nat → Reading) :
    Nat → List (Value × Value) → Nat → Nat → Reading
  | 0, _, _, _ => .error .unexpectedEnd
  | turns + 1, seen, place, jumps =>
      match items[place]? with
      | none => .error .unexpectedEnd
      | some .mappingEnd => .ok (.mapping seen.reverse, place + 1, jumps)
      | some _ =>
          match read place jumps with
          | .error e => .error e
          | .ok (k, place, jumps) =>
              if seen.any (k.same ·.1) then .error .duplicateKey
              else
                match read place jumps with
                | .error e => .error e
                | .ok (v, place, jumps) =>
                    readEntries items read turns ((k, v) :: seen) place jumps

private def wrap (tag : Option Tag) (r : Reading) : Reading :=
  match tag with
  | some (.named name) => r.map fun (v, rest) => (.tagged name v, rest)
  | _ => r

private def scalarValue (tag : Option Tag) (text : String) (plain : Bool) :
    Except YamlError Value :=
  match tag with
  | some t => Plain.tagged t text plain
  | none => Plain.untagged text plain

/-- Read the node at a place that holds no alias; how to read what stands deeper is not given
where no more collections may be opened. -/
private def readOpen (items : Array Item) (deeper : Option (Nat → Nat → Reading))
    (place jumps : Nat) : Reading :=
  match items[place]? with
  | some (.scalar tag text plain) =>
      (scalarValue tag text plain).map fun v => (v, place + 1, jumps)
  | some (.sequenceStart tag) =>
      match deeper with
      | none => .error .tooDeep
      | some read => wrap tag (readItems items read (items.size + 1) [] (place + 1) jumps)
  | some (.mappingStart tag) =>
      match deeper with
      | none => .error .tooDeep
      | some read => wrap tag (readEntries items read (items.size + 1) [] (place + 1) jumps)
  | _ => .error .unexpectedEnd

private def readNode (o : Outline) (deeper : Option (Nat → Nat → Reading))
    (place jumps : Nat) : Reading :=
  match o.items[place]? with
  | some (.alias number) =>
      if aliasesPerNode * o.items.size < jumps + 1 then .error .tooManyAliases
      else
        match o.places.find? (·.1 = number) with
        | none => .error .unknownAlias
        | some (_, target) =>
            match readOpen o.items deeper target (jumps + 1) with
            | .error e => .error e
            | .ok (v, _, jumps) => .ok (v, place + 1, jumps)
  | _ => readOpen o.items deeper place jumps

/-- Read a node inside collections, so many of which may still be opened. -/
private def readNested (o : Outline) : Nat → Nat → Nat → Reading
  | 0 => readNode o none
  | depth + 1 => readNode o (some (readNested o depth))

namespace Outline

/-- The value of a document; one without nodes is null. -/
def value (o : Outline) : Except YamlError Value :=
  if o.items.isEmpty then .ok .null
  else (readNested o maxDepth 0 0).map (·.1)

end Outline

def DocumentEvents.value (d : DocumentEvents) : Except YamlError Value :=
  match Outline.ofEvents d.events, d.error with
  | .error e, _ => .error e
  | .ok _, some e => .error e
  | .ok o, none => o.value

def documents (text : String) : List (Except YamlError Value) :=
  (documentEvents text).map DocumentEvents.value

end SecretFlow.Yaml
