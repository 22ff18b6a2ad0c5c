import SecretFlow.Graph.Basic
import SecretFlow.Text.Search

set_option autoImplicit false
set_option relaxedAutoImplicit false

/-!
Drawings of a flow graph as text, for Graphviz and for Mermaid.
-/

namespace SecretFlow.Graph

def escapeQuoted (s : List Char) : List Char :=
  Text.replaceChar '\x22' ['\\', '\x22'] (Text.replaceChar '\\' ['\\', '\\'] s)

def quoted (s : String) : String :=
  "\"" ++ String.ofList (escapeQuoted s.toList) ++ "\""

def fillColour : NodeKind → String
  | .manifestRoot => "#e5e7eb"
  | .secretDeclaration => "#f59e0b"
  | .externalSink _ _ => "#ef4444"
  | .unresolved _ => "#a855f7"
  | _ => "#93c5fd"

def dotNode (n : Node) : String :=
  let summary := String.ofList (escapeQuoted n.payload.summary.toList)
  "    " ++ quoted n.id ++ " [label=\"" ++ n.kind.label ++ "\\n" ++ summary ++
    "\", fillcolor=\"" ++ fillColour n.kind ++ "\"];"

def dotEdge (e : Edge) : String :=
  "    " ++ quoted e.source ++ " -> " ++ quoted e.target ++ " [label=\"" ++ e.relation.word ++
    "\"];"

def toDot (g : Graph) : String :=
  let head := [
    "digraph " ++ quoted g.unit ++ " \x7b",
    "    rankdir=LR;",
    "    node [shape=box, style=\"rounded,filled\", fontname=\"Helvetica\"];",
    ""]
  "\n".intercalate (head ++ g.nodes.map dotNode ++ [""] ++ g.edges.map dotEdge ++ ["\x7d"])

private def mermaidLabel (n : Node) : String :=
  let text := n.kind.label ++ ": " ++ n.payload.summary
  String.ofList (text.toList.map fun c => if c = '\x22' then '\'' else c)

/-- The graph as a Mermaid flow chart, with nodes numbered in order. -/
def toMermaid (g : Graph) : String :=
  let number (id : NodeId) : Nat := g.nodes.findIdx (·.id = id)
  let nodes := g.nodes.mapIdx fun i n => s!"    n{i}[\"" ++ mermaidLabel n ++ "\"]"
  let edges := g.edges.map fun e =>
    s!"    n{number e.source} -->|" ++ e.relation.word ++ s!"| n{number e.target}"
  "\n".intercalate ("graph LR" :: (nodes ++ edges))

end SecretFlow.Graph
