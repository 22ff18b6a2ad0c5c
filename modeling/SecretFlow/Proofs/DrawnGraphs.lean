import Mathlib.Logic.Function.Basic
import SecretFlow.Graph.Drawing

set_option autoImplicit false
set_option relaxedAutoImplicit false

/-!
What a drawing for Graphviz tells. Each part of it shows by itself where it ends, whatever stands
after it: a text in quotes ends at the first quote that no backslash takes away, and the lines of
nodes and of edges end where a line starts otherwise. So two graphs have one drawing exactly if they
have the same unit, the same edges, and nodes of the same ids, kinds and summaries, all in the same
order.
-/

namespace SecretFlow

/-- A way to write values that shows where the writing ends: whatever stands after it, the text that
follows can be told, and so can what is viewed of the value. -/
def SelfDelimiting {α β : Type} (write : α → List Char) (view : α → β) : Prop :=
  ∀ a b rest rest', write a ++ rest = write b ++ rest' → view a = view b ∧ rest = rest'

namespace SelfDelimiting

variable {α β γ : Type} {write : α → List Char} {view : α → β}

private theorem of_read (read : List Char → β × List Char)
    (reads : ∀ a rest, read (write a ++ rest) = (view a, rest)) : SelfDelimiting write view := by
  intro a b rest rest' same
  have told : (view a, rest) = (view b, rest') := by
    rw [← reads a rest, ← reads b rest', same]
  exact Prod.mk.inj told

private theorem comp (self : SelfDelimiting write view) (f : γ → α) :
    SelfDelimiting (fun c => write (f c)) (fun c => view (f c)) :=
  fun a b rest rest' same => self (f a) (f b) rest rest' same

private theorem after (self : SelfDelimiting write view) (text : List Char) :
    SelfDelimiting (fun a => text ++ write a) view := by
  intro a b rest rest' same
  simp only [List.append_assoc] at same
  exact self a b rest rest' (List.append_cancel_left same)

private theorem before (self : SelfDelimiting write view) (text : List Char) :
    SelfDelimiting (fun a => write a ++ text) view := by
  intro a b rest rest' same
  simp only [List.append_assoc] at same
  obtain ⟨told, rests⟩ := self a b _ _ same
  exact ⟨told, List.append_cancel_left rests⟩

private theorem both {write' : α → List Char} {view' : α → γ} (self : SelfDelimiting write view)
    (next : SelfDelimiting write' view') :
    SelfDelimiting (fun a => write a ++ write' a) (fun a => (view a, view' a)) := by
  intro a b rest rest' same
  simp only [List.append_assoc] at same
  obtain ⟨first, onward⟩ := self a b _ _ same
  obtain ⟨second, rests⟩ := next a b rest rest' onward
  exact ⟨Prod.ext first second, rests⟩

private theorem list (self : SelfDelimiting write view) {stop : List Char}
    (apart : ∀ a rest rest', write a ++ rest ≠ stop ++ rest') :
    SelfDelimiting (fun l => l.flatMap write ++ stop) (List.map view) := by
  intro l
  -- by induction on one row; the other one has to start in the same way
  induction l with
  | nil =>
    intro l' rest rest' same
    cases l' with
    | nil => exact ⟨rfl, List.append_cancel_left same⟩
    | cons b l' =>
      simp only [List.flatMap_nil, List.nil_append, List.flatMap_cons, List.append_assoc] at same
      exact absurd same.symm (apart b _ _)
  | cons a l ih =>
    intro l' rest rest' same
    cases l' with
    | nil =>
      simp only [List.flatMap_nil, List.nil_append, List.flatMap_cons, List.append_assoc] at same
      exact absurd same (apart a _ _)
    | cons b l' =>
      simp only [List.flatMap_cons, List.append_assoc] at same
      obtain ⟨first, onward⟩ := self a b _ _ same
      simp only [← List.append_assoc] at onward
      obtain ⟨others, rests⟩ := ih l' rest rest' onward
      exact ⟨by rw [List.map_cons, List.map_cons, first, others], rests⟩

private theorem upTo {text : α → String} {mark : Char} (unmarked : ∀ a, mark ∉ (text a).toList) :
    SelfDelimiting (fun a => (text a).toList ++ [mark]) text := by
  refine of_read
    (fun s => (String.ofList (s.takeWhile (· != mark)), (s.dropWhile (· != mark)).tail)) ?_
  intro a rest
  have plain : ∀ c ∈ (text a).toList, (c != mark) = true := by
    intro c hc
    rw [bne_iff_ne]
    exact fun same => unmarked a (same ▸ hc)
  rw [List.append_assoc, List.takeWhile_append_of_pos plain, List.dropWhile_append_of_pos plain]
  simp

end SelfDelimiting

private theorem intercalate_concat (separator last : List Char) (ls : List (List Char)) :
    separator.intercalate (ls ++ [last]) = ls.flatMap (· ++ separator) ++ last := by
  induction ls with
  | nil => simp
  | cons l ls ih =>
    have more : ls ++ [last] ≠ [] := by simp
    rw [List.cons_append, List.intercalate_cons_of_ne_nil more, ih]
    simp

private theorem Relation.word_injective {r r' : Relation} (same : r.word = r'.word) : r = r' := by
  cases r <;> cases r' <;> first | rfl | exact absurd same (by decide)

/-- What a drawing tells of a node: its id, the name of its kind, and its payload in short. -/
def Node.drawn (n : Node) : NodeId × String × String :=
  (n.id, n.kind.label, n.payload.summary)

namespace Graph

def readEscaped : List Char → List Char × List Char
  | [] => ([], [])
  | '\\' :: c :: rest => ((c :: (readEscaped rest).1), (readEscaped rest).2)
  | c :: rest =>
      if c = '\x22' then ([], rest) else ((c :: (readEscaped rest).1), (readEscaped rest).2)

private theorem readEscaped_escapeQuoted (s rest : List Char) :
    readEscaped (escapeQuoted s ++ '\x22' :: rest) = (s, rest) := by
  induction s with
  | nil => rfl
  | cons c s ih =>
    by_cases backslash : c = '\\'
    · subst backslash
      have step : escapeQuoted ('\\' :: s) = '\\' :: '\\' :: escapeQuoted s := rfl
      rw [step, List.cons_append, List.cons_append, readEscaped, ih]
    · by_cases quote : c = '\x22'
      · subst quote
        have step : escapeQuoted ('\x22' :: s) = '\\' :: '\x22' :: escapeQuoted s := rfl
        rw [step, List.cons_append, List.cons_append, readEscaped, ih]
      · have step : escapeQuoted (c :: s) = c :: escapeQuoted s := by
          simp [escapeQuoted, Text.replaceChar, backslash, quote]
        rw [step, List.cons_append, readEscaped]
        · rw [if_neg quote, ih]
        · intro d more same
          exact absurd same backslash

private theorem selfDelimiting_escaped :
    SelfDelimiting (fun s : String => escapeQuoted s.toList ++ ['\x22']) id := by
  refine .of_read (fun text => ((String.ofList (readEscaped text).1), (readEscaped text).2)) ?_
  intro s rest
  rw [List.append_assoc, List.singleton_append, readEscaped_escapeQuoted, String.ofList_toList]
  rfl

private theorem toList_quoted (s : String) :
    (quoted s).toList = ['\x22'] ++ (escapeQuoted s.toList ++ ['\x22']) := by
  simp [quoted]

private theorem selfDelimiting_quoted : SelfDelimiting (fun s => (quoted s).toList) id := by
  simp only [toList_quoted]
  exact selfDelimiting_escaped.after ['\x22']

/-! Where the fixed texts of a line are cut: a backslash ends the name of a kind, and a quote ends a
text in quotes. -/

private theorem toList_escape : "\\n".toList = ['\\'] ++ ['n'] := rfl

private theorem toList_fill : "\", fillcolor=\"".toList = ['\x22'] ++ ", fillcolor=\"".toList := rfl

private theorem toList_close : "\"];".toList = ['\x22'] ++ "];".toList := rfl

private def colourNamed (label : String) : String :=
  if label = NodeKind.label .manifestRoot then fillColour .manifestRoot
  else if label = NodeKind.label .secretDeclaration then fillColour .secretDeclaration
  else if label = NodeKind.label (.externalSink .stdout "") then fillColour (.externalSink .stdout "")
  else if label = NodeKind.label (.unresolved .notFound) then fillColour (.unresolved .notFound)
  else fillColour .envVarRef

private theorem fillColour_eq (k : NodeKind) : fillColour k = colourNamed k.label := by
  cases k <;> rfl

private theorem fillColour_eq_of_label {k k' : NodeKind} (same : k.label = k'.label) :
    fillColour k = fillColour k' := by
  rw [fillColour_eq, fillColour_eq, same]

private theorem selfDelimiting_dotNode :
    SelfDelimiting (fun n => (dotNode n).toList) Node.drawn := by
  have label : SelfDelimiting (fun n : Node => n.kind.label.toList ++ ['\\']) (·.kind.label) := by
    refine .upTo ?_
    intro n
    cases n.kind <;> simp [NodeKind.label]
  have colour : SelfDelimiting (fun n : Node => (fillColour n.kind).toList ++ ['\x22'])
      (fillColour ·.kind) := by
    refine .upTo ?_
    intro n
    cases n.kind <;> simp [fillColour]
  have summary := selfDelimiting_escaped.comp (fun n : Node => n.payload.summary)
  have id := selfDelimiting_quoted.comp Node.id
  have line := ((id.both (((label.before ['n']).both (summary.both
    ((colour.before "];".toList).after ", fillcolor=\"".toList))).after " [label=\"".toList)).after
      "    ".toList)
  intro n n' rest rest' same
  have spelt (n : Node) : (dotNode n).toList = "    ".toList ++ ((quoted n.id).toList ++
      (" [label=\"".toList ++ ((n.kind.label.toList ++ ['\\'] ++ ['n']) ++
        (escapeQuoted n.payload.summary.toList ++ ['\x22'] ++ (", fillcolor=\"".toList ++
          ((fillColour n.kind).toList ++ ['\x22'] ++ "];".toList)))))) := by
    simp only [dotNode, String.toList_append, String.toList_ofList, List.append_assoc]
    rw [toList_escape, toList_fill, toList_close]
    simp only [List.append_assoc]
  simp only [spelt] at same
  obtain ⟨told, rests⟩ := line n n' rest rest' same
  simp only [id_eq, Prod.mk.injEq] at told
  obtain ⟨ids, labels, summaries, _⟩ := told
  exact ⟨by rw [Node.drawn, Node.drawn, ids, labels, summaries], rests⟩

private theorem dotNode_factorsThrough : Function.FactorsThrough dotNode Node.drawn := by
  intro n n' same
  simp only [Node.drawn, Prod.mk.injEq] at same
  obtain ⟨ids, labels, summaries⟩ := same
  unfold dotNode
  rw [ids, labels, summaries, fillColour_eq_of_label labels]

private theorem selfDelimiting_dotEdge : SelfDelimiting (fun e => (dotEdge e).toList) id := by
  have relation : SelfDelimiting (fun e : Edge => e.relation.word.toList ++ ['\x22'])
      (·.relation.word) := by
    refine .upTo ?_
    intro e
    cases e.relation <;> decide
  have source := selfDelimiting_quoted.comp Edge.source
  have target := selfDelimiting_quoted.comp Edge.target
  have line := (source.both ((target.both ((relation.before "];".toList).after
    " [label=\"".toList)).after " -> ".toList)).after "    ".toList
  intro e e' rest rest' same
  have spelt (e : Edge) : (dotEdge e).toList = "    ".toList ++ ((quoted e.source).toList ++
      (" -> ".toList ++ ((quoted e.target).toList ++ (" [label=\"".toList ++
        (e.relation.word.toList ++ ['\x22'] ++ "];".toList))))) := by
    simp only [dotEdge, String.toList_append, List.append_assoc]
    rw [toList_close]
  simp only [spelt] at same
  obtain ⟨told, rests⟩ := line e e' rest rest' same
  simp only [id_eq, Prod.mk.injEq] at told
  obtain ⟨sources, targets, words⟩ := told
  obtain ⟨source, target, relation⟩ := e
  obtain ⟨source', target', relation'⟩ := e'
  obtain rfl : source = source' := sources
  obtain rfl : target = target' := targets
  obtain rfl : relation = relation' := Relation.word_injective words
  exact ⟨rfl, rests⟩

private def drawingHead : String :=
  " \x7b" ++ "\n" ++ "    rankdir=LR;" ++ "\n" ++
    "    node [shape=box, style=\"rounded,filled\", fontname=\"Helvetica\"];" ++ "\n" ++ "" ++ "\n"

private theorem toList_toDot (g : Graph) : g.toDot.toList =
    "digraph ".toList ++ ((quoted g.unit).toList ++ (drawingHead.toList ++
      (((g.nodes.flatMap fun n => (dotNode n).toList ++ ['\n']) ++ ['\n']) ++
        ((g.edges.flatMap fun e => (dotEdge e).toList ++ ['\n']) ++ ['\x7d'])))) := by
  unfold toDot drawingHead
  rw [String.toList_intercalate, List.map_append, List.map_singleton]
  refine (intercalate_concat _ _ _).trans ?_
  have lineBreak : "\n".toList = ['\n'] := rfl
  have brace : "\x7d".toList = ['\x7d'] := rfl
  simp only [List.map_append, List.map_cons, List.map_nil, List.map_map, List.flatMap_append,
    List.flatMap_cons, List.flatMap_nil, List.flatMap_map, String.toList_append, String.toList_empty,
    lineBreak, brace, List.append_assoc, List.nil_append, List.append_nil, Function.comp_def]

private theorem selfDelimiting_toDot : SelfDelimiting (fun g : Graph => g.toDot.toList)
    (fun g => (g.unit, g.nodes.map Node.drawn, g.edges)) := by
  -- a line starts with a blank, and neither an empty line nor the closing brace does
  have nodes : SelfDelimiting (fun ns => ns.flatMap (fun n => (dotNode n).toList ++ ['\n']) ++ ['\n'])
      (List.map Node.drawn) := by
    refine (selfDelimiting_dotNode.before ['\n']).list ?_
    intro n rest rest' same
    simp [dotNode] at same
  have edges : SelfDelimiting (fun es => es.flatMap (fun e => (dotEdge e).toList ++ ['\n']) ++ ['\x7d'])
      (List.map id) := by
    refine (selfDelimiting_dotEdge.before ['\n']).list ?_
    intro e rest rest' same
    simp [dotEdge] at same
  have drawing := ((selfDelimiting_quoted.comp Graph.unit).both
    (((nodes.comp Graph.nodes).both (edges.comp Graph.edges)).after
      drawingHead.toList)).after "digraph ".toList
  simp only [toList_toDot]
  simpa only [id_eq, List.map_id] using drawing

/-- A drawing can be decoded. Two graphs have the same drawing exactly if they have the same unit,
nodes of the same ids, kinds and summaries in the same order, and the same edges in the same order,
whatever quotes, backslashes and line breaks stand in their texts. -/
theorem toDot_eq_iff (g h : Graph) : g.toDot = h.toDot ↔
    g.unit = h.unit ∧ g.nodes.map Node.drawn = h.nodes.map Node.drawn ∧ g.edges = h.edges := by
  constructor
  · intro same
    have texts : g.toDot.toList ++ [] = h.toDot.toList ++ [] := by rw [same]
    obtain ⟨told, _⟩ := selfDelimiting_toDot g h [] [] texts
    simp only [Prod.mk.injEq] at told
    exact told
  · rintro ⟨units, nodes, edges⟩
    obtain ⟨line, eq⟩ := (Function.factorsThrough_iff _).mp dotNode_factorsThrough
    have lines : g.nodes.map dotNode = h.nodes.map dotNode := by
      rw [eq, ← List.map_map, ← List.map_map, nodes]
    unfold toDot
    rw [units, lines, edges]

end Graph

end SecretFlow
