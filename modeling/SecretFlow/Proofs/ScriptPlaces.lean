import Mathlib.Data.List.Induction
import SecretFlow.Proofs.SingleFileRoots

set_option autoImplicit false
set_option relaxedAutoImplicit false

/-!
Where scripts are read from. A path in a container is followed from the folder of the manifest, from
the scan root, and by its last name from the folder of the manifest again. The first of these ways
that ends at a file below the scan root gives the script, however the path is written, and no file
outside the scan root has any influence on the text.
-/

namespace SecretFlow

/-! ### Paths as pieces -/

private theorem not_mem_of_mem_splitOn {α : Type} [BEq α] [LawfulBEq α] {a : α} {xs piece : List α}
    (stands : piece ∈ xs.splitOn a) : a ∉ piece := by
  induction xs generalizing piece with
  | nil =>
    rw [List.splitOn_nil, List.mem_singleton] at stands
    rw [stands]
    exact List.not_mem_nil
  | cons x xs ih =>
    rw [List.splitOn_cons_eq_if_modifyHead] at stands
    split at stands
    · rcases List.mem_cons.mp stands with rfl | later
      · exact List.not_mem_nil
      · exact ih later
    · rename_i other
      have differs : a ≠ x := fun same => other (beq_iff_eq.mpr same.symm)
      obtain ⟨first, rest, split⟩ := List.exists_cons_of_ne_nil (List.splitOn_ne_nil a xs)
      rw [split] at ih stands
      rw [List.modifyHead_cons] at stands
      rcases List.mem_cons.mp stands with rfl | later
      · exact List.not_mem_cons_of_ne_of_not_mem differs (ih List.mem_cons_self)
      · exact ih (List.mem_cons_of_mem first later)

namespace Path

/-- The texts between the separators of a path, dots among them. -/
def named (path : String) : List String :=
  ((path.toList.splitOn '/').filter (· ≠ [])).map String.ofList

def IsPiece (piece : String) : Prop :=
  piece ≠ "" ∧ '/' ∉ piece.toList

def ofPieces (pieces : List String) : String :=
  pieces.foldl join ""

private theorem named_empty : named "" = [] := by
  decide

private theorem named_of_isPiece {piece : String} (is : IsPiece piece) : named piece = [piece] := by
  have filled : piece.toList ≠ [] := fun same => is.1 (String.toList_injective same)
  unfold named
  rw [List.splitOn_eq_singleton is.2]
  simp [filled]

private theorem named_append (base rest : String) :
    named (base ++ "/" ++ rest) = named base ++ named rest := by
  have chars : (base ++ "/" ++ rest).toList = base.toList ++ '/' :: rest.toList := by
    simp
  unfold named
  rw [chars, List.splitOn_append_cons_self, List.filter_append, List.map_append]

section Join

variable (base : String) {rest : String}

private theorem named_join (relative : isAbsolute rest = false) :
    named (join base rest) = named base ++ named rest := by
  unfold join
  rw [relative, Bool.false_or]
  split
  · rename_i empty
    rw [String.isEmpty_iff.mp empty, named_empty, List.nil_append]
  · split
    · rename_i last
      obtain ⟨front, chars⟩ := List.getLast?_eq_some_iff.mp last
      obtain rfl : base = String.ofList front ++ "/" := String.toList_injective (by simp [chars])
      have whole := named_append (String.ofList front) ""
      rw [String.append_empty, named_empty, List.append_nil] at whole
      rw [named_append, whole]
    · exact named_append base rest

private theorem isAbsolute_join (relative : isAbsolute rest = false) :
    isAbsolute (join base rest) = isAbsolute base := by
  unfold join
  rw [relative, Bool.false_or]
  split
  · rename_i empty
    rw [String.isEmpty_iff.mp empty, relative]
    rfl
  · rename_i filled
    obtain ⟨c, cs, chars⟩ := List.exists_cons_of_ne_nil (l := base.toList) (by simpa using filled)
    split <;> simp [isAbsolute, chars]

private theorem join_ends (filled : rest ≠ "") :
    join base rest ≠ "" ∧ (join base rest).toList.getLast? = rest.toList.getLast? := by
  have chars : rest.toList ≠ [] := fun same => filled (String.toList_injective same)
  unfold join
  split
  · exact ⟨filled, rfl⟩
  · split <;>
      simp [filled, List.getLast?_append, List.getLast?_cons, List.getLast?_eq_some_getLast chars]

end Join

section OfPieces

variable {pieces : List String}

private theorem ofPieces_concat (pieces : List String) (piece : String) :
    ofPieces (pieces ++ [piece]) = join (ofPieces pieces) piece := by
  simp [ofPieces]

private theorem isAbsolute_ofPieces (all : ∀ piece ∈ pieces, IsPiece piece) :
    isAbsolute (ofPieces pieces) = false := by
  induction pieces using List.reverseRecOn with
  | nil => rfl
  | append_singleton pieces piece ih =>
    have last := all piece (by simp)
    rw [ofPieces_concat, isAbsolute_join _ (isAbsolute_bare last.2)]
    exact ih fun other before => all other (List.mem_append_left _ before)

private theorem named_ofPieces (all : ∀ piece ∈ pieces, IsPiece piece) :
    named (ofPieces pieces) = pieces := by
  induction pieces using List.reverseRecOn with
  | nil => exact named_empty
  | append_singleton pieces piece ih =>
    have last := all piece (by simp)
    have before := ih fun other before => all other (List.mem_append_left _ before)
    rw [ofPieces_concat, named_join _ (isAbsolute_bare last.2), named_of_isPiece last, before]

private theorem ofPieces_ends (all : ∀ piece ∈ pieces, IsPiece piece) (filled : pieces ≠ []) :
    ofPieces pieces ≠ "" ∧ (ofPieces pieces).toList.getLast? ≠ some '/' := by
  obtain ⟨front, piece, rfl⟩ := (List.eq_nil_or_concat' pieces).resolve_left filled
  have last := all piece (by simp)
  obtain ⟨whole, ends⟩ := join_ends (ofPieces front) last.1
  rw [ofPieces_concat, ends]
  exact ⟨whole, fun slash => last.2 (List.mem_of_getLast? slash)⟩

end OfPieces

private theorem isPiece_of_mem_components {path : String} {c : Component} (hc : c ∈ components path)
    (below : c ≠ .root) : IsPiece c.text := by
  unfold components at hc
  rcases List.mem_append.mp hc with start | later
  · unfold startComponent at start
    split at start
    · exact absurd (List.mem_singleton.mp start) below
    · rw [List.mem_singleton.mp start]
      exact ⟨by decide, by decide⟩
    · exact absurd start List.not_mem_nil
  · obtain ⟨piece, hp, rfl⟩ := List.mem_map.mp later
    obtain ⟨stands, counted⟩ := List.mem_filter.mp hp
    have clean := not_mem_of_mem_splitOn stands
    have filled : piece ≠ [] := by
      rintro rfl
      cases counted
    unfold pieceComponent
    split
    · exact ⟨by decide, by decide⟩
    · exact ⟨by simpa [Component.text] using filled, by simpa [Component.text] using clean⟩

def steps (path : String) : List String :=
  ((components path).filter (· ≠ .root)).map Component.text

private theorem isPiece_of_mem_steps {path piece : String} (hp : piece ∈ steps path) :
    IsPiece piece := by
  obtain ⟨c, hc, rfl⟩ := List.mem_map.mp hp
  obtain ⟨stands, below⟩ := List.mem_filter.mp hc
  exact isPiece_of_mem_components stands (by simpa using below)

private theorem isPiece_fileName {path name : String} (is : fileName? path = some name) :
    IsPiece name := by
  unfold fileName? at is
  split at is
  · rename_i last
    obtain rfl := Option.some.inj is
    exact isPiece_of_mem_components (List.mem_of_getLast? last) (by simp)
  · cases is

private theorem ofComponents_eq (cs : List Component) :
    ofComponents cs = ofPieces (cs.map Component.text) :=
  List.foldl_map.symm

end Path

/-! ### Ways through a tree -/

/-- A way to look for a file: the path of a folder, and the pieces to follow from there. -/
structure Route where
  base : String
  pieces : List String

def Route.path (r : Route) : String :=
  Path.join r.base (Path.ofPieces r.pieces)

namespace FileTree

variable {t : FileTree} {place : Location}

def start (t : FileTree) (path : String) : Location :=
  if Path.isAbsolute path then [] else t.here

/-- The folder that a path leads to; the empty path stands for the folder where relative paths
start. -/
def folder (t : FileTree) (path : String) : Except AccessError Location :=
  t.follow (t.start path) (Path.named path ++ ["."])

def along (t : FileTree) (r : Route) : Except AccessError Location :=
  (t.folder r.base).bind (t.follow · r.pieces)

private theorem follow_append (a b : List String) :
    t.follow place (a ++ b) = (t.follow place a).bind (t.follow · b) := by
  induction a generalizing place with
  | nil => rfl
  | cons piece a ih =>
    rw [List.cons_append, follow, follow]
    cases t.step place piece with
    | error e => rfl
    | ok next => exact ih

private theorem follow_dot (piece : String) (rest : List String) :
    t.follow place ("." :: piece :: rest) = t.follow place (piece :: rest) := by
  rw [follow]
  cases dot : t.step place "." with
  | ok next => rw [(step_eq_ok dot).2.1 rfl]
  | error e =>
    have same : t.step place piece = .error e := by
      unfold step at dot ⊢
      split at dot
      · exact dot
      · exact dot
      · cases dot
    rw [follow, same]

private theorem folder_of_dot {pieces : List String} {next : Location}
    (goes : t.follow place (pieces ++ ["."]) = .ok next) :
    ∃ entries, t.top.at? next = some (.folder entries) := by
  rw [follow_append] at goes
  cases before : t.follow place pieces with
  | error e =>
    rw [before] at goes
    cases goes
  | ok last =>
    rw [before] at goes
    have stays : t.step last "." = .ok next := (t.follow_one last ".").symm.trans goes
    obtain ⟨folder, same, -⟩ := step_eq_ok stays
    rwa [same rfl]

private theorem locate_eq {path : String} (filled : path ≠ "") : t.locate path =
    t.follow (t.start path) (Path.named path ++
      if path.toList.getLast? = some '/' then ["."] else []) := by
  have pieces_eq : pieces path = Path.named path ++
      if path.toList.getLast? = some '/' then ["."] else [] := by
    unfold pieces
    dsimp only
    split
    · rfl
    · exact (List.append_nil _).symm
  unfold locate
  rw [if_neg (by simpa using filled), pieces_eq]
  rfl

private theorem start_join (t : FileTree) (base : String) {rest : String}
    (relative : Path.isAbsolute rest = false) : t.start (Path.join base rest) = t.start base := by
  rw [start, start, Path.isAbsolute_join base relative]

private theorem locate_path {r : Route} (all : ∀ piece ∈ r.pieces, Path.IsPiece piece)
    (filled : r.pieces ≠ []) : t.locate r.path = t.along r := by
  obtain ⟨base, pieces⟩ := r
  have relative := Path.isAbsolute_ofPieces all
  obtain ⟨nonempty, ends⟩ := Path.ofPieces_ends all filled
  obtain ⟨whole, last⟩ := Path.join_ends base nonempty
  obtain ⟨piece, rest, rfl⟩ := List.exists_cons_of_ne_nil filled
  unfold Route.path along folder
  rw [locate_eq whole, last, if_neg ends, List.append_nil, t.start_join base relative,
    Path.named_join base relative, Path.named_ofPieces all, ← follow_append, List.append_assoc,
    List.singleton_append, follow_append, follow_append]
  simp only [follow_dot]

private theorem folder_of_locate_path {base : String}
    (goes : t.locate (Route.path ⟨base, []⟩) = .ok place) :
    ∃ entries, t.top.at? place = some (.folder entries) := by
  by_cases empty : base = ""
  · subst empty
    cases goes
  · have relative : Path.isAbsolute "" = false := rfl
    have slash : (Route.path ⟨base, []⟩).toList.getLast? = some '/' := by
      have filled : base.isEmpty = false := by simpa using empty
      unfold Route.path Path.join
      rw [filled]
      split
      · contradiction
      · split
        · rename_i last
          simpa [Path.ofPieces] using last
        · simp [Path.ofPieces]
    have nonempty : Route.path ⟨base, []⟩ ≠ "" := by
      intro same
      rw [same] at slash
      cases slash
    rw [locate_eq nonempty, if_pos slash] at goes
    exact folder_of_dot goes

private theorem locate_path_file {r : Route} (all : ∀ piece ∈ r.pieces, Path.IsPiece piece)
    {bytes : Text.Utf8.Bytes} (file : t.top.at? place = some (.file bytes)) :
    t.locate r.path = .ok place ↔ t.along r = .ok place := by
  obtain ⟨base, pieces⟩ := r
  cases pieces with
  | cons piece rest => rw [locate_path all (by simp)]
  | nil =>
    constructor
    · intro goes
      obtain ⟨entries, folder⟩ := folder_of_locate_path goes
      cases folder.symm.trans file
    · intro goes
      have same : t.folder base = .ok place := by
        unfold along at goes
        cases found : t.folder base with
        | error e =>
          rw [found] at goes
          cases goes
        | ok next =>
          rw [found] at goes
          exact goes
      obtain ⟨entries, folder⟩ := folder_of_dot same
      cases folder.symm.trans file

/-! ### Trees with the same names -/

/-- Files and folders stand at the same places of both trees. -/
structure SameNames (t u : FileTree) : Prop where
  here : t.here = u.here
  kinds : ∀ place, (t.top.at? place).map Entry.isFile = (u.top.at? place).map Entry.isFile

variable {u : FileTree}

private theorem at?_concat (entry : Entry) (place : Location) (name : String) :
    entry.at? (place ++ [name]) = (entry.at? place).bind (Entry.child? name) := by
  induction place generalizing entry with
  | nil =>
    simp only [List.nil_append, Entry.at?, Option.bind_some]
    cases entry.child? name <;> rfl
  | cons first rest ih =>
    simp only [List.cons_append, Entry.at?]
    cases entry.child? first with
    | none => rfl
    | some below => exact ih below

private theorem SameNames.step_eq (same : t.SameNames u) (place : Location) (piece : String) :
    t.step place piece = u.step place piece := by
  have below := same.kinds (place ++ [piece])
  have here := same.kinds place
  rw [at?_concat, at?_concat] at below
  unfold step
  cases ht : t.top.at? place with
  | none =>
    cases hu : u.top.at? place with
    | none => rfl
    | some e => simp [ht, hu] at here
  | some e =>
    cases hu : u.top.at? place with
    | none => simp [ht, hu] at here
    | some f =>
      rw [ht, hu] at here below
      cases e with
      | file b =>
        cases f with
        | file c => rfl
        | folder fs => cases here
      | folder es =>
        cases f with
        | file c => cases here
        | folder fs =>
          have known : (es.lookup piece).isSome = (fs.lookup piece).isSome := by
            have kinds := congrArg Option.isSome below
            simpa [Entry.child?] using kinds
          simp only [known]

private theorem SameNames.follow_eq (same : t.SameNames u) (place : Location)
    (pieces : List String) : t.follow place pieces = u.follow place pieces := by
  induction pieces generalizing place with
  | nil => rfl
  | cons piece rest ih =>
    rw [follow, follow, same.step_eq]
    cases u.step place piece with
    | error e => rfl
    | ok next => exact ih next

private theorem SameNames.locate_eq (same : t.SameNames u) (path : String) :
    t.locate path = u.locate path := by
  unfold locate
  rw [same.here]
  split
  · rfl
  · exact same.follow_eq _ _

private theorem isFile_eq (path : String) : t.isFile path =
    match t.locate path with
    | .ok place => ((t.top.at? place).map Entry.isFile).getD false
    | .error _ => false := by
  unfold isFile entry
  cases t.locate path with
  | error e => rfl
  | ok place =>
    dsimp only
    cases t.top.at? place <;> rfl

private theorem SameNames.isFile_eq (same : t.SameNames u) (path : String) :
    t.isFile path = u.isFile path := by
  rw [FileTree.isFile_eq, FileTree.isFile_eq, same.locate_eq]
  simp only [same.kinds]

end FileTree

/-! ### Scripts -/

namespace ScriptSource

variable {s : ScriptSource} {path : String} {place : Location}

def routes (s : ScriptSource) (path : String) : List Route :=
  [⟨s.manifestDir, Path.steps path⟩, ⟨s.scanRoot, Path.steps path⟩] ++
    match Path.fileName? path with
    | some name => [⟨s.manifestDir, [name]⟩]
    | none => []

def Inside (s : ScriptSource) (place : Location) : Prop :=
  ∃ root, s.files.locate s.scanRoot = .ok root ∧ root <+: place

def Offers (s : ScriptSource) (place : Location) : Prop :=
  (∃ bytes, s.files.top.at? place = some (.file bytes)) ∧ s.Inside place

/-- The place is where the first way leads that ends at a file below the scan root. -/
def Finds (s : ScriptSource) (path : String) (place : Location) : Prop :=
  s.Offers place ∧ ∃ before route after, s.routes path = before ++ route :: after ∧
    s.files.along route = .ok place ∧
    ∀ r ∈ before, ∀ q, s.files.along r = .ok q → ¬ s.Offers q

private theorem candidates_eq (s : ScriptSource) (path : String) :
    s.candidates path = (s.routes path).map Route.path := by
  unfold candidates routes Path.steps
  dsimp only
  rw [Path.ofComponents_eq]
  cases Path.fileName? path with
  | none => rfl
  | some name =>
    have single : Path.ofPieces [name] = name := by
      simp [Path.ofPieces, Path.join]
    simp [Route.path, single]

private theorem isPiece_of_mem_routes {r : Route} (hr : r ∈ s.routes path) :
    ∀ piece ∈ r.pieces, Path.IsPiece piece := by
  intro piece hp
  unfold routes at hr
  rcases List.mem_append.mp hr with whole | name
  · simp only [List.mem_cons, List.not_mem_nil, or_false] at whole
    rcases whole with rfl | rfl
    · exact Path.isPiece_of_mem_steps hp
    · exact Path.isPiece_of_mem_steps hp
  · split at name
    · rename_i found
      rw [List.mem_singleton.mp name, List.mem_singleton] at hp
      rw [hp]
      exact Path.isPiece_fileName found
    · exact absurd name List.not_mem_nil

private theorem withinRoot_iff {c : String} (located : s.files.locate c = .ok place) :
    s.withinRoot c = true ↔ s.Inside place := by
  unfold withinRoot Inside
  rw [located]
  cases s.files.locate s.scanRoot with
  | error e => simp
  | ok root => simp

private theorem offers_iff {r : Route} (hr : r ∈ s.routes path) :
    (s.files.isFile r.path && s.withinRoot r.path) = true ↔
      ∃ place, s.files.along r = .ok place ∧ s.Offers place := by
  have pieces := isPiece_of_mem_routes hr
  rw [Bool.and_eq_true]
  constructor
  · rintro ⟨isFile, within⟩
    obtain ⟨place, bytes, located, file⟩ := FileTree.exists_of_isFile isFile
    exact ⟨place, (FileTree.locate_path_file pieces file).mp located, ⟨bytes, file⟩,
      (withinRoot_iff located).mp within⟩
  · rintro ⟨place, leads, ⟨bytes, file⟩, inside⟩
    have located := (FileTree.locate_path_file pieces file).mpr leads
    have isFile : s.files.isFile r.path = true := by
      rw [FileTree.isFile_eq, located]
      simp [file, Entry.isFile]
    exact ⟨isFile, (withinRoot_iff located).mpr inside⟩

private theorem find?_candidates_iff {c : String} :
    (s.candidates path).find? (fun c => s.files.isFile c && s.withinRoot c) = some c ↔
      ∃ place, s.files.locate c = .ok place ∧ s.Offers place ∧
        ∃ before route after, s.routes path = before ++ route :: after ∧ route.path = c ∧
          s.files.along route = .ok place ∧
          ∀ r ∈ before, ∀ q, s.files.along r = .ok q → ¬ s.Offers q := by
  rw [candidates_eq, List.find?_map, Option.map_eq_some_iff]
  simp only [List.find?_eq_some_iff_append, Function.comp_apply]
  constructor
  · rintro ⟨route, ⟨good, before, after, split, bad⟩, rfl⟩
    have stands : route ∈ s.routes path := by simp [split]
    obtain ⟨place, leads, ⟨bytes, file⟩, inside⟩ := (offers_iff stands).mp good
    have located := (FileTree.locate_path_file (isPiece_of_mem_routes stands) file).mpr leads
    refine ⟨place, located, ⟨⟨bytes, file⟩, inside⟩, before, route, after, split, rfl, leads, ?_⟩
    intro r hr q leads offers
    have earlier : r ∈ s.routes path := by simp [split, hr]
    have refused := bad r hr
    rw [(offers_iff earlier).mpr ⟨q, leads, offers⟩] at refused
    cases refused
  · rintro ⟨place, -, offers, before, route, after, split, rfl, leads, bad⟩
    have stands : route ∈ s.routes path := by simp [split]
    refine ⟨route, ⟨(offers_iff stands).mpr ⟨place, leads, offers⟩, before, after, split, ?_⟩, rfl⟩
    intro r hr
    have earlier : r ∈ s.routes path := by simp [split, hr]
    rw [Bool.not_eq_true', Bool.eq_false_iff]
    intro good
    obtain ⟨q, leads, offers⟩ := (offers_iff earlier).mp good
    exact bad r hr q leads offers

private theorem readScript_of_file {c : String} {bytes : Text.Utf8.Bytes}
    (located : s.files.locate c = .ok place) (file : s.files.top.at? place = some (.file bytes)) :
    s.readScript c =
      if bytes.length > s.maxBytes then
        .error (.unreadable s!"{c}: {bytes.length} bytes exceeds limit of {s.maxBytes}")
      else .ok (Text.normalizeBytes bytes) := by
  have entry : s.files.entry c = .ok (.file bytes) := by
    rw [FileTree.entry, located]
    simp only [file]
  unfold readScript
  rw [entry]
  rfl

private theorem contains_dollar : path.contains '$' = true ↔ '$' ∈ path.toList := by
  rw [String.contains_char_eq, decide_eq_true_eq]

private theorem resolve_of_dollar (dollar : '$' ∈ path.toList) :
    s.resolve (.path path) = .error (.notFound (ScriptRef.path path).key) := by
  unfold resolve
  dsimp only
  rw [if_pos (contains_dollar.mpr dollar)]

private theorem resolve_of_fixed (fixed : '$' ∉ path.toList) : s.resolve (.path path) =
    match (s.candidates path).find? fun c => s.files.isFile c && s.withinRoot c with
    | some file => s.readScript file
    | none => .error (.notFound (ScriptRef.path path).key) := by
  unfold resolve
  dsimp only
  refine (if_neg (mt contains_dollar.mp fixed)).trans ?_
  cases (s.candidates path).find? fun c => s.files.isFile c && s.withinRoot c with
  | none => rfl
  | some c => rfl

private theorem resolve_eq_ok_iff (fixed : '$' ∉ path.toList) {text : String} :
    s.resolve (.path path) = .ok text ↔ ∃ place bytes, s.Finds path place ∧
      s.files.top.at? place = some (.file bytes) ∧ bytes.length ≤ s.maxBytes ∧
      text = Text.normalizeBytes bytes := by
  rw [resolve_of_fixed fixed]
  constructor
  · intro read
    cases found : (s.candidates path).find? fun c => s.files.isFile c && s.withinRoot c with
    | none =>
      rw [found] at read
      cases read
    | some c =>
      rw [found] at read
      obtain ⟨place, located, ⟨⟨bytes, file⟩, inside⟩, before, route, after, split, -, leads, bad⟩ :=
        find?_candidates_iff.mp found
      dsimp only at read
      rw [readScript_of_file located file] at read
      split at read
      · cases read
      · rename_i small
        exact ⟨place, bytes, ⟨⟨⟨bytes, file⟩, inside⟩, before, route, after, split, leads, bad⟩, file,
          Nat.not_lt.mp small, (Except.ok.inj read).symm⟩
  · rintro ⟨place, bytes, ⟨offers, before, route, after, split, leads, bad⟩, file, small, rfl⟩
    have stands : route ∈ s.routes path := by simp [split]
    have located := (FileTree.locate_path_file (isPiece_of_mem_routes stands) file).mpr leads
    rw [find?_candidates_iff.mpr
      ⟨place, located, offers, before, route, after, split, rfl, leads, bad⟩]
    dsimp only
    rw [readScript_of_file located file, if_neg (Nat.not_lt.mpr small)]

/-! ### Files outside the scan root -/

/-- The tree has the same names as that of the source, and its files below the scan root hold the
same bytes. -/
structure SameInside (s : ScriptSource) (files : FileTree) : Prop where
  names : s.files.SameNames files
  bytes : ∀ place bytes, s.Inside place → s.files.top.at? place = some (.file bytes) →
    files.top.at? place = some (.file bytes)

private theorem SameInside.resolve_eq {files : FileTree} (same : s.SameInside files)
    (path : String) : { s with files := files }.resolve (.path path) = s.resolve (.path path) := by
  by_cases dollar : '$' ∈ path.toList
  · rw [resolve_of_dollar dollar, resolve_of_dollar dollar]
  · have within (c : String) : { s with files := files }.withinRoot c = s.withinRoot c := by
      unfold withinRoot
      rw [same.names.locate_eq, same.names.locate_eq]
    rw [resolve_of_fixed dollar, resolve_of_fixed dollar]
    simp only [within, ← same.names.isFile_eq]
    have candidates : { s with files := files }.candidates path = s.candidates path := rfl
    rw [candidates]
    cases found : (s.candidates path).find? fun c => s.files.isFile c && s.withinRoot c with
    | none => rfl
    | some c =>
      obtain ⟨place, located, ⟨⟨bytes, file⟩, inside⟩, -⟩ := find?_candidates_iff.mp found
      have moved : files.locate c = .ok place := same.names.locate_eq c ▸ located
      dsimp only
      rw [readScript_of_file located file,
        readScript_of_file (s := { s with files := files }) moved (same.bytes place bytes inside file)]

/-- No file outside the scan root is ever read. A path with a variable is not looked for. Any other
path gives a text exactly if one of its ways ends at a file below the scan root: the first such way
decides, its file has at most the allowed size, and the text is what the file holds. And whatever
the files outside the scan root hold, the answer is the same. -/
theorem scripts_read_below_root (s : ScriptSource) (path : String) :
    ('$' ∈ path.toList →
      s.resolve (.path path) = .error (.notFound (ScriptRef.path path).key)) ∧
    (∀ text, s.resolve (.path path) = .ok text ↔ '$' ∉ path.toList ∧
      ∃ place bytes, s.Finds path place ∧ s.files.top.at? place = some (.file bytes) ∧
        bytes.length ≤ s.maxBytes ∧ text = Text.normalizeBytes bytes) ∧
    ∀ files, s.SameInside files →
      { s with files := files }.resolve (.path path) = s.resolve (.path path) := by
  refine ⟨resolve_of_dollar, ?_, fun files same => same.resolve_eq path⟩
  intro text
  constructor
  · intro read
    have fixed : '$' ∉ path.toList := by
      intro dollar
      rw [resolve_of_dollar dollar] at read
      cases read
    exact ⟨fixed, (resolve_eq_ok_iff fixed).mp read⟩
  · rintro ⟨fixed, found⟩
    exact (resolve_eq_ok_iff fixed).mpr found

-- A folder whose name only starts like that of the scan root lies outside of it.
example :
    let files := FileTree.ofFiles [] [("repo/run.sh", [108, 115]), ("repo-old/run.sh", [108, 115])]
    let s : ScriptSource := { files, manifestDir := "repo", scanRoot := "repo", cluster := {} }
    (s.candidates "/../repo-old/run.sh").map (fun c => (s.files.isFile c, s.withinRoot c)) =
      [(true, false), (true, false), (true, true)] := by
  decide +kernel

end ScriptSource

end SecretFlow
