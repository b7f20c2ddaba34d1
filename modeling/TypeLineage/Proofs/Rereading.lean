import Mathlib.Data.List.ReduceOption
import Mathlib.Tactic.Common
import TypeLineage.Proofs.Boxes
import TypeLineage.Proofs.Quoting
import TypeLineage.Proofs.Text

/-!
# Reading an exported graph back

The statements of an exported text are read from its tokens, which separators cut into statements. For
every layout the text gives back the identifiers of all nodes and the ends of all links, exactly if they
and the names of the nodes are legible in quotes.
-/

namespace TypeLineage

namespace Dot

/-- The statements that tell a graph. -/
inductive Statement where
  | node (id : String)
  | edge (source target : String)
  deriving DecidableEq, Repr

/-- The characters that end a statement. -/
def endsStatement (c : Char) : Bool :=
  c = ';' || c = '\x7b' || c = '\x7d'

def Token.isSeparator : Token → Bool
  | .mark c => endsStatement c
  | .string _ => false

/-- A node statement has a string in front of its attributes, an edge statement an arrow between two
strings. All others tell about the layout. -/
def Statement.ofTokens? : List Token → Option Statement
  | .string id :: .mark '[' :: _ => some (.node (String.ofList id))
  | [.string source, .mark '-', .mark '>', .string target] =>
    some (.edge (String.ofList source) (String.ofList target))
  | _ => none

/-- Reads the node and edge statements of a text. -/
def read (text : List Char) : Option (List Statement) :=
  (lex .outside text).map fun ts => (ts.splitOnP Token.isSeparator).filterMap Statement.ofTokens?

/-! ### Lines in pieces -/

/-- What stands between the label of a node and the end of its statement. -/
def shapeText (nodeSize : String) (v : GraphNode) : List Char :=
  ", shape=".toList ++ (if v.isRoot then "box".toList else "ellipse".toList) ++
    ", width=".toList ++ Binary64.hundredthsText (hundredths nodeSize v.properties.length) ++ [']']

def nodePieces (nodeSize : String) (v : GraphNode) : List Piece :=
  [.plain "  ".toList, .quoted v.id.toList, .plain " [label=".toList, .quoted (label v),
    .plain (shapeText nodeSize v ++ [';'])]

def linkPieces (e : GraphLink) : List Piece :=
  [.plain "  ".toList, .quoted e.source.toList, .plain " -> ".toList, .quoted e.target.toList,
    .plain [';']]

def Box.pieces (nodeSize : String) (index : Nat) (b : Box) : List (List Piece) :=
  [[.plain ("  subgraph cluster_".toList ++ Binary64.digits index ++ [' ', '\x7b'])],
    [.plain "    label=".toList, .quoted b.label.toList, .plain [';']]] ++
  b.members.map (fun v => .plain [' ', ' '] :: nodePieces nodeSize v) ++
  [[.plain [' ', ' ', '\x7d']]]

/-- The node lines of a layout. -/
def nodeLinePieces (layout : Layout) (nodeSize : String) (g : Graph) : List (List Piece) :=
  match layout with
  | .cluster => (boxes g).zipIdx.flatMap fun (b, index) => b.pieces nodeSize index
  | _ => g.nodes.map (nodePieces nodeSize)

def linePieces (layout : Layout) (nodeSize : String) (g : Graph) : List (List Piece) :=
  [[.plain ("digraph TypeGraph ".toList ++ ['\x7b'])]] ++
    (layoutLines layout).map (fun l => [.plain l]) ++ nodeLinePieces layout nodeSize g ++
    g.links.map linkPieces ++ [[.plain ['\x7d']]]

lemma flatMap_nodePieces (nodeSize : String) (v : GraphNode) :
    (nodePieces nodeSize v).flatMap Piece.text = nodeLine nodeSize v := by
  have hjoin : ∀ blank id opening label before shape between width : List Char,
      [Piece.plain blank, .quoted id, .plain opening, .quoted label,
        .plain (before ++ shape ++ between ++ width ++ [']'] ++ [';'])].flatMap Piece.text =
      blank ++ string id ++ opening ++ string label ++ before ++ shape ++ between ++ width ++
        [']', ';'] := by
    intros
    simp [Piece.text]
  exact hjoin _ _ _ _ _ _ _ _

lemma flatMap_linkPieces (e : GraphLink) : (linkPieces e).flatMap Piece.text = linkLine e := by
  have hjoin : ∀ blank source arrow target : List Char,
      [Piece.plain blank, .quoted source, .plain arrow, .quoted target,
        .plain [';']].flatMap Piece.text = blank ++ string source ++ arrow ++ string target ++ [';'] := by
    intros
    simp [Piece.text]
  exact hjoin _ _ _ _

lemma map_boxPieces (nodeSize : String) (index : Nat) (b : Box) :
    (b.pieces nodeSize index).map (·.flatMap Piece.text) = b.lines nodeSize index := by
  simp [Box.pieces, Box.lines, Piece.text, Function.comp_def, flatMap_nodePieces]

lemma map_linePieces (layout : Layout) (nodeSize : String) (g : Graph) :
    (linePieces layout nodeSize g).map (·.flatMap Piece.text) = statements layout nodeSize g := by
  have hnodes : (nodeLinePieces layout nodeSize g).map (·.flatMap Piece.text) =
      nodeLines layout nodeSize g := by
    cases layout with
    | cluster =>
      rw [nodeLines_cluster, boxLines, nodeLinePieces, List.map_flatMap]
      exact List.flatMap_congr fun p _ => map_boxPieces nodeSize p.2 p.1
    | tree => simp [nodeLinePieces, nodeLines, Function.comp_def, flatMap_nodePieces]
    | force => simp [nodeLinePieces, nodeLines, Function.comp_def, flatMap_nodePieces]
  simp only [linePieces, statements, List.map_append, List.map_map, hnodes]
  simp [Function.comp_def, Piece.text, flatMap_linkPieces]

/-! ### Lines as statements -/

/-- A line is one statement: the only separator among its tokens is the last one. -/
structure IsLine (ps : List Piece) (statement? : Option Statement) : Prop where
  plain : ∀ p ∈ ps, p.IsPlain
  tokens : ∃ body separator, ps.flatMap Piece.tokens = body ++ [separator] ∧
    separator.isSeparator = true ∧ (∀ t ∈ body, t.isSeparator = false) ∧
    Statement.ofTokens? body = statement?

/-- The pieces of a text in lines. -/
def joined (ls : List (List Piece)) : List Piece :=
  [Piece.plain ['\n']].intercalate ls

section Joined

variable {l : List Piece} {ls : List (List Piece)} {found : List (Option Statement)}

lemma joined_cons (l : List Piece) (hls : ls ≠ []) :
    joined (l :: ls) = l ++ .plain ['\n'] :: joined ls := by
  rw [joined, List.intercalate_cons_of_ne_nil hls, List.append_assoc]
  rfl

lemma unlines_flatMap_text (ls : List (List Piece)) :
    Text.unlines (ls.map (·.flatMap Piece.text)) = (joined ls).flatMap Piece.text := by
  induction ls with
  | nil => rfl
  | cons l ls ih =>
    by_cases hls : ls = []
    · subst hls
      simp [joined, Text.unlines]
    · rw [List.map_cons, Text.unlines_cons _ (by simpa using hls), ih, joined_cons l hls]
      simp [Piece.text]

lemma flatMap_tokens_joined (ls : List (List Piece)) :
    (joined ls).flatMap Piece.tokens = ls.flatMap (·.flatMap Piece.tokens) := by
  have hgap : (Piece.plain ['\n']).tokens = [] := by decide
  induction ls with
  | nil => rfl
  | cons l ls ih =>
    by_cases hls : ls = []
    · subst hls
      simp [joined]
    · simp [joined_cons l hls, ih, hgap]

lemma forall_mem_joined {P : Piece → Prop} (hgap : P (.plain ['\n'])) :
    (∀ p ∈ joined ls, P p) ↔ ∀ l ∈ ls, ∀ p ∈ l, P p := by
  induction ls with
  | nil => simp [joined]
  | cons l ls ih =>
    by_cases hls : ls = []
    · subst hls
      simp [joined]
    · simp [joined_cons l hls, or_imp, forall_and, hgap, ih]

lemma forall_isPlain (hls : List.Forall₂ IsLine ls found) : ∀ l ∈ ls, ∀ p ∈ l, p.IsPlain := by
  induction hls with
  | nil => simp
  | cons hl _ ih => simpa using ⟨hl.plain, ih⟩

lemma filterMap_splitOnP (hls : List.Forall₂ IsLine ls found) :
    ((ls.flatMap (·.flatMap Piece.tokens)).splitOnP Token.isSeparator).filterMap
      Statement.ofTokens? = found.reduceOption := by
  induction hls with
  | nil => rfl
  | @cons l statement? ls found hl _ ih =>
    obtain ⟨body, separator, htokens, hseparator, hbody, hstatement⟩ := hl.tokens
    rw [List.flatMap_cons, htokens, List.append_assoc, List.singleton_append,
      List.splitOnP_append_cons_of_forall_mem hbody separator hseparator, List.filterMap_cons,
      hstatement]
    cases statement? with
    | none => rw [ih, List.reduceOption_cons_of_none]
    | some statement => rw [ih, List.reduceOption_cons_of_some]

theorem read_unlines (hls : List.Forall₂ IsLine ls found)
    (hlegible : ∀ l ∈ ls, ∀ p ∈ l, p.IsLegible) :
    read (Text.unlines (ls.map (·.flatMap Piece.text))) = some found.reduceOption := by
  have hgap : (Piece.plain ['\n']).IsPlain := by simp [Piece.IsPlain, isGap]
  rw [read, unlines_flatMap_text, lex_pieces ((forall_mem_joined hgap).mpr (forall_isPlain hls))
    ((forall_mem_joined trivial).mpr hlegible), flatMap_tokens_joined]
  exact congrArg some (filterMap_splitOnP hls)

theorem read_unlines_eq_none (hls : List.Forall₂ IsLine ls found)
    (hillegible : ¬ ∀ l ∈ ls, ∀ p ∈ l, p.IsLegible) :
    read (Text.unlines (ls.map (·.flatMap Piece.text))) = none := by
  have hgap : (Piece.plain ['\n']).IsPlain := by simp [Piece.IsPlain, isGap]
  have hsome : ∃ p ∈ joined ls, ¬ p.IsLegible := by
    rw [← forall_mem_joined trivial] at hillegible
    simpa using hillegible
  rw [read, unlines_flatMap_text,
    lex_pieces_eq_none ((forall_mem_joined hgap).mpr (forall_isPlain hls)) hsome]
  rfl

end Joined

section Lines

variable {ps : List Piece} {c : Char} {statement? : Option Statement}

/-- The characters that may stand inside a statement. -/
def isInner (c : Char) : Bool :=
  isGap c || isMark c && !endsStatement c

def Piece.IsInner : Piece → Prop
  | plain s => ∀ c ∈ s, isInner c = true
  | quoted _ => True

lemma Piece.isInner_of_all {s : List Char} (hs : s.all isInner = true) : (plain s).IsInner :=
  List.all_eq_true.mp hs

lemma Piece.IsInner.isPlain {p : Piece} (hp : p.IsInner) : p.IsPlain := by
  cases p with
  | plain s =>
    intro c hc
    have hinner := hp c hc
    simp only [isInner, Bool.or_eq_true, Bool.and_eq_true] at hinner
    exact hinner.imp_right And.left
  | quoted s => trivial

lemma Piece.IsInner.not_isSeparator {p : Piece} (hp : p.IsInner) :
    ∀ t ∈ p.tokens, t.isSeparator = false := by
  intro t ht
  cases p with
  | plain s =>
    simp only [tokens, List.mem_map, List.mem_filter] at ht
    obtain ⟨c, ⟨hc, hgap⟩, rfl⟩ := ht
    have hinner := hp c hc
    simp only [isInner, Bool.or_eq_true, Bool.and_eq_true, Bool.not_eq_true'] at hinner
    exact (hinner.resolve_left (by simpa using hgap)).2
  | quoted s =>
    rw [List.mem_singleton.mp ht]
    rfl

lemma separator_facts : ∀ c ∈ [';', '\x7b', '\x7d'],
    isGap c = false ∧ isMark c = true ∧ endsStatement c = true := by
  intro c hc
  simp only [List.mem_cons, List.not_mem_nil, or_false] at hc
  rcases hc with rfl | rfl | rfl <;> decide

lemma isLine_of_inner (ps : List Piece) (s : List Char) (c : Char) (hps : ∀ p ∈ ps, p.IsInner)
    (hs : (Piece.plain s).IsInner) (hc : c ∈ [';', '\x7b', '\x7d']) :
    IsLine (ps ++ [.plain (s ++ [c])])
      (Statement.ofTokens? (ps.flatMap Piece.tokens ++ (Piece.plain s).tokens)) where
  plain := by
    intro p hp
    rcases List.mem_append.mp hp with hp | hp
    · exact (hps p hp).isPlain
    · rw [List.mem_singleton.mp hp]
      intro d hd
      rcases List.mem_append.mp hd with hd | hd
      · exact hs.isPlain d hd
      · rw [List.mem_singleton.mp hd]
        exact .inr (separator_facts c hc).2.1
  tokens := by
    obtain ⟨hgap, -, hends⟩ := separator_facts c hc
    refine ⟨_, .mark c, ?_, hends, ?_, rfl⟩
    · simp [Piece.tokens, hgap]
    · intro t ht
      rcases List.mem_append.mp ht with ht | ht
      · obtain ⟨p, hp, ht⟩ := List.mem_flatMap.mp ht
        exact (hps p hp).not_isSeparator t ht
      · exact hs.not_isSeparator t ht

lemma IsLine.indent (hl : IsLine ps statement?) :
    IsLine (.plain [' ', ' '] :: ps) statement? where
  plain p hp := by
    rcases List.mem_cons.mp hp with rfl | hp
    · exact fun c hc => .inl (by simp at hc; simp [hc, isGap])
    · exact hl.plain p hp
  tokens := by simpa [Piece.tokens, isGap] using hl.tokens

lemma isInner_of_isDigit (hc : c.isDigit = true) : isInner c = true := by
  have hends : endsStatement c = false := by
    by_contra h
    simp only [endsStatement, Bool.not_eq_false, Bool.or_eq_true, decide_eq_true_eq] at h
    rcases h with (rfl | rfl) | rfl <;> exact absurd hc (by decide)
  simp [isInner, isMark, Char.isAlphanum, hc, hends]

lemma isInner_digits (n : Nat) : ∀ c ∈ Binary64.digits n, isInner c = true :=
  fun _ hc => isInner_of_isDigit (Nat.isDigit_of_mem_toDigits (by omega) (by omega) hc)

lemma isInner_hundredthsText (n : Nat) : ∀ c ∈ Binary64.hundredthsText n, isInner c = true := by
  intro c hc
  simp only [Binary64.hundredthsText, Binary64.padLeft, List.mem_append, List.mem_cons] at hc
  rcases hc with hc | rfl | hc | hc
  · exact isInner_digits _ c hc
  · decide
  · rw [List.eq_of_mem_replicate hc]
    decide
  · exact isInner_digits _ c hc

lemma isInner_shapeText (nodeSize : String) (v : GraphNode) :
    (Piece.plain (shapeText nodeSize v)).IsInner := by
  have hshape : (Piece.plain ", shape=".toList).IsInner := Piece.isInner_of_all (by decide)
  have hbox : (Piece.plain "box".toList).IsInner := Piece.isInner_of_all (by decide)
  have hellipse : (Piece.plain "ellipse".toList).IsInner := Piece.isInner_of_all (by decide)
  have hwidth : (Piece.plain ", width=".toList).IsInner := Piece.isInner_of_all (by decide)
  intro c hc
  unfold shapeText at hc
  simp only [List.mem_append, List.mem_singleton] at hc
  rcases hc with (((hc | hc) | hc) | hc) | rfl
  · exact hshape c hc
  · split at hc
    · exact hbox c hc
    · exact hellipse c hc
  · exact hwidth c hc
  · exact isInner_hundredthsText _ c hc
  · decide

lemma isInner_blanks : (Piece.plain "  ".toList).IsInner ∧ (Piece.plain "  ".toList).tokens = [] :=
  ⟨Piece.isInner_of_all (by decide), by decide⟩

lemma isLine_nodePieces (nodeSize : String) (v : GraphNode) :
    IsLine (nodePieces nodeSize v) (some (.node v.id)) := by
  have hlabel : (Piece.plain " [label=".toList).IsInner := Piece.isInner_of_all (by decide)
  have htokens : (Piece.plain " [label=".toList).tokens =
      .mark '[' :: "label=".toList.map .mark := by
    decide
  have hline := isLine_of_inner
    [.plain "  ".toList, .quoted v.id.toList, .plain " [label=".toList, .quoted (label v)]
    (shapeText nodeSize v) ';' (by simpa using ⟨isInner_blanks.1, trivial, hlabel, trivial⟩)
    (isInner_shapeText nodeSize v) (by simp)
  simp only [List.flatMap_cons, isInner_blanks.2, htokens, Piece.tokens_quoted, List.nil_append,
    List.cons_append, Statement.ofTokens?, String.ofList_toList] at hline
  exact hline

lemma isLine_linkPieces (e : GraphLink) :
    IsLine (linkPieces e) (some (.edge e.source e.target)) := by
  have harrow : (Piece.plain " -> ".toList).IsInner := Piece.isInner_of_all (by decide)
  have htokens : (Piece.plain " -> ".toList).tokens = [.mark '-', .mark '>'] := by
    decide
  have hline := isLine_of_inner
    [.plain "  ".toList, .quoted e.source.toList, .plain " -> ".toList, .quoted e.target.toList]
    [] ';' (by simpa using ⟨isInner_blanks.1, trivial, harrow, trivial⟩) (by simp [Piece.IsInner])
    (by simp)
  simp only [List.flatMap_cons, isInner_blanks.2, htokens, Piece.tokens_quoted,
    Piece.tokens_plain_nil, List.flatMap_nil, List.append_nil, List.nil_append, List.cons_append,
    Statement.ofTokens?, String.ofList_toList] at hline
  exact hline

lemma ofTokens?_plain (s : List Char) : Statement.ofTokens? (Piece.plain s).tokens = none := by
  rw [Piece.tokens]
  cases s.filter (!isGap ·) <;> rfl

lemma isLine_plain (s : List Char) (c : Char) (hs : (Piece.plain s).IsInner)
    (hc : c ∈ [';', '\x7b', '\x7d']) : IsLine [.plain (s ++ [c])] none := by
  have hline := isLine_of_inner [] s c (by simp) hs hc
  simpa only [List.nil_append, List.flatMap_nil, ofTokens?_plain] using hline

lemma isLine_layoutLines (layout : Layout) : ∀ l ∈ layoutLines layout, IsLine [.plain l] none := by
  have hneato : IsLine [.plain "  layout=neato;".toList] none :=
    isLine_plain "  layout=neato".toList ';' (Piece.isInner_of_all (by decide)) (by simp)
  have hoverlap : IsLine [.plain "  overlap=false;".toList] none :=
    isLine_plain "  overlap=false".toList ';' (Piece.isInner_of_all (by decide)) (by simp)
  have hranks : IsLine [.plain "  rankdir=TB;".toList] none :=
    isLine_plain "  rankdir=TB".toList ';' (Piece.isInner_of_all (by decide)) (by simp)
  cases layout with
  | force => simpa [layoutLines] using ⟨hneato, hoverlap⟩
  | tree => simpa [layoutLines] using hranks
  | cluster => simpa [layoutLines] using hranks

/-- What the lines of a box tell. -/
def Box.told (b : Box) : List (Option Statement) :=
  [none, none] ++ b.members.map (fun v => some (.node v.id)) ++ [none]

lemma isLine_boxPieces (nodeSize : String) (index : Nat) (b : Box) :
    List.Forall₂ IsLine (b.pieces nodeSize index) b.told := by
  have hopening : IsLine
      [.plain ("  subgraph cluster_".toList ++ Binary64.digits index ++ [' ', '\x7b'])] none := by
    have hword : (Piece.plain "  subgraph cluster_".toList).IsInner :=
      Piece.isInner_of_all (by decide)
    have hline := isLine_plain ("  subgraph cluster_".toList ++ Binary64.digits index ++ [' ']) '\x7b'
      ?_ (by simp)
    · rwa [List.append_assoc] at hline
    · intro c hc
      simp only [List.mem_append, List.mem_singleton] at hc
      rcases hc with (hc | hc) | rfl
      · exact hword c hc
      · exact isInner_digits index c hc
      · decide
  have hlabel : IsLine [.plain "    label=".toList, .quoted b.label.toList, .plain [';']] none := by
    have hword : (Piece.plain "    label=".toList).IsInner := Piece.isInner_of_all (by decide)
    have htokens : (Piece.plain "    label=".toList).tokens = "label=".toList.map .mark := by
      decide
    have hline := isLine_of_inner [.plain "    label=".toList, .quoted b.label.toList] [] ';'
      (by simpa using ⟨hword, trivial⟩) (by simp [Piece.IsInner]) (by simp)
    rw [List.flatMap_cons, htokens] at hline
    exact hline
  have hmembers : List.Forall₂ IsLine
      (b.members.map fun v => .plain [' ', ' '] :: nodePieces nodeSize v)
      (b.members.map fun v => some (.node v.id)) := by
    rw [List.forall₂_map_left_iff, List.forall₂_map_right_iff, List.forall₂_same]
    exact fun v _ => (isLine_nodePieces nodeSize v).indent
  have hclosing : IsLine [.plain [' ', ' ', '\x7d']] none :=
    isLine_plain [' ', ' '] '\x7d' (Piece.isInner_of_all (by decide)) (by simp)
  exact List.rel_append (List.rel_append (.cons hopening (.cons hlabel .nil)) hmembers)
    (.cons hclosing .nil)

lemma reduceOption_map_some {α β : Type} (f : α → β) (l : List α) :
    (l.map fun x => some (f x)).reduceOption = l.map f := by
  simp [List.reduceOption, List.filterMap_map]

lemma reduceOption_map_none {α β : Type} (l : List α) :
    (l.map fun _ => (none : Option β)).reduceOption = [] := by
  simp [List.reduceOption, List.filterMap_map]

/-- The nodes of a graph in the order of their statements. -/
def told (layout : Layout) (g : Graph) : List GraphNode :=
  match layout with
  | .cluster => (boxes g).flatMap (·.members)
  | _ => g.nodes

lemma told_perm (layout : Layout) (g : Graph) : (told layout g).Perm g.nodes := by
  cases layout with
  | cluster => exact (divide_boxes g).perm
  | force => exact .refl _
  | tree => exact .refl _

lemma exists_nodeLines (layout : Layout) (nodeSize : String) (g : Graph) :
    ∃ found, List.Forall₂ IsLine (nodeLinePieces layout nodeSize g) found ∧
      found.reduceOption = (told layout g).map (.node ·.id) := by
  have hnodes : List.Forall₂ IsLine (g.nodes.map (nodePieces nodeSize))
      (g.nodes.map fun v => some (.node v.id)) := by
    rw [List.forall₂_map_left_iff, List.forall₂_map_right_iff, List.forall₂_same]
    exact fun v _ => isLine_nodePieces nodeSize v
  -- The indices of boxes are read over, so the induction may begin at any of them.
  have hboxes : ∀ (bs : List Box) (k : Nat),
      List.Forall₂ IsLine ((bs.zipIdx k).flatMap fun (b, index) => b.pieces nodeSize index)
        (bs.flatMap Box.told) := by
    intro bs
    induction bs with
    | nil => exact fun _ => .nil
    | cons b bs ih => exact fun k => List.rel_append (isLine_boxPieces nodeSize k b) (ih (k + 1))
  cases layout with
  | cluster =>
    refine ⟨_, hboxes (boxes g) 0, ?_⟩
    rw [told]
    induction boxes g with
    | nil => rfl
    | cons b bs ih =>
      rw [List.flatMap_cons, List.flatMap_cons, List.reduceOption_append, List.map_append, ih,
        Box.told, List.reduceOption_append, List.reduceOption_append, reduceOption_map_some]
      exact congrArg (· ++ _) (List.append_nil _)
  | force => exact ⟨_, hnodes, reduceOption_map_some _ _⟩
  | tree => exact ⟨_, hnodes, reduceOption_map_some _ _⟩

lemma exists_lines (layout : Layout) (nodeSize : String) (g : Graph) :
    ∃ found, List.Forall₂ IsLine (linePieces layout nodeSize g) found ∧
      found.reduceOption = (told layout g).map (.node ·.id) ++
        g.links.map fun e => .edge e.source e.target := by
  obtain ⟨found, hfound, hnodes⟩ := exists_nodeLines layout nodeSize g
  have hopening : IsLine [.plain ("digraph TypeGraph ".toList ++ ['\x7b'])] none :=
    isLine_plain "digraph TypeGraph ".toList '\x7b' (Piece.isInner_of_all (by decide)) (by simp)
  have hlayout : List.Forall₂ IsLine ((layoutLines layout).map fun l => [.plain l])
      ((layoutLines layout).map fun _ => none) := by
    rw [List.forall₂_map_left_iff, List.forall₂_map_right_iff, List.forall₂_same]
    exact isLine_layoutLines layout
  have hlinks : List.Forall₂ IsLine (g.links.map linkPieces)
      (g.links.map fun e => some (.edge e.source e.target)) := by
    rw [List.forall₂_map_left_iff, List.forall₂_map_right_iff, List.forall₂_same]
    exact fun e _ => isLine_linkPieces e
  have hclosing : IsLine [.plain ['\x7d']] none :=
    isLine_plain [] '\x7d' (Piece.isInner_of_all rfl) (by simp)
  refine ⟨_, List.rel_append (List.rel_append (List.rel_append (List.rel_append
    (.cons hopening .nil) hlayout) hfound) hlinks) (.cons hclosing .nil), ?_⟩
  simp only [List.reduceOption_append, hnodes, reduceOption_map_some, reduceOption_map_none]
  exact List.append_nil _

end Lines

/-! ### Legible graphs -/

/-- The identifier and the name of a node are legible in quotes. The name stands in front of other text
there. -/
def LegibleNode (v : GraphNode) : Prop :=
  Legible (v.id.toList ++ ['"']) ∧ Legible v.name.toList

/-- The ends of a link are legible in quotes. -/
def LegibleLink (e : GraphLink) : Prop :=
  Legible (e.source.toList ++ ['"']) ∧ Legible (e.target.toList ++ ['"'])

section Legibility

lemma legible_label_iff (v : GraphNode) :
    Legible (label v ++ ['"']) ↔ Legible v.name.toList := by
  have hword : '"' ∉ "\\n(".toList := by decide
  have hend : '"' ∉ " props)".toList := by decide
  have hdigits : '"' ∉ Binary64.digits v.properties.length := by
    intro h
    exact absurd (isInner_digits _ _ h) (by decide)
  have hclose : " props)".toList = " props".toList ++ [')'] := by decide
  have hlabel : label v = v.name.toList ++ ("\\n(".toList ++ Binary64.digits v.properties.length ++
      " props)".toList) := by
    simp only [label, List.append_assoc]
  have hlast : Legible (label v ++ ['"']) ↔ Legible (label v) := by
    rw [label, hclose, ← List.append_assoc]
    exact legible_concat (by decide)
  rw [hlast, hlabel]
  refine legible_append ?_
  simp only [List.mem_append, not_or]
  exact ⟨⟨hword, hdigits⟩, hend⟩

lemma forall_nodePieces_iff (nodeSize : String) (v : GraphNode) :
    (∀ p ∈ nodePieces nodeSize v, p.IsLegible) ↔ LegibleNode v := by
  rw [LegibleNode, ← legible_label_iff]
  simp [nodePieces, Piece.IsLegible]

lemma forall_linkPieces_iff (e : GraphLink) :
    (∀ p ∈ linkPieces e, p.IsLegible) ↔ LegibleLink e := by
  simp [linkPieces, Piece.IsLegible, LegibleLink]

lemma forall_boxPieces_iff (nodeSize : String) (index : Nat) (b : Box) :
    (∀ l ∈ b.pieces nodeSize index, ∀ p ∈ l, p.IsLegible) ↔
      Legible (b.label.toList ++ ['"']) ∧ ∀ v ∈ b.members, LegibleNode v := by
  simp only [Box.pieces, List.forall_mem_append, List.forall_mem_map, List.forall_mem_cons,
    forall_nodePieces_iff]
  simp [Piece.IsLegible]

lemma forall_boxes_iff (nodeSize : String) (bs : List Box) (k : Nat) :
    (∀ l ∈ (bs.zipIdx k).flatMap (fun (b, index) => b.pieces nodeSize index),
        ∀ p ∈ l, p.IsLegible) ↔
      ∀ b ∈ bs, Legible (b.label.toList ++ ['"']) ∧ ∀ v ∈ b.members, LegibleNode v := by
  induction bs generalizing k with
  | nil => simp
  | cons b bs ih =>
    rw [List.zipIdx_cons, List.flatMap_cons, List.forall_mem_append, forall_boxPieces_iff, ih,
      List.forall_mem_cons]

lemma legible_topmost {g : Graph} {v : GraphNode} (hv : LegibleNode v)
    (hlinks : ∀ e ∈ g.links, LegibleLink e) : Legible ((g.topmost v.id).toList ++ ['"']) := by
  rcases (g.topmost_reaches v.id).cases_head with heq | ⟨b, hlink, -⟩
  · rw [heq]
    exact hv.1
  · exact (hlinks _ hlink).1

lemma forall_linePieces_iff (layout : Layout) (nodeSize : String) (g : Graph) :
    (∀ l ∈ linePieces layout nodeSize g, ∀ p ∈ l, p.IsLegible) ↔
      (∀ v ∈ g.nodes, LegibleNode v) ∧ ∀ e ∈ g.links, LegibleLink e := by
  have hnodes : (∀ e ∈ g.links, LegibleLink e) →
      ((∀ l ∈ nodeLinePieces layout nodeSize g, ∀ p ∈ l, p.IsLegible) ↔
        ∀ v ∈ g.nodes, LegibleNode v) := by
    intro hlinks
    have hd := divide_boxes g
    cases layout with
    | cluster =>
      rw [nodeLinePieces, forall_boxes_iff]
      constructor
      · intro h v hv
        obtain ⟨b, ⟨hb, hvb⟩, -⟩ := hd.exactly_one v hv
        exact (h b hb).2 v hvb
      · intro h b hb
        have hmembers : ∀ v ∈ b.members, LegibleNode v := by
          rw [hd.members_eq b hb]
          exact fun v hv => h v (List.mem_filter.mp hv).1
        obtain ⟨v, hv⟩ := List.exists_mem_of_ne_nil _ (hd.members_ne_nil b hb)
        rw [← hd.label_eq hb hv]
        exact ⟨legible_topmost (hmembers v hv) hlinks, hmembers⟩
    | force => simp [nodeLinePieces, forall_nodePieces_iff]
    | tree => simp [nodeLinePieces, forall_nodePieces_iff]
  have hplain : ∀ s, (Piece.plain s).IsLegible := fun _ => trivial
  simp only [linePieces, List.forall_mem_append, List.forall_mem_map, List.forall_mem_singleton,
    hplain, forall_linkPieces_iff, implies_true, true_and, and_true]
  exact ⟨fun h => ⟨(hnodes h.2).mp h.1, h.2⟩, fun h => ⟨(hnodes h.2).mpr h.1, h.2⟩⟩

end Legibility

end Dot

namespace Graph

open Dot Text

/-- Reading an exported text, for every graph, focus, layout and node size. Where the identifiers and
names are legible in quotes, the text gives back one node statement for each node that is shown, in its
order unless boxes regroup them, and then the shown links in order. Otherwise nothing can be read. -/
theorem read_dotExport (g : Graph) (focusText : String) (layout : Layout) (nodeSize : String) :
    let shown := g.focus focusText
    let legible := (∀ v ∈ shown.nodes, LegibleNode v) ∧ ∀ e ∈ shown.links, LegibleLink e
    ((∃ vs, vs.Perm shown.nodes ∧ (layout ≠ .cluster → vs = shown.nodes) ∧
      Dot.read (g.dotExport focusText layout nodeSize) =
        some (vs.map (fun v => .node v.id) ++
          shown.links.map fun e => .edge e.source e.target)) ↔ legible) ∧
    (Dot.read (g.dotExport focusText layout nodeSize) = none ↔ ¬ legible) := by
  intro shown legible
  have htext : g.dotExport focusText layout nodeSize =
      unlines ((linePieces layout nodeSize shown).map (·.flatMap Piece.text)) := by
    rw [map_linePieces]
    rfl
  obtain ⟨found, hlines, hfound⟩ := exists_lines layout nodeSize shown
  have hiff : (∀ l ∈ linePieces layout nodeSize shown, ∀ p ∈ l, p.IsLegible) ↔ legible :=
    forall_linePieces_iff layout nodeSize shown
  rw [htext]
  by_cases hl : legible
  · have hread := read_unlines hlines (hiff.mpr hl)
    rw [hfound] at hread
    refine ⟨iff_of_true ⟨told layout shown, told_perm layout shown, ?_, hread⟩ hl, ?_⟩
    · intro hne
      cases layout with
      | cluster => exact absurd rfl hne
      | force => rfl
      | tree => rfl
    · simp [hread, hl]
  · have hread := read_unlines_eq_none hlines (hiff.not.mpr hl)
    refine ⟨iff_of_false ?_ hl, iff_of_true hread hl⟩
    rintro ⟨vs, -, -, hsome⟩
    rw [hread] at hsome
    cases hsome

/-- The backslash at the end of an identifier escapes the quote that should end it. -/
example : Dot.read (dotExport ⟨[⟨"a\\", "a", 0, true, [], ⟨"", 1, 0⟩⟩], []⟩ "" .tree "uniform") =
    none := by
  decide +kernel

end Graph

end TypeLineage
