import Mathlib.Data.List.Infix
import Mathlib.Tactic.Common
import TypeLineage.Proofs.Text

/-!
# The text of script elements

Where the text of a script element ends on an HTML page. The end tag of a script ends it, but for one
case: behind `<!--` the start tag of a script is taken together with the next end tag, so that this one
ends nothing. `-->` brings the reader back. A text without `</` is read up to the end tag that is written
behind it, unless it leaves the reader behind such a start tag.
-/

namespace TypeLineage.Html

open Text

/-- How a reader takes the text of a script: plainly, behind `<!--`, or there behind the start tag of a
script. -/
inductive Mode where
  | plain
  | escaped
  | doubled
  deriving DecidableEq

/-- The characters that end the name of a tag. -/
def endsName (c : Char) : Bool :=
  c = '\t' || c = '\n' || c = '\x0c' || c = ' ' || c = '/' || c = '>'

/-- The text begins with a name in letters of either case, which ends there. -/
def beginsWithName : (name : List Char) → List Char → Bool
  | [], c :: _ => endsName c
  | d :: name, c :: rest => c.toLower = d && beginsWithName name rest
  | _, [] => false

def startsScript (s : List Char) : Bool :=
  (['<'].isPrefixOf? s).any (beginsWithName "script".toList)

def endsScript (s : List Char) : Bool :=
  ("</".toList.isPrefixOf? s).any (beginsWithName "script".toList)

/-- The mode behind the first character of a text. -/
def Mode.next : Mode → List Char → Mode
  | .plain, s => if "<!--".toList.isPrefixOf s then .escaped else .plain
  | .escaped, s =>
    if "-->".toList.isPrefixOf s then .plain else if startsScript s then .doubled else .escaped
  | .doubled, s =>
    if "-->".toList.isPrefixOf s then .plain else if endsScript s then .escaped else .doubled

/-- The text of a script element, and what is left from its end tag on. -/
def scriptText : Mode → List Char → List Char × List Char
  | _, [] => ([], [])
  | mode, c :: rest =>
    if mode ≠ .doubled ∧ endsScript (c :: rest) then ([], c :: rest)
    else
      let (text, left) := scriptText (mode.next (c :: rest)) rest
      (c :: text, left)

/-- The mode behind a text without `</`. -/
def Mode.after (mode : Mode) : List Char → Mode
  | [] => mode
  | c :: rest => (mode.next (c :: rest)).after rest

/-- The start tag of a script stands somewhere in the text. -/
def OpensScript (s : List Char) : Prop :=
  ∃ t, t <:+ s ∧ startsScript t = true

/-- The text has a `<!--` without `-->` behind it, but with the start tag of a script. -/
def HidesEnd (s : List Char) : Prop :=
  ∃ t, t <:+ s ∧ "<!--".toList <+: t ∧ ¬ "-->".toList <:+: t ∧ OpensScript t

section Modes

variable {s rest : List Char} {c : Char} {mode : Mode}

lemma opensScript_cons : OpensScript (c :: s) ↔ startsScript (c :: s) = true ∨ OpensScript s := by
  simp only [OpensScript, List.suffix_cons_iff, or_and_right, exists_or, exists_eq_left]

lemma hidesEnd_cons : HidesEnd (c :: s) ↔
    ("<!--".toList <+: c :: s ∧ ¬ "-->".toList <:+: c :: s ∧ OpensScript (c :: s)) ∨ HidesEnd s := by
  simp only [HidesEnd, List.suffix_cons_iff, or_and_right, exists_or, exists_eq_left]

lemma startsScript_cons :
    startsScript (c :: s) = true ↔ c = '<' ∧ beginsWithName "script".toList s = true := by
  by_cases hc : c = '<'
  · subst hc
    simp [startsScript, List.isPrefixOf?]
  · simp [startsScript, List.isPrefixOf?, Ne.symm hc, hc]

lemma endsScript_eq_false (hs : ¬ "</".toList <+: s) : endsScript s = false := by
  rw [endsScript]
  cases h : "</".toList.isPrefixOf? s with
  | none => rfl
  | some rest =>
    rw [List.isPrefixOf?_eq_some_iff_append_eq] at h
    exact absurd ⟨rest, h⟩ hs

lemma beginnings_differ (s : List Char) (h : "<!--".toList <+: s) :
    ¬ "-->".toList <+: s ∧ ¬ startsScript s = true := by
  obtain ⟨rest, rfl⟩ := h
  exact ⟨fun h => absurd (List.cons_prefix_cons.mp h).1 (by decide),
    by simp [startsScript_cons, beginsWithName]⟩

theorem after_eq_doubled_iff (hs : ¬ "</".toList <:+: s) :
    (Mode.plain.after s = .doubled ↔ HidesEnd s) ∧
    (Mode.escaped.after s = .doubled ↔ (¬ "-->".toList <:+: s ∧ OpensScript s) ∨ HidesEnd s) ∧
    (Mode.doubled.after s = .doubled ↔ ¬ "-->".toList <:+: s ∨ HidesEnd s) := by
  induction s with
  | nil => simp [Mode.after, HidesEnd, OpensScript, startsScript, List.isPrefixOf?]
  | cons c s ih =>
    have hs' : ¬ "</".toList <:+: s := mt List.infix_cons hs
    have hend : endsScript (c :: s) = false := endsScript_eq_false fun h => hs h.isInfix
    obtain ⟨hplain, hescaped, hdoubled⟩ := ih hs'
    have hcomment := beginnings_differ (c :: s)
    have hinfix : ∀ mark : List Char, mark <:+: c :: s ↔ mark <+: c :: s ∨ mark <:+: s :=
      fun _ => List.infix_cons_iff
    simp only [Mode.after, Mode.next, List.isPrefixOf_iff_prefix, hend, hidesEnd_cons,
      opensScript_cons, hinfix]
    refine ⟨?_, ?_, ?_⟩
    · split
      · rename_i h
        obtain ⟨hdash, htag⟩ := hcomment h
        simp only [hescaped, h, hdash, htag, Bool.false_eq_true, true_and, false_or]
      · rename_i h
        simp only [hplain, h, false_and, false_or]
    · split
      · rename_i h
        have hno : ¬ "<!--".toList <+: c :: s := fun h' => (hcomment h').1 h
        simp only [hplain, h, hno, true_or, not_true, false_and, false_or]
      · rename_i hdash
        split
        · rename_i htag
          have hno : ¬ "<!--".toList <+: c :: s := fun h' => (hcomment h').2 htag
          simp only [hdoubled, hdash, htag, hno, false_or, true_or, and_true, false_and]
        · rename_i htag
          rw [hescaped]
          simp only [hdash, htag, Bool.false_eq_true, false_or]
          exact ⟨fun h => h.imp_right .inr, fun h => h.elim .inl fun h => h.imp_left (·.2)⟩
    · split
      · rename_i h
        have hno : ¬ "<!--".toList <+: c :: s := fun h' => (hcomment h').1 h
        simp only [hplain, h, hno, true_or, not_true, false_and, false_or]
      · rename_i hdash
        rw [if_neg (by decide), hdoubled]
        simp only [hdash, false_or]
        exact ⟨fun h => h.imp_right .inr, fun h => h.elim .inl fun h => h.imp_left (·.2.1)⟩

lemma beginsWithName_append (name : List Char) (hname : '<' ∉ name) (s rest : List Char) :
    beginsWithName name (s ++ '<' :: rest) = beginsWithName name s := by
  induction name generalizing s with
  | nil => cases s <;> rfl
  | cons d name ih =>
    rw [List.mem_cons, not_or] at hname
    cases s with
    | nil =>
      have hlower : '<'.toLower = '<' := by decide
      simp [beginsWithName, hlower, hname.1]
    | cons c s => rw [List.cons_append, beginsWithName, beginsWithName, ih hname.2]

lemma startsScript_append (rest : List Char) :
    startsScript (c :: (s ++ '<' :: rest)) = startsScript (c :: s) := by
  rw [Bool.eq_iff_iff, startsScript_cons, startsScript_cons, beginsWithName_append _ (by decide)]

/-- Only its first character can begin a tag, so a mark that stands in front of another ends there. -/
lemma prefix_append_iff {d : Char} {mark : List Char} (hmark : '<' ∉ mark) (rest : List Char) :
    d :: mark <+: c :: (s ++ '<' :: rest) ↔ d :: mark <+: c :: s := by
  rw [List.cons_prefix_cons, List.cons_prefix_cons]
  exact and_congr_right fun _ => ⟨prefix_of_prefix_append_cons hmark,
    fun h => h.trans (List.prefix_append _ _)⟩

lemma next_append (hs : ¬ "</".toList <+: c :: s) (rest : List Char) :
    mode.next (c :: (s ++ '<' :: rest)) = mode.next (c :: s) := by
  have hmark : ∀ (d : Char) (mark : List Char), '<' ∉ mark →
      (d :: mark).isPrefixOf (c :: (s ++ '<' :: rest)) = (d :: mark).isPrefixOf (c :: s) := by
    intro d mark hmark
    rw [Bool.eq_iff_iff, List.isPrefixOf_iff_prefix, List.isPrefixOf_iff_prefix]
    exact prefix_append_iff hmark rest
  have hopen : "<!--".toList.isPrefixOf (c :: (s ++ '<' :: rest)) =
      "<!--".toList.isPrefixOf (c :: s) := hmark '<' "!--".toList (by decide)
  have hclose : "-->".toList.isPrefixOf (c :: (s ++ '<' :: rest)) =
      "-->".toList.isPrefixOf (c :: s) := hmark '-' "->".toList (by decide)
  have hs' : ¬ "</".toList <+: c :: (s ++ '<' :: rest) :=
    fun h => hs ((prefix_append_iff (by decide) rest).mp h)
  cases mode with
  | plain => rw [Mode.next, Mode.next, hopen]
  | escaped => rw [Mode.next, Mode.next, hclose, startsScript_append]
  | doubled => rw [Mode.next, Mode.next, hclose, endsScript_eq_false hs, endsScript_eq_false hs']

theorem scriptText_append (hs : ¬ "</".toList <:+: s) (mode : Mode) (rest : List Char) :
    scriptText mode (s ++ '<' :: rest) =
      (s ++ (scriptText (mode.after s) ('<' :: rest)).1,
        (scriptText (mode.after s) ('<' :: rest)).2) := by
  induction s generalizing mode with
  | nil => rfl
  | cons c s ih =>
    have hs' : ¬ "</".toList <:+: s := mt List.infix_cons hs
    have hprefix : ¬ "</".toList <+: c :: (s ++ '<' :: rest) :=
      fun h => hs ((prefix_append_iff (by decide) rest).mp h).isInfix
    rw [List.cons_append, scriptText, endsScript_eq_false hprefix, if_neg (by simp),
      next_append (fun h => hs h.isInfix), ih hs']
    rfl

lemma endsScript_endTag (rest : List Char) : endsScript ("</script>".toList ++ rest) = true :=
  rfl

/-- The end tag behind a text without `</` ends it, unless the text hides its end. -/
theorem scriptText_of_not_hidesEnd (hs : ¬ "</".toList <:+: s) (hend : ¬ HidesEnd s)
    (rest : List Char) : scriptText .plain (s ++ ("</script>".toList ++ rest)) =
      (s, "</script>".toList ++ rest) := by
  have hmode : Mode.plain.after s ≠ .doubled := mt (after_eq_doubled_iff hs).1.mp hend
  have hread : scriptText (Mode.plain.after s) ("</script>".toList ++ rest) =
      ([], "</script>".toList ++ rest) := if_pos ⟨hmode, endsScript_endTag rest⟩
  refine (scriptText_append hs .plain ("/script>".toList ++ rest)).trans ?_
  change (s ++ (scriptText (Mode.plain.after s) ("</script>".toList ++ rest)).1,
    (scriptText (Mode.plain.after s) ("</script>".toList ++ rest)).2) = _
  rw [hread, List.append_nil]

theorem scriptText_ne_of_hidesEnd (hs : ¬ "</".toList <:+: s) (hend : HidesEnd s)
    (rest : List Char) : (scriptText .plain (s ++ ("</script>".toList ++ rest))).1 ≠ s := by
  have hmode : Mode.plain.after s = .doubled := (after_eq_doubled_iff hs).1.mpr hend
  have happend := scriptText_append hs .plain ("/script>".toList ++ rest)
  rw [hmode, scriptText, if_neg (by simp)] at happend
  intro heq
  have htext := (congrArg Prod.fst happend).symm.trans heq
  simp at htext

end Modes

end TypeLineage.Html
