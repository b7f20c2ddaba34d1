import Mathlib.Data.List.Basic
import Mathlib.Data.List.TakeWhile
import Mathlib.Tactic.Common
import TypeLineage.Declaration.Scan
import TypeLineage.Proofs.Candidates
import TypeLineage.Proofs.Definition
import TypeLineage.Proofs.Header
import TypeLineage.Proofs.Keyed
import TypeLineage.Proofs.Members
import TypeLineage.Proofs.Scan

/-!
# Records in normal form

What is read from any text without braces in its comments: names are words, plain types are trimmed
nested texts on one line without the marker of subtypes, and slots are that marker with a word in
angle brackets.
-/

namespace TypeLineage

open Text

/-- A text of word characters, at least one. -/
def IsWordText (s : String) : Prop :=
  ∃ w : Word, s = String.ofList w.chars

/-- A field as it can be written: with a plain type, or as a slot. -/
structure Field.IsNormal (f : Field) : Prop where
  name : IsWordText f.name
  plain : f.kind = .plain → (¬ Member.slotMarker <:+: f.name.toList) ∧
    ∃ type : Member.TypeText, f.type = String.ofList type.chars
  slot : f.kind = .slot → f.optional = false ∧ ∃ subtype : Word,
    f.type = String.ofList (Member.slotMarker ++ '<' :: subtype.chars ++ ['>'])

/-- A declaration as it can be written. -/
structure Declaration.IsNormal (d : Declaration) : Prop where
  name : IsWordText d.name
  parent : ∀ p ∈ d.parent, IsWordText p
  fields : ∀ f ∈ d.fields, f.IsNormal
  nodup : (d.fields.map Field.name).Nodup

namespace Member

section Reading

variable {s front rest type candidate : List Char} {f : Field}

lemma getLast?_trimStart (hs : s ≠ []) (hlast : ∀ c ∈ s.getLast?, isBlank c = false) :
    trimStart s ≠ [] ∧ (trimStart s).getLast? = s.getLast? := by
  have happ : s.takeWhile isBlank ++ trimStart s = s := List.takeWhile_append_dropWhile
  have hne : trimStart s ≠ [] := by
    intro hnil
    rw [hnil, List.append_nil] at happ
    have hlast' := hlast (s.getLast hs) (List.getLast?_eq_some_getLast hs)
    have hmem := List.getLast_mem hs
    generalize s.getLast hs = c at hmem hlast'
    rw [← happ] at hmem
    rw [List.mem_takeWhile_imp hmem] at hlast'
    cases hlast'
  refine ⟨hne, ?_⟩
  have hgetLast := List.getLast?_append_of_ne_nil (s.takeWhile isBlank) hne
  rw [happ] at hgetLast
  exact hgetLast.symm

lemma nested_trimStart {kind : Char → Prop} (h : Nested kind s) : Nested kind (trimStart s) := by
  have hbraceless : ∀ c, isBlank c = false → c ∉ s.takeWhile isBlank := by
    intro c hc hmem
    rw [List.mem_takeWhile_imp hmem] at hc
    cases hc
  rw [← List.takeWhile_append_dropWhile (p := isBlank) (l := s)] at h
  exact h.of_append (hbraceless _ (by decide)) (hbraceless _ (by decide))

lemma exists_typeText (hc : IsCandidate (front ++ ':' :: rest)) (hopen : '{' ∉ front)
    (hclose : '}' ∉ front) (hmarker : ¬ slotMarker <:+: front ++ ':' :: rest)
    (h : typeText? rest = some type) : ∃ t : TypeText, type = t.chars := by
  have hrest : rest ≠ [] := by
    rintro rfl
    cases h
  have hlast : ∀ c ∈ rest.getLast?, isBlank c = false := by
    intro c hmem
    refine hc.trimmed.last c ?_
    rw [List.append_cons, List.getLast?_append_of_ne_nil _ hrest]
    exact hmem
  obtain ⟨hne, hgetLast⟩ := getLast?_trimStart hrest hlast
  have hwithin : trimStart rest <:+: front ++ ':' :: rest :=
    (trimStart_suffix rest).isInfix.trans ⟨front ++ [':'], [], by simp⟩
  have hnested : Nested (· ≠ ';') (trimStart rest) := by
    have hall := hc.nested
    rw [List.append_cons] at hall
    exact nested_trimStart (hall.of_append (by simpa using hopen) (by simpa using hclose))
  have hend : ∀ c ∈ (trimStart rest).getLast?, isBlank c = false := by
    rw [hgetLast]
    exact hlast
  have hnewline : '\n' ∉ trimStart rest := fun hmem => hc.newline_not_mem (hwithin.subset hmem)
  have hfinal : dropFinalNewline rest = rest := by
    rw [dropFinalNewline, if_neg]
    intro hn
    exact absurd (hlast _ hn) (by decide)
  have hsemicolon : (trimStart rest).getLast? ≠ some ';' := by
    intro hn
    rcases hnested.last ';' hn with hn | hn
    · exact hn rfl
    · exact absurd hn (by decide)
  -- So neither a newline nor a semicolon nor a blank is taken off the end of the type.
  have htype : type = trimStart rest := by
    simp [typeText?, hfinal, hne, hnewline, hsemicolon, trimEnd_eq_self hend] at h
    exact h.symm
  rw [htype]
  exact ⟨⟨trimStart rest, hne, ⟨trimStart_head rest, hend⟩, hnested, hnewline,
    fun hm => hmarker (hm.trans hwithin)⟩, rfl⟩

lemma isNormal_of_plain? (hc : IsCandidate s) (hmarker : ¬ slotMarker <:+: s)
    (h : plain? s = some f) : f.IsNormal := by
  -- With or without a question mark, what stands before the colon begins with the name.
  have hplain {front rest : List Char} {w : Word} {optional : Bool} (hs : s = front ++ ':' :: rest)
      (hfront : w.chars <+: front) (hopen : '{' ∉ front) (hclose : '}' ∉ front)
      (hf : (typeText? rest).map (fun type =>
        (⟨String.ofList w.chars, String.ofList type, optional, .plain⟩ : Field)) = some f) :
      f.IsNormal := by
    obtain ⟨type, htype, rfl⟩ := Option.map_eq_some_iff.mp hf
    rw [hs] at hc hmarker
    obtain ⟨t, rfl⟩ := exists_typeText hc hopen hclose hmarker htype
    refine ⟨⟨w, rfl⟩, fun _ => ⟨?_, t, rfl⟩, fun hkind => by cases hkind⟩
    rw [String.toList_ofList]
    intro hname
    exact hmarker (hname.trans (hfront.isInfix.trans (List.prefix_append _ _).isInfix))
  unfold plain? at h
  simp only at h
  split at h
  · cases h
  · rename_i hname
    obtain ⟨w, hw⟩ := exists_word_of_takeWhile hname
    have hs : s = w.chars ++ s.dropWhile isWord := by
      rw [← hw, List.takeWhile_append_dropWhile]
    have hopen : '{' ∉ w.chars := w.not_mem (by decide)
    have hclose : '}' ∉ w.chars := w.not_mem (by decide)
    rw [hw] at h
    split at h
    · rename_i rest hrest
      rw [hrest] at hs
      have hs' : s = (w.chars ++ ['?']) ++ ':' :: rest := by
        rw [hs]
        simp
      exact hplain hs' (List.prefix_append _ _) (by simp [hopen]) (by simp [hclose]) h
    · rename_i rest hrest
      rw [hrest] at hs
      exact hplain hs List.prefix_rfl hopen hclose h
    · cases h

lemma isNormal_of_slot? (h : slot? s = some f) : f.IsNormal := by
  unfold slot? at h
  simp only at h
  split at h
  · cases h
  · rename_i hname
    obtain ⟨w, hw⟩ := exists_word_of_takeWhile hname
    obtain ⟨s₁, -, h⟩ := Option.bind_eq_some_iff.mp h
    obtain ⟨s₂, -, h⟩ := Option.bind_eq_some_iff.mp h
    split at h
    · cases h
    · rename_i hsubtype
      obtain ⟨v, hv⟩ := exists_word_of_takeWhile hsubtype
      obtain ⟨s₃, -, h⟩ := Option.bind_eq_some_iff.mp h
      rw [hw, hv] at h
      rw [← Option.some.inj h]
      exact ⟨⟨w, rfl⟩, (fun hkind => by cases hkind), fun _ => ⟨rfl, v, rfl⟩⟩

theorem isNormal_of_field? (hc : IsCandidate candidate) (h : field? candidate = some f) :
    f.IsNormal := by
  rw [field?] at h
  split at h
  · cases h
  · split at h
    · exact isNormal_of_slot? h
    · rename_i hmarker
      exact isNormal_of_plain? hc (by rwa [occursIn_iff] at hmarker) h

theorem isNormal_of_mem_fields {definition : List Char} (hcomments : CommentsBraceless definition)
    (hf : f ∈ fields definition) : f.IsNormal := by
  rw [fields] at hf
  split at hf
  · cases hf
  · rename_i body hbody
    obtain ⟨front, rest, rfl, -, hlevels⟩ := exists_of_interior? hbody
    have hwithin : body <:+: front ++ '{' :: (body ++ '}' :: rest) :=
      ⟨front ++ ['{'], '}' :: rest, by simp⟩
    obtain ⟨candidate, hmem, hfield⟩ := List.mem_filterMap.mp (Keyed.mem_of_mem_ofList hf)
    exact isNormal_of_field?
      (isCandidate_of_mem_candidates hlevels (hcomments.of_infix hwithin) hmem) hfield

lemma nodup_fields (definition : List Char) : ((fields definition).map Field.name).Nodup := by
  rw [fields]
  split
  · exact List.nodup_nil
  · exact Keyed.nodup_keys_ofList Field.name _

end Reading

end Member

namespace Declaration

variable {s text first line name : List Char} {rest : List (List Char)} {file : String}
  {d : Declaration}

lemma infix_of_extent (hfirst : first <:+ line) (htext : (extent first rest).text = some text) :
    text <:+: unlines (line :: rest) := by
  obtain ⟨taken, more, rfl, rfl, -, -⟩ := exists_taken_of_extent htext
  obtain ⟨before, rfl⟩ := hfirst
  rw [unlines_append_left]
  exact (unlines_prefix_append (first :: taken) more).isInfix.trans
    (List.suffix_append before _).isInfix

lemma isNormal_ofText (w : Word) (hcomments : CommentsBraceless text) (number : Nat)
    (file : String) : (ofText w.chars text number file).IsNormal := by
  have hclean := hcomments.of_infix (infix_clean text)
  refine ⟨⟨w, rfl⟩, fun p hp => ?_, fun f hf => Member.isNormal_of_mem_fields hclean hf,
    Member.nodup_fields _⟩
  obtain ⟨chars, hparent, rfl⟩ := Option.map_eq_some_iff.mp hp
  obtain ⟨v, -, -, rfl, -, -⟩ := exists_of_parent? hparent
  exact ⟨v, rfl⟩

lemma exists_of_mem_findingsFrom {ls : List (List Char)} {number skip : Nat}
    (hd : .declared d ∈ findingsFrom file number skip ls) :
    ∃ (w : Word) (text : List Char) (line : Nat),
      d = ofText w.chars text line file ∧ text <:+: unlines ls := by
  induction ls generalizing number skip with
  | nil => cases hd
  | cons line rest ih =>
    have hrest : ∀ {number skip}, .declared d ∈ findingsFrom file number skip rest →
        ∃ (w : Word) (text : List Char) (number : Nat),
          d = ofText w.chars text number file ∧ text <:+: unlines (line :: rest) := by
      intro number skip hd
      obtain ⟨w, text, number, heq, hinfix⟩ := ih hd
      exact ⟨w, text, number, heq, hinfix.trans (unlines_suffix_append [line] rest).isInfix⟩
    cases skip with
    | succ skip => exact hrest hd
    | zero =>
      rw [findingsFrom] at hd
      split at hd
      · exact hrest hd
      · rename_i name first hheader
        obtain ⟨⟨w, rfl⟩, hfirst⟩ := Header.of_find? hheader
        rcases List.mem_cons.mp hd with hd | hd
        · split at hd
          · cases hd
          · rename_i text htext
            exact ⟨w, text, number, Finding.declared.inj hd, infix_of_extent hfirst htext⟩
        · exact hrest hd

lemma exists_of_mem_parse (hd : d ∈ parse text file) :
    ∃ (w : Word) (part : List Char) (line : Nat),
      d = ofText w.chars part line file ∧ part <:+: text := by
  rw [parse, table] at hd
  have hfinding := mem_filterMap_declared?.mp (Keyed.mem_of_mem_ofList hd)
  rw [findings] at hfinding
  have hfound := exists_of_mem_findingsFrom hfinding
  rwa [unlines_lines] at hfound

/-- What is read from a text without braces in its comments can be written. -/
theorem isNormal_of_mem_parse (hcomments : CommentsBraceless text) (hd : d ∈ parse text file) :
    d.IsNormal := by
  obtain ⟨w, part, line, rfl, hpart⟩ := exists_of_mem_parse hd
  exact isNormal_ofText w (hcomments.of_infix hpart) line file

lemma dot_not_mem_name_of_mem_parse (hd : d ∈ parse text file) : '.' ∉ d.name.toList := by
  obtain ⟨w, part, line, rfl, -⟩ := exists_of_mem_parse hd
  rw [ofText, String.toList_ofList]
  exact w.not_mem (by decide)

lemma nodup_parse (text : List Char) (file : String) :
    ((parse text file).map Declaration.name).Nodup :=
  Keyed.nodup_keys_ofList Declaration.name _

end Declaration

end TypeLineage
