import Mathlib.Data.List.Basic
import Mathlib.Tactic.Common
import TypeLineage.Export.Page
import TypeLineage.Proofs.Encoding

/-!
# Reading structured data

A reader of JSON text. It cuts the text into tokens and puts values together on a stack of the arrays
and objects that are still open. Of numbers it reads the whole ones. A value is read back from its
indented text and from the one on one line, where slashes that are escaped in addition make no difference.
-/

namespace TypeLineage.Json

open Text

inductive Token where
  | openArray
  | closeArray
  | openObject
  | closeObject
  | comma
  | colon
  | text (s : String)
  | word (v : Json)

/-- The blanks between tokens. -/
def isGap (c : Char) : Bool :=
  c = ' ' || c = '\n' || c = '\r' || c = '\t'

def mark? (c : Char) : Option Token :=
  if c = '[' then some .openArray
  else if c = ']' then some .closeArray
  else if c = '\x7b' then some .openObject
  else if c = '\x7d' then some .closeObject
  else if c = ',' then some .comma
  else if c = ':' then some .colon
  else none

/-- The value of a hexadecimal digit. -/
def hexValue? (c : Char) : Option Nat :=
  if '0' ≤ c ∧ c ≤ '9' then some (c.toNat - '0'.toNat)
  else if 'a' ≤ c ∧ c ≤ 'f' then some (c.toNat - 'a'.toNat + 10)
  else if 'A' ≤ c ∧ c ≤ 'F' then some (c.toNat - 'A'.toNat + 10)
  else none

/-- The character that a backslash and a letter or sign stand for. -/
def shortEscape? (c : Char) : Option Nat :=
  if c = '"' ∨ c = '\\' ∨ c = '/' then some c.toNat
  else if c = 'b' then some 8
  else if c = 'f' then some 12
  else if c = 'n' then some 10
  else if c = 'r' then some 13
  else if c = 't' then some 9
  else none

/-- The UTF-16 units or characters that the inside of a string literal stands for. -/
def units? : List Char → Option (List Nat)
  | [] => some []
  | '\\' :: 'u' :: c₃ :: c₂ :: c₁ :: c₀ :: rest => do
    let d₃ ← hexValue? c₃
    let d₂ ← hexValue? c₂
    let d₁ ← hexValue? c₁
    let d₀ ← hexValue? c₀
    (units? rest).map ((((d₃ * 16 + d₂) * 16 + d₁) * 16 + d₀) :: ·)
  | '\\' :: c :: rest => do
    let n ← shortEscape? c
    (units? rest).map (n :: ·)
  | ['\\'] => none
  | c :: rest => (units? rest).map (c.toNat :: ·)

/-- Puts the two units of a character beyond the basic plane together. No unit of such a pair stands
alone. -/
def characters? : List Nat → Option (List Char)
  | [] => some []
  | n :: rest =>
    if 0xD800 ≤ n ∧ n < 0xDC00 then
      match rest with
      | [] => none
      | m :: rest =>
        if 0xDC00 ≤ m ∧ m < 0xE000 then
          (characters? rest).map (Char.ofNat (0x10000 + (n - 0xD800) * 0x400 + (m - 0xDC00)) :: ·)
        else none
    else if 0xDC00 ≤ n ∧ n < 0xE000 then none
    else (characters? rest).map (Char.ofNat n :: ·)

/-- The text of a string literal. -/
def unescape? (s : List Char) : Option String :=
  ((units? s).bind characters?).map String.ofList

/-- A number without leading zeros. -/
def natural? (s : List Char) : Option Nat :=
  let n := Nat.ofDigitChars 10 s 0
  if Nat.toDigits 10 n = s then some n else none

def integer? : List Char → Option Int
  | '-' :: s => (natural? s).map fun n => -Int.ofNat n
  | s => (natural? s).map Int.ofNat

/-- A value without brackets, braces or quotes. -/
def word? (s : List Char) : Option Json :=
  if s = "null".toList then some .null
  else if s = "true".toList then some (.bool true)
  else if s = "false".toList then some (.bool false)
  else (integer? s).map .number

/-- Where the reader stands: between tokens, in a word or a string literal of which it has read a part,
or behind a backslash in a literal. -/
inductive Mode where
  | between
  | word (s : List Char)
  | inside (s : List Char)
  | escaped (s : List Char)

/-- Reads a text into tokens. -/
def lex : Mode → List Char → Option (List Token)
  | .between, [] => some []
  | .between, c :: rest =>
    if isGap c then lex .between rest
    else if c = '"' then lex (.inside []) rest
    else match mark? c with
      | some t => (lex .between rest).map (t :: ·)
      | none => lex (.word [c]) rest
  | .word s, [] => (word? s).map fun v => [.word v]
  | .word s, c :: rest =>
    if isGap c then (word? s).bind fun v => (lex .between rest).map (.word v :: ·)
    else match mark? c with
      | some t => (word? s).bind fun v => (lex .between rest).map (.word v :: t :: ·)
      | none => lex (.word (s ++ [c])) rest
  | .inside s, c :: rest =>
    if c = '"' then (unescape? s).bind fun t => (lex .between rest).map (.text t :: ·)
    else if c = '\\' then lex (.escaped s) rest
    else if c.toNat < 32 then none
    else lex (.inside (s ++ [c])) rest
  | .escaped s, c :: rest => lex (.inside (s ++ ['\\', c])) rest
  | .inside _, [] | .escaped _, [] => none

/-- An array or object that is still open, with what it holds so far, latest first. -/
inductive Open where
  | array (items : List Json)
  | object (entries : List (String × Json)) (key : String)

mutual

/-- Reads a value that stands in some open arrays and objects. -/
def readValue : List Open → List Token → Option Json
  | stack, .text s :: rest => readOn stack (.string s) rest
  | stack, .word v :: rest => readOn stack v rest
  | stack, .openArray :: .closeArray :: rest => readOn stack (.array []) rest
  | stack, .openArray :: rest => readValue (.array [] :: stack) rest
  | stack, .openObject :: .closeObject :: rest => readOn stack (.object []) rest
  | stack, .openObject :: .text key :: .colon :: rest => readValue (.object [] key :: stack) rest
  | _, _ => none

/-- Reads on behind a value. -/
def readOn : List Open → Json → List Token → Option Json
  | [], v, [] => some v
  | .array items :: stack, v, .comma :: rest => readValue (.array (v :: items) :: stack) rest
  | .array items :: stack, v, .closeArray :: rest => readOn stack (.array (v :: items).reverse) rest
  | .object entries key :: stack, v, .comma :: .text key' :: .colon :: rest =>
    readValue (.object ((key, v) :: entries) key' :: stack) rest
  | .object entries key :: stack, v, .closeObject :: rest =>
    readOn stack (.object ((key, v) :: entries).reverse) rest
  | _, _, _ => none

end

/-- The value that a text stands for. -/
def decode? (s : List Char) : Option Json :=
  (lex .between s).bind (readValue [])

mutual

def tokens : Json → List Token
  | .null => [.word .null]
  | .bool b => [.word (.bool b)]
  | .number n => [.word (.number n)]
  | .string s => [.text s]
  | .array items => .openArray :: itemTokens items ++ [.closeArray]
  | .object entries => .openObject :: entryTokens entries ++ [.closeObject]

def itemTokens : List Json → List Token
  | [] => []
  | [v] => tokens v
  | v :: rest => tokens v ++ .comma :: itemTokens rest

def entryTokens : List (String × Json) → List Token
  | [] => []
  | [(k, v)] => .text k :: .colon :: tokens v
  | (k, v) :: rest => .text k :: .colon :: tokens v ++ .comma :: entryTokens rest

end

section Parsing

lemma readValue_openArray (stack : List Open) (v : Json) (more : List Token) :
    readValue stack (.openArray :: (tokens v ++ more)) =
      readValue (.array [] :: stack) (tokens v ++ more) := by
  cases v <;> simp [tokens, readValue]

lemma exists_itemTokens_cons (v : Json) (items : List Json) :
    ∃ more, itemTokens (v :: items) = tokens v ++ more := by
  cases items with
  | nil => exact ⟨[], by rw [itemTokens, List.append_nil]⟩
  | cons v' items => exact ⟨.comma :: itemTokens (v' :: items), by rw [itemTokens]; simp⟩

mutual

theorem readValue_tokens (stack : List Open) (rest : List Token) :
    ∀ v : Json, readValue stack (tokens v ++ rest) = readOn stack v rest
  | .null | .bool _ | .number _ | .string _ => by simp [tokens, readValue]
  | .array [] => by simp [tokens, itemTokens, readValue]
  | .array (v :: items) => by
    have hitems := readValue_items stack rest [] (v :: items) (List.cons_ne_nil _ _)
    obtain ⟨more, hmore⟩ := exists_itemTokens_cons v items
    rw [hmore, List.append_assoc, ← readValue_openArray] at hitems
    rw [tokens, hmore]
    simpa using hitems
  | .object [] => by simp [tokens, entryTokens, readValue]
  | .object ((key, v) :: entries) => by
    obtain ⟨body, hbody, hentries⟩ := readValue_entries stack rest [] ((key, v) :: entries) key rfl
    rw [tokens, hbody]
    simpa [readValue] using hentries

theorem readValue_items (stack : List Open) (rest : List Token) (before : List Json) :
    ∀ items : List Json, items ≠ [] →
      readValue (.array before :: stack) (itemTokens items ++ .closeArray :: rest) =
        readOn stack (.array (before.reverse ++ items)) rest
  | [], h => absurd rfl h
  | [v], _ => by
    rw [itemTokens, readValue_tokens, readOn]
    simp
  | v :: v' :: items, _ => by
    have hitems := readValue_items stack rest (v :: before) (v' :: items) (List.cons_ne_nil _ _)
    rw [itemTokens, List.append_assoc, readValue_tokens, List.cons_append, readOn, hitems]
    · simp
    · simp

theorem readValue_entries (stack : List Open) (rest : List Token) (before : List (String × Json)) :
    ∀ (entries : List (String × Json)) (key : String), entries.head?.map (·.1) = some key →
      ∃ body, entryTokens entries = .text key :: .colon :: body ∧
        readValue (.object before key :: stack) (body ++ .closeObject :: rest) =
          readOn stack (.object (before.reverse ++ entries)) rest
  | [], _, h => by simp at h
  | [(key, v)], _, h => by
    obtain rfl := Option.some.inj h
    refine ⟨tokens v, by rw [entryTokens], ?_⟩
    rw [readValue_tokens, readOn]
    simp
  | (key, v) :: (key', v') :: entries, _, h => by
    obtain rfl := Option.some.inj h
    obtain ⟨body, hbody, hentries⟩ :=
      readValue_entries stack rest ((key, v) :: before) ((key', v') :: entries) key' rfl
    refine ⟨tokens v ++ .comma :: .text key' :: .colon :: body, ?_, ?_⟩
    · rw [entryTokens, hbody]
      · rfl
      · simp
    · rw [List.append_assoc, readValue_tokens]
      simpa [readOn] using hentries

end

end Parsing

section Guarded

open Page

variable {s t : List Char} {c : Char}

lemma guardEnd_cons (c : Char) (s : List Char) : guardEnd (c :: s) =
    if c = '<' ∧ (guardEnd s).head? = some '/' then '<' :: '\\' :: guardEnd s
    else c :: guardEnd s :=
  rfl

lemma guardEnd_cons_of_ne (hc : c ≠ '<') (s : List Char) : guardEnd (c :: s) = c :: guardEnd s := by
  rw [guardEnd_cons, if_neg fun h => hc h.1]

lemma guardEnd_of_not_mem (hs : '<' ∉ s) (t : List Char) : guardEnd (s ++ t) = s ++ guardEnd t := by
  induction s with
  | nil => rfl
  | cons c s ih =>
    rw [List.mem_cons, not_or] at hs
    rw [List.cons_append, guardEnd_cons_of_ne (Ne.symm hs.1), ih hs.2, List.cons_append]

lemma head?_guardEnd (s : List Char) : (guardEnd s).head? = s.head? := by
  cases s with
  | nil => rfl
  | cons c s =>
    rw [guardEnd_cons]
    split
    · rename_i h
      rw [h.1]
      rfl
    · rfl

/-- Only a slash can be escaped where two texts meet. -/
lemma guardEnd_append (ht : t.head? ≠ some '/') (s : List Char) :
    guardEnd (s ++ t) = guardEnd s ++ guardEnd t := by
  induction s with
  | nil => rfl
  | cons c s ih =>
    have hhead : (guardEnd (s ++ t)).head? = some '/' ↔ (guardEnd s).head? = some '/' := by
      rw [head?_guardEnd, head?_guardEnd]
      cases s with
      | nil => simpa using ht
      | cons d s => rfl
    rw [List.cons_append, guardEnd_cons, guardEnd_cons]
    simp only [hhead]
    split <;> rw [ih] <;> rfl

theorem not_infix_guardEnd (s : List Char) : ¬ "</".toList <:+: guardEnd s := by
  induction s with
  | nil => exact fun h => absurd (List.infix_nil.mp h) (by decide)
  | cons c s ih =>
    rw [guardEnd_cons]
    split
    · simpa [List.infix_cons_iff] using ih
    · rename_i h
      rw [List.infix_cons_iff]
      rintro (⟨rest, hrest⟩ | hinfix)
      · obtain ⟨hc, hs⟩ := List.cons.inj hrest
        exact h ⟨hc.symm, by rw [← hs]; rfl⟩
      · exact ih hinfix

end Guarded

section Literals

/-- In a string literal a piece is taken as it is and stands for some units. -/
structure Spells (piece : List Char) (us : List Nat) : Prop where
  lex_inside : ∀ s rest, lex (.inside s) (piece ++ rest) = lex (.inside (s ++ piece)) rest
  units : ∀ rest, units? (piece ++ rest) = (units? rest).map (us ++ ·)

variable {piece piece' : List Char} {us us' : List Nat}

lemma Spells.nil : Spells [] [] :=
  ⟨by simp, by simp⟩

lemma Spells.append (h : Spells piece us) (h' : Spells piece' us') :
    Spells (piece ++ piece') (us ++ us') := by
  constructor
  · intro s rest
    rw [List.append_assoc, h.lex_inside, h'.lex_inside, List.append_assoc]
  · intro rest
    rw [List.append_assoc, h.units, h'.units, Option.map_map]
    simp [Function.comp_def]

lemma lex_backslash (s : List Char) (c : Char) (rest : List Char) :
    lex (.inside s) ('\\' :: c :: rest) = lex (.inside (s ++ ['\\', c])) rest := by
  rw [lex, if_neg (by decide), if_pos rfl, lex]

lemma spells_short {c : Char} {n : Nat} (hc : shortEscape? c = some n) : Spells ['\\', c] [n] := by
  constructor
  · exact fun s rest => lex_backslash s c rest
  · intro rest
    have hu : c ≠ 'u' := by
      rintro rfl
      simp [shortEscape?] at hc
    simp [units?, hu, hc]

lemma spells_self {c : Char} (hquote : c ≠ '"') (hbackslash : c ≠ '\\') (hc : 32 ≤ c.toNat) :
    Spells [c] [c.toNat] := by
  constructor
  · intro s rest
    simp [lex, hquote, hbackslash, Nat.not_lt.mpr hc]
  · intro rest
    simp [units?, hbackslash]

lemma hexValue?_digitChar : ∀ d < 16, hexValue? (Nat.digitChar d) = some d := by
  decide

lemma spells_hexDigit (n : Nat) : Spells [hexDigit n] [(hexDigit n).toNat] := by
  have hplain : ∀ d < 16, Nat.digitChar d ≠ '"' ∧ Nat.digitChar d ≠ '\\' ∧
      32 ≤ (Nat.digitChar d).toNat := by decide
  obtain ⟨hquote, hbackslash, hcontrol⟩ := hplain (n % 16) (Nat.mod_lt n (by decide))
  exact spells_self hquote hbackslash hcontrol

lemma hexValue?_hexDigit (n : Nat) : hexValue? (hexDigit n) = some (n % 16) :=
  hexValue?_digitChar _ (Nat.mod_lt n (by decide))

lemma unitEscape_eq (n : Nat) : unitEscape n = '\\' :: 'u' :: [hexDigit (n / 16 / 16 / 16),
    hexDigit (n / 16 / 16), hexDigit (n / 16), hexDigit n] :=
  rfl

lemma spells_unit {n : Nat} (hn : n < 0x10000) : Spells (unitEscape n) [n] := by
  constructor
  · intro s rest
    have hdigit : ∀ m s rest, lex (.inside s) (hexDigit m :: rest) =
        lex (.inside (s ++ [hexDigit m])) rest := fun m => (spells_hexDigit m).lex_inside
    rw [unitEscape_eq]
    simp only [List.cons_append, List.nil_append, lex_backslash, hdigit]
    simp
  · intro rest
    have hvalue : ((n / 16 / 16 / 16 % 16 * 16 + n / 16 / 16 % 16) * 16 + n / 16 % 16) * 16 + n % 16 =
        n := by omega
    rw [unitEscape_eq]
    simp [units?, hexValue?_hexDigit, hvalue]

/-- What stands for a character: itself, or the two units of one beyond the basic plane. -/
def unitsOf (c : Char) : List Nat :=
  if c.toNat < 0x10000 then [c.toNat]
  else [0xD800 + (c.toNat - 0x10000) / 0x400, 0xDC00 + (c.toNat - 0x10000) % 0x400]

lemma spells_escapeChar (c : Char) : Spells (escapeChar c) (unitsOf c) := by
  have hlow : c.toNat < 0x10000 → unitsOf c = [c.toNat] := fun h => if_pos h
  rw [escapeChar]
  split_ifs with hquote hn hr ht hb hf hvisible
  · rw [hlow (by rcases hquote with rfl | rfl <;> decide)]
    exact spells_short (by rcases hquote with rfl | rfl <;> rfl)
  · subst hn
    exact spells_short rfl
  · subst hr
    exact spells_short rfl
  · subst ht
    exact spells_short rfl
  · rw [hlow (by omega), hb]
    exact spells_short rfl
  · rw [hlow (by omega), hf]
    exact spells_short rfl
  · rw [hlow (by omega)]
    exact spells_self (fun h => hquote (.inl h)) (fun h => hquote (.inr h)) hvisible.1
  · have hc := Utf8.toNat_bounds c
    rw [unitsEscape, unitsOf]
    split
    · exact spells_unit (by assumption)
    · exact (spells_unit (by omega)).append (spells_unit (by omega))

lemma characters?_unitsOf (c : Char) (us : List Nat) :
    characters? (unitsOf c ++ us) = (characters? us).map (c :: ·) := by
  have hc := Utf8.toNat_bounds c
  rw [unitsOf]
  split
  · rw [List.singleton_append, characters?.eq_def]
    simp only
    rw [if_neg (by omega), if_neg (by omega), Char.ofNat_toNat]
  · have hvalue : 0x10000 + (0xD800 + (c.toNat - 0x10000) / 0x400 - 0xD800) * 0x400 +
        (0xDC00 + (c.toNat - 0x10000) % 0x400 - 0xDC00) = c.toNat := by omega
    rw [List.cons_append, List.singleton_append, characters?.eq_def]
    simp only
    rw [if_pos (by omega), if_pos (by omega), hvalue, Char.ofNat_toNat]

lemma not_mem_escapeChar {c : Char} (hc : c ≠ '<') : '<' ∉ escapeChar c := by
  have hdigit : ∀ n, hexDigit n ≠ '<' := fun n =>
    (by decide : ∀ d < 16, Nat.digitChar d ≠ '<') _ (Nat.mod_lt n (by decide))
  have hunit : ∀ n, '<' ∉ unitEscape n := fun n => by
    rw [unitEscape_eq]
    simp [Ne.symm (hdigit _)]
  rw [escapeChar]
  split_ifs
  · simp [Ne.symm hc]
  iterate 5 decide
  · simp [Ne.symm hc]
  · rw [unitsEscape]
    split
    · exact hunit _
    · simp [hunit]

end Literals

section Lexing

open Page

lemma Spells.escapeSlash {more : List Char} {us : List Nat} (h : Spells ('/' :: more) us) :
    Spells ('\\' :: '/' :: more) us := by
  have hslash : Spells ['/'] [47] := spells_self (by decide) (by decide) (by decide)
  have hescaped : Spells ['\\', '/'] [47] := spells_short rfl
  constructor
  · intro s rest
    have hinside := h.lex_inside (s ++ ['\\']) rest
    have hfirst := hslash.lex_inside (s ++ ['\\']) (more ++ rest)
    simp only [List.cons_append, List.nil_append, List.append_assoc] at hinside hfirst ⊢
    rw [lex_backslash, ← hinside, hfirst]
  · intro rest
    have hself := hslash.units (more ++ rest)
    have hshort := hescaped.units (more ++ rest)
    have hunits := h.units rest
    simp only [List.cons_append, List.nil_append] at hself hshort hunits ⊢
    rw [hshort, ← hself, hunits]

lemma spells_guardEnd (cs : List Char) :
    Spells (guardEnd (cs.flatMap escapeChar)) (cs.flatMap unitsOf) := by
  induction cs with
  | nil => exact .nil
  | cons c cs ih =>
    rw [List.flatMap_cons, List.flatMap_cons]
    by_cases hc : c = '<'
    · subst hc
      have hself : Spells ['<'] (unitsOf '<') := spells_escapeChar '<'
      change Spells (guardEnd ('<' :: cs.flatMap escapeChar)) _
      rw [guardEnd_cons]
      split
      · rename_i h
        obtain ⟨more, hmore⟩ : ∃ more, guardEnd (cs.flatMap escapeChar) = '/' :: more := by
          cases hs : guardEnd (cs.flatMap escapeChar) with
          | nil => simp [hs] at h
          | cons d more => exact ⟨more, by simpa [hs] using h⟩
        rw [hmore] at ih ⊢
        exact hself.append ih.escapeSlash
      · exact hself.append ih
    · rw [guardEnd_of_not_mem (not_mem_escapeChar hc)]
      exact (spells_escapeChar c).append ih

lemma spells_escapes (cs : List Char) : Spells (cs.flatMap escapeChar) (cs.flatMap unitsOf) := by
  induction cs with
  | nil => exact .nil
  | cons c cs ih =>
    rw [List.flatMap_cons, List.flatMap_cons]
    exact (spells_escapeChar c).append ih

lemma unescape?_of_spells {piece : List Char} {s : String}
    (h : Spells piece (s.toList.flatMap unitsOf)) : unescape? piece = some s := by
  have hunits := h.units []
  have hcharacters : ∀ cs : List Char, characters? (cs.flatMap unitsOf) = some cs := by
    intro cs
    induction cs with
    | nil => rfl
    | cons c cs ih => rw [List.flatMap_cons, characters?_unitsOf, ih, Option.map_some]
  rw [List.append_nil] at hunits
  rw [unescape?, hunits]
  simp [units?, hcharacters]

/-- Behind a word a reader finds that it has ended. -/
def Ends (rest : List Char) : Prop :=
  ∀ c ∈ rest.head?, isGap c = true ∨ (mark? c).isSome

variable {rest : List Char}

/-- A text that is read between others as some tokens. -/
def LexesTo (s : List Char) (ts : List Token) : Prop :=
  ∀ rest, Ends rest → lex .between (s ++ rest) = (lex .between rest).map (ts ++ ·)

lemma lexesTo_literal {piece : List Char} {s : String} (h : Spells piece (s.toList.flatMap unitsOf)) :
    LexesTo ('"' :: piece ++ ['"']) [.text s] := by
  intro rest _
  rw [List.append_assoc, List.cons_append, List.singleton_append, lex, if_neg (by decide), if_pos rfl,
    h.lex_inside, List.nil_append, lex, if_pos rfl, unescape?_of_spells h, Option.bind_some]
  rfl

lemma lexesTo_stringText (s : String) : LexesTo (stringText s) [.text s] :=
  lexesTo_literal (spells_escapes s.toList)

lemma lexesTo_string (s : String) : LexesTo (guardEnd (stringText s)) [.text s] := by
  have htext : guardEnd (stringText s) = '"' :: guardEnd (s.toList.flatMap escapeChar) ++ ['"'] := by
    rw [stringText, guardEnd_append (by simp), guardEnd_cons_of_ne (by decide)]
    simp [guardEnd]
  rw [htext]
  exact lexesTo_literal (spells_guardEnd s.toList)

lemma lex_word {s w : List Char} (hs : ∀ c ∈ s, isGap c = false ∧ mark? c = none) :
    lex (.word w) (s ++ rest) = lex (.word (w ++ s)) rest := by
  induction s generalizing w with
  | nil => simp
  | cons c s ih =>
    rw [List.forall_mem_cons] at hs
    rw [List.cons_append, lex, hs.1.1, hs.1.2, if_neg (by decide)]
    simp only
    rw [ih hs.2, List.append_assoc, List.singleton_append]

lemma lex_word_of_ends {w : List Char} {v : Json} (hrest : Ends rest) (hw : word? w = some v) :
    lex (.word w) rest = (lex .between rest).map (.word v :: ·) := by
  cases rest with
  | nil => simp [lex, hw]
  | cons c rest =>
    have hquote : mark? '"' = none := rfl
    rw [lex, lex, hw]
    rcases hrest c rfl with hgap | hmark
    · simp [hgap]
    · obtain ⟨t, ht⟩ := Option.isSome_iff_exists.mp hmark
      have hne : c ≠ '"' := by
        rintro rfl
        simp [hquote] at ht
      by_cases hgap : isGap c = true <;> simp [hgap, ht, hne, Function.comp_def]

lemma forall_plain_of_all {s : List Char}
    (hs : s.all (fun c => !isGap c && (mark? c).isNone) = true) :
    ∀ c ∈ s, isGap c = false ∧ mark? c = none := fun c hc => by
  simpa using List.all_eq_true.mp hs c hc

lemma lexesTo_word {s : List Char} {v : Json} (hs : s ≠ [])
    (hplain : ∀ c ∈ s, isGap c = false ∧ mark? c = none) (hquote : '"' ∉ s)
    (hv : word? s = some v) : LexesTo s [.word v] := by
  intro rest hrest
  obtain ⟨c, s, rfl⟩ := List.exists_cons_of_ne_nil hs
  rw [List.forall_mem_cons] at hplain
  rw [List.mem_cons, not_or] at hquote
  rw [List.cons_append, lex, hplain.1.1, hplain.1.2, if_neg (by decide), if_neg (Ne.symm hquote.1)]
  simp only
  rw [lex_word hplain.2, List.singleton_append, lex_word_of_ends hrest hv]
  rfl

lemma LexesTo.nil : LexesTo [] [] := by
  intro rest _
  simp

lemma LexesTo.gap {s : List Char} {ts : List Token} {c : Char} (hc : isGap c = true)
    (h : LexesTo s ts) : LexesTo (c :: s) ts := by
  intro rest hrest
  rw [List.cons_append, lex, if_pos hc, h rest hrest]

lemma isGap_of_mem_newline {level : Nat} {c : Char} (hc : c ∈ newline level) : isGap c = true := by
  rcases List.mem_cons.mp hc with rfl | hc
  · rfl
  · rw [List.eq_of_mem_replicate hc]
    rfl

lemma lex_newline (level : Nat) (rest : List Char) :
    lex .between (newline level ++ rest) = lex .between rest := by
  have hgaps : ∀ gaps : List Char, (∀ c ∈ gaps, isGap c = true) →
      lex .between (gaps ++ rest) = lex .between rest := by
    intro gaps hgaps
    induction gaps with
    | nil => rfl
    | cons c gaps ih =>
      rw [List.forall_mem_cons] at hgaps
      rw [List.cons_append, lex, if_pos hgaps.1, ih hgaps.2]
  exact hgaps _ fun _ => isGap_of_mem_newline

lemma LexesTo.newline {s : List Char} {ts : List Token} (h : LexesTo s ts) (level : Nat) :
    LexesTo (Json.newline level ++ s) ts := by
  intro rest hrest
  rw [List.append_assoc, lex_newline, h rest hrest]

lemma LexesTo.endLine {s : List Char} {ts : List Token} (h : LexesTo s ts) (level : Nat) :
    LexesTo (s ++ Json.newline level) ts := by
  intro rest _
  have hends : Ends (Json.newline level ++ rest) := by
    intro c hc
    obtain rfl : '\n' = c := by simpa [Json.newline] using hc
    exact .inl rfl
  rw [List.append_assoc, h _ hends, lex_newline]

/-- A bracket, brace, comma or colon between two texts keeps their tokens apart. -/
lemma LexesTo.append {s s' : List Char} {ts ts' : List Token} {c : Char} {t : Token}
    (h : LexesTo s ts) (hc : mark? c = some t) (hgap : isGap c = false) (h' : LexesTo s' ts') :
    LexesTo (s ++ c :: s') (ts ++ t :: ts') := by
  intro rest hrest
  have hquote : c ≠ '"' := by
    rintro rfl
    rw [show mark? '"' = none from rfl] at hc
    cases hc
  have hends : Ends (c :: (s' ++ rest)) := by
    intro d hd
    obtain rfl : c = d := by simpa using hd
    exact .inr (by simp [hc])
  have hmark : lex .between (c :: (s' ++ rest)) = (lex .between (s' ++ rest)).map (t :: ·) := by
    rw [lex, hgap, hc, if_neg (by decide), if_neg hquote]
  rw [List.append_assoc, List.cons_append, h _ hends, hmark, h' rest hrest, Option.map_map,
    Option.map_map]
  simp [Function.comp_def]

lemma natural?_toDigits (n : Nat) : natural? (Nat.toDigits 10 n) = some n := by
  rw [natural?, Nat.ofDigitChars_toDigits (by decide) (by decide)]
  simp

lemma numberText_eq (n : Int) : numberText n =
    if n < 0 then '-' :: Nat.toDigits 10 n.natAbs else Nat.toDigits 10 n.natAbs := by
  rw [numberText, Binary64.signText, Binary64.digits]
  by_cases hn : n < 0 <;> simp [hn]

lemma isDigit_of_mem_digits {n : Nat} {c : Char} (hc : c ∈ Nat.toDigits 10 n) : c.isDigit = true :=
  Nat.isDigit_of_mem_toDigits (by decide) (by decide) hc

lemma integer?_numberText (n : Int) : integer? (numberText n) = some n := by
  rw [numberText_eq]
  split
  · rw [integer?, natural?_toDigits, Option.map_some]
    exact congrArg some (by simp only [Int.ofNat_eq_natCast]; omega)
  · rw [integer?.eq_def]
    split
    · rename_i s heq
      have hdigit : ('-' : Char).isDigit = true :=
        isDigit_of_mem_digits (n := n.natAbs) (by rw [heq]; exact List.mem_cons_self)
      exact absurd hdigit (by decide)
    · rw [natural?_toDigits, Option.map_some]
      exact congrArg some (by simp only [Int.ofNat_eq_natCast]; omega)

lemma not_mem_numberText {d : Char} (hminus : d ≠ '-') (hdigit : d.isDigit = false) (n : Int) :
    d ∉ numberText n := by
  have hdigits : d ∉ Nat.toDigits 10 n.natAbs := by
    intro h
    rw [isDigit_of_mem_digits h] at hdigit
    cases hdigit
  rw [numberText_eq]
  split <;> simp [hdigits, hminus]

lemma lexesTo_number (n : Int) : LexesTo (numberText n) [.word (.number n)] := by
  have hnot : ∀ c ∈ numberText n, ∀ d : Char, d ≠ '-' → d.isDigit = false → c ≠ d := by
    rintro c hc d hminus hdigit rfl
    exact not_mem_numberText hminus hdigit n hc
  have hne : numberText n ≠ [] := by
    rw [numberText_eq]
    split
    · exact List.cons_ne_nil _ _
    · exact Nat.toDigits_ne_nil
  have hword : ∀ w : List Char, ∀ d ∈ w, d ≠ '-' → d.isDigit = false → numberText n ≠ w := by
    rintro w d hd hminus hdigit rfl
    exact not_mem_numberText hminus hdigit n hd
  refine lexesTo_word hne (fun c hc => ?_) (fun hc => ?_) ?_
  · have h := hnot c hc
    rw [isGap, mark?]
    simp [h ' ' (by decide) (by decide), h '\n' (by decide) (by decide),
      h '\r' (by decide) (by decide), h '\t' (by decide) (by decide), h '[' (by decide) (by decide),
      h ']' (by decide) (by decide), h '\x7b' (by decide) (by decide),
      h '\x7d' (by decide) (by decide), h ',' (by decide) (by decide),
      h ':' (by decide) (by decide)]
  · exact not_mem_numberText (by decide) (by decide) n hc
  · rw [word?, if_neg (hword _ 'n' (by decide) (by decide) (by decide)),
      if_neg (hword _ 't' (by decide) (by decide) (by decide)),
      if_neg (hword _ 'f' (by decide) (by decide) (by decide)), integer?_numberText]
    rfl

lemma lexesTo_null : LexesTo "null".toList [.word .null] :=
  lexesTo_word (by decide) (forall_plain_of_all (by decide)) (by decide) rfl

lemma lexesTo_boolText (b : Bool) : LexesTo (boolText b) [.word (.bool b)] := by
  cases b
  · exact lexesTo_word (by decide) (forall_plain_of_all (by decide)) (by decide) rfl
  · exact lexesTo_word (by decide) (forall_plain_of_all (by decide)) (by decide) rfl

mutual

theorem lexesTo_compact : ∀ v : Json, LexesTo (guardEnd v.compact) (tokens v)
  | .null => lexesTo_null
  | .bool b => by
    have hplain : guardEnd (boolText b) = boolText b := by
      cases b <;> rfl
    rw [compact, tokens, hplain]
    exact lexesTo_boolText b
  | .number n => by
    have hplain := guardEnd_of_not_mem (not_mem_numberText (by decide) (by decide) n) []
    rw [List.append_nil] at hplain
    rw [compact, tokens, hplain]
    simpa [guardEnd] using lexesTo_number n
  | .string s => by
    rw [compact, tokens]
    exact lexesTo_string s
  | .array items => by
    rw [compact, tokens, guardEnd_append (by decide), guardEnd_cons_of_ne (by decide)]
    have hitems := (lexesTo_compactItems items).append (c := ']') rfl (by decide) .nil
    exact LexesTo.nil.append rfl (by decide) hitems
  | .object entries => by
    rw [compact, tokens, guardEnd_append (by decide), guardEnd_cons_of_ne (by decide)]
    have hentries := (lexesTo_compactEntries entries).append (c := '\x7d') rfl (by decide) .nil
    exact LexesTo.nil.append rfl (by decide) hentries

theorem lexesTo_compactItems :
    ∀ items : List Json, LexesTo (guardEnd (compactItems items)) (itemTokens items)
  | [] => .nil
  | [v] => by
    rw [compactItems, itemTokens]
    exact lexesTo_compact v
  | v :: v' :: items => by
    rw [compactItems, itemTokens, guardEnd_append (by simp), guardEnd_cons_of_ne (by decide),
      guardEnd_cons_of_ne (by decide)]
    · exact (lexesTo_compact v).append rfl (by decide)
        (.gap (by decide) (lexesTo_compactItems (v' :: items)))
    · simp
    · simp

theorem lexesTo_compactEntries :
    ∀ entries : List (String × Json), LexesTo (guardEnd (compactEntries entries)) (entryTokens entries)
  | [] => .nil
  | [(k, v)] => by
    rw [compactEntries, entryTokens, guardEnd_append (by simp), guardEnd_cons_of_ne (by decide),
      guardEnd_cons_of_ne (by decide)]
    exact (lexesTo_string k).append rfl (by decide) (.gap (by decide) (lexesTo_compact v))
  | (k, v) :: e :: entries => by
    rw [compactEntries, entryTokens]
    · simp only [List.append_assoc, List.cons_append]
      rw [guardEnd_append (by simp), guardEnd_cons_of_ne (by decide), guardEnd_cons_of_ne (by decide),
        guardEnd_append (by simp), guardEnd_cons_of_ne (by decide), guardEnd_cons_of_ne (by decide)]
      have hrest := (lexesTo_compact v).append (c := ',') rfl (by decide)
        (.gap (c := ' ') (by decide) (lexesTo_compactEntries (e :: entries)))
      exact (lexesTo_string k).append rfl (by decide) (.gap (by decide) hrest)
    · simp
    · simp

end

mutual

theorem lexesTo_indented : ∀ (v : Json) (level : Nat), LexesTo (v.indented level) (tokens v)
  | .null, _ => by
    rw [indented, tokens]
    exact lexesTo_null
  | .bool b, _ => by
    rw [indented, tokens]
    exact lexesTo_boolText b
  | .number n, _ => by
    rw [indented, tokens]
    exact lexesTo_number n
  | .string s, _ => by
    rw [indented, tokens]
    exact lexesTo_stringText s
  | .array [], _ => by
    rw [indented, tokens, itemTokens]
    exact LexesTo.nil.append rfl (by decide) (LexesTo.nil.append rfl (by decide) .nil)
  | .array (v :: items), level => by
    have hitems := ((lexesTo_indentedItems (v :: items) (level + 1)).newline (level + 1)).endLine level
    rw [indented, tokens, List.cons_append, List.cons_append, List.cons_append]
    · exact LexesTo.nil.append rfl (by decide) (hitems.append (c := ']') rfl (by decide) .nil)
    · simp
  | .object [], _ => by
    rw [indented, tokens, entryTokens]
    exact LexesTo.nil.append rfl (by decide) (LexesTo.nil.append rfl (by decide) .nil)
  | .object (e :: entries), level => by
    have hentries := ((lexesTo_indentedEntries (e :: entries) (level + 1)).newline (level + 1)).endLine
      level
    rw [indented, tokens, List.cons_append, List.cons_append, List.cons_append]
    · exact LexesTo.nil.append rfl (by decide) (hentries.append (c := '\x7d') rfl (by decide) .nil)
    · simp

theorem lexesTo_indentedItems : ∀ (items : List Json) (level : Nat),
    LexesTo (indentedItems level items) (itemTokens items)
  | [], _ => .nil
  | [v], level => by
    rw [indentedItems, itemTokens]
    exact lexesTo_indented v level
  | v :: v' :: items, level => by
    have hitems := lexesTo_indentedItems (v' :: items) level
    rw [indentedItems, itemTokens, List.append_assoc, List.cons_append]
    · exact (lexesTo_indented v level).append rfl (by decide) (hitems.newline level)
    · simp
    · simp

theorem lexesTo_indentedEntries : ∀ (entries : List (String × Json)) (level : Nat),
    LexesTo (indentedEntries level entries) (entryTokens entries)
  | [], _ => .nil
  | [(k, v)], level => by
    rw [indentedEntries, entryTokens]
    exact (lexesTo_stringText k).append rfl (by decide) (.gap (by decide) (lexesTo_indented v level))
  | (k, v) :: e :: entries, level => by
    have hentries := lexesTo_indentedEntries (e :: entries) level
    rw [indentedEntries, entryTokens]
    · simp only [List.append_assoc, List.cons_append]
      have hrest := (lexesTo_indented v level).append (c := ',') rfl (by decide)
        (hentries.newline level)
      exact (lexesTo_stringText k).append rfl (by decide) (.gap (by decide) hrest)
    · simp
    · simp

end

lemma decode?_of_lexesTo {s : List Char} {v : Json} (h : LexesTo s (tokens v)) : decode? s = some v := by
  have hlex := h [] (by simp [Ends])
  have hread := readValue_tokens [] [] v
  rw [List.append_nil] at hlex hread
  rw [decode?, hlex]
  simp [lex, hread, readOn]

/-- A value is read back from its text on one line, with slashes escaped in it. -/
theorem decode?_guardEnd (v : Json) : decode? (guardEnd v.compact) = some v :=
  decode?_of_lexesTo (lexesTo_compact v)

theorem decode?_indented (v : Json) (level : Nat) : decode? (v.indented level) = some v :=
  decode?_of_lexesTo (lexesTo_indented v level)

end Lexing

end TypeLineage.Json
