import FilterQuery.Json.Printer
import FilterQuery.Json.Reader
import FilterQuery.Proofs.Lexing.Scalars

/-!
# Documents are read back

The compact text of a document is read as the document again, as long as the document is not nested
deeper than the reader allows (`parse?_compact`). The proof follows the two stages of the reader.

* The text is split into the lexemes that it was written from (`readLexemes_of_writable`). Numbers
  and keywords end only where something else begins, so there must be a mark between any two
  scalars. `Lexeme.Writable` says so of a list of lexemes, and the lexemes of a document are such a
  list (`writable_lexemes`).
* The document is put together from its lexemes, inside whatever is open (`readValue_lexemes`).
-/

namespace FilterQuery.Json

/-! ### Strings -/

/-- A character below the space is written with two hexadecimal digits behind two zeros. -/
theorem exists_hexDigits_of_lt {n : Nat} (hn : n < 0x20) :
    ∃ g h, (Nat.toDigits 16 n).leftpad 2 '0' = [g, h] ∧ Text.ofHex? ['0', '0', g, h] = some n := by
  have hall : ∀ n < 0x20, ((Nat.toDigits 16 n).leftpad 2 '0').length = 2 ∧
      Text.ofHex? (['0', '0'] ++ (Nat.toDigits 16 n).leftpad 2 '0') = some n := by decide +kernel
  obtain ⟨hlength, hvalue⟩ := hall n hn
  match hdigits : (Nat.toDigits 16 n).leftpad 2 '0', hlength with
  | [g, h], _ =>
    rw [hdigits] at hvalue
    exact ⟨g, h, rfl, hvalue⟩

/-- A character stands in a string as itself, by a letter or mark behind a backslash, or by its
number. -/
theorem stringChar_cases (c : Char) :
    (stringChar c = [c] ∧ c ≠ '"' ∧ c ≠ '\\' ∧ ¬c.toNat < 0x20) ∨
      (∃ e, stringChar c = ['\\', e] ∧ unescape? e = some c) ∨
      ∃ g h, stringChar c = ['\\', 'u', '0', '0', g, h] ∧ c.toNat < 0x20 ∧
        Text.ofHex? ['0', '0', g, h] = some c.toNat := by
  by_cases hletter : c ∈ ['"', '\\', '\x08', '\x0c', '\n', '\r', '\t']
  · refine .inr (.inl ?_)
    simp only [List.mem_cons, List.not_mem_nil, or_false] at hletter
    rcases hletter with rfl | rfl | rfl | rfl | rfl | rfl | rfl <;> exact ⟨_, rfl, rfl⟩
  · simp only [List.mem_cons, List.not_mem_nil, or_false, not_or] at hletter
    obtain ⟨hquote, hbackslash, hb, hf, hn, hr, ht⟩ := hletter
    unfold stringChar
    rw [if_neg hquote, if_neg hbackslash, if_neg hb, if_neg hf, if_neg hn, if_neg hr, if_neg ht]
    by_cases hlow : c.toNat < 0x20
    · obtain ⟨g, h, hdigits, hvalue⟩ := exists_hexDigits_of_lt hlow
      rw [if_pos hlow, hdigits]
      exact .inr (.inr ⟨g, h, rfl, hlow, hvalue⟩)
    · rw [if_neg hlow]
      exact .inl ⟨rfl, hquote, hbackslash, hlow⟩

theorem readString_plain {c : Char} (hquote : c ≠ '"') (hbackslash : c ≠ '\\')
    (hlow : ¬c.toNat < 0x20) (read cs : List Char) :
    readString read (c :: cs) = readString (c :: read) cs := by
  rw [readString]
  · rw [if_neg hlow]
  all_goals grind

theorem readString_escape {e c : Char} (he : unescape? e = some c) (read cs : List Char) :
    readString read ('\\' :: e :: cs) = readString (c :: read) cs := by
  have hu : e ≠ 'u' := by
    rintro rfl
    cases he
  rw [readString]
  · rw [he]
  all_goals grind

theorem readString_of_ofHex?_eq_none {a b c d : Char} (h : Text.ofHex? [a, b, c, d] = none)
    (read cs : List Char) : readString read ('\\' :: 'u' :: a :: b :: c :: d :: cs) = none := by
  unfold readString
  split <;> grind

/-- A character that is given by its number is read alone, also if another one follows that is given
in the same way: only two halves of a surrogate pair belong together. -/
theorem readString_number {a b c d : Char} {n : Nat} (hn : Text.ofHex? [a, b, c, d] = some n)
    (hhigh : isHighSurrogate n = false) (hlow : isLowSurrogate n = false) (read cs : List Char) :
    readString read ('\\' :: 'u' :: a :: b :: c :: d :: cs) =
      readString (Char.ofNat n :: read) cs := by
  by_cases hnext : ∃ e f g h rest, cs = '\\' :: 'u' :: e :: f :: g :: h :: rest
  · obtain ⟨e, f, g, h, rest, rfl⟩ := hnext
    rw [readString]
    cases hm : Text.ofHex? [e, f, g, h] with
    | none =>
      rw [readString_of_ofHex?_eq_none hm]
      simp only [hn]
    | some m => simp only [hn, hhigh, hlow, Bool.false_eq_true, if_false]
  · rw [readString]
    · simp only [hn, hhigh, hlow, Bool.or_self, Bool.false_eq_true, if_false]
    · grind

theorem readString_stringChar (read : List Char) (c : Char) (cs : List Char) :
    readString read (stringChar c ++ cs) = readString (c :: read) cs := by
  rcases stringChar_cases c with
    ⟨hc, hquote, hbackslash, hlow⟩ | ⟨e, hc, he⟩ | ⟨g, h, hc, hlow, hvalue⟩
  · rw [hc]
    exact readString_plain hquote hbackslash hlow read cs
  · rw [hc]
    exact readString_escape he read cs
  · have hhigh : isHighSurrogate c.toNat = false := by grind [isHighSurrogate]
    have hlow' : isLowSurrogate c.toNat = false := by grind [isLowSurrogate]
    have hread := readString_number hvalue hhigh hlow' read cs
    rw [Char.ofNat_toNat] at hread
    rw [hc]
    exact hread

/-- A string is read up to the quote behind it. -/
theorem readString_flatMap_stringChar (read text rest : List Char) :
    readString read (text.flatMap stringChar ++ '"' :: rest) =
      some (read.reverse ++ text, rest) := by
  induction text generalizing read with
  | nil => simp [readString]
  | cons c text ih =>
    rw [List.flatMap_cons, List.append_assoc, readString_stringChar, ih]
    simp

/-! ### Numbers -/

theorem isNumberChar_of_isDigit {c : Char} (h : c.isDigit = true) : isNumberChar c = true := by
  simp [isNumberChar, h]

theorem isNumberChar_of_isExponent {cs : List Char} (h : isExponent cs = true) :
    ∀ c ∈ cs, isNumberChar c = true := by
  unfold isExponent at h
  split at h
  · simp
  · next e cs =>
    simp only [Bool.and_eq_true, Bool.or_eq_true, beq_iff_eq] at h
    obtain ⟨he, hcs⟩ := h
    rw [List.forall_mem_cons]
    refine ⟨by rcases he with rfl | rfl <;> rfl, ?_⟩
    -- With a sign or without, all that follows are digits.
    split at hcs
    all_goals
      rw [Bool.and_eq_true, List.all_eq_true] at hcs
      have hdigits := fun c hc => isNumberChar_of_isDigit (hcs.2 c hc)
    · exact List.forall_mem_cons.2 ⟨rfl, hdigits⟩
    · exact List.forall_mem_cons.2 ⟨rfl, hdigits⟩
    · exact hdigits

theorem isNumberChar_of_dropWhile {cs : List Char}
    (h : ∀ c ∈ cs.dropWhile Char.isDigit, isNumberChar c = true) :
    ∀ c ∈ cs, isNumberChar c = true := by
  intro c hc
  rw [← List.takeWhile_append_dropWhile (p := Char.isDigit) (l := cs), List.mem_append] at hc
  rcases hc with hc | hc
  · exact isNumberChar_of_isDigit (List.all_eq_true.1 List.all_takeWhile c hc)
  · exact h c hc

theorem isNumberChar_of_isFraction {cs : List Char} (h : isFraction cs = true) :
    ∀ c ∈ cs, isNumberChar c = true := by
  unfold isFraction at h
  split at h
  · next cs =>
    rw [Bool.and_eq_true] at h
    rw [List.forall_mem_cons]
    exact ⟨rfl, isNumberChar_of_dropWhile (isNumberChar_of_isExponent h.2)⟩
  · exact isNumberChar_of_isExponent h

theorem exists_eq_cons_of_isUnsigned {cs : List Char} (h : isUnsigned cs = true) :
    ∃ d ds, cs = d :: ds ∧ d.isDigit = true ∧ ∀ c ∈ ds, isNumberChar c = true := by
  unfold isUnsigned at h
  split at h
  · next ds => exact ⟨'0', ds, rfl, rfl, isNumberChar_of_isFraction h⟩
  · next d ds _ =>
    rw [Bool.and_eq_true] at h
    exact ⟨d, ds, rfl, h.1, isNumberChar_of_dropWhile (isNumberChar_of_isFraction h.2)⟩
  · cases h

/-- A number starts with a digit or a minus sign, and goes on with characters of numbers. -/
theorem exists_eq_cons_of_isNumber {cs : List Char} (h : isNumber cs = true) :
    ∃ d ds, cs = d :: ds ∧ (d.isDigit = true ∨ d = '-') ∧ ∀ c ∈ ds, isNumberChar c = true := by
  unfold isNumber at h
  split at h
  · obtain ⟨d, ds, rfl, hd, hds⟩ := exists_eq_cons_of_isUnsigned h
    exact ⟨'-', d :: ds, rfl, .inr rfl, List.forall_mem_cons.2 ⟨isNumberChar_of_isDigit hd, hds⟩⟩
  · obtain ⟨d, ds, hcs, hd, hds⟩ := exists_eq_cons_of_isUnsigned h
    exact ⟨d, ds, hcs, .inl hd, hds⟩

/-! ### Lexemes -/

/-- Whether a lexeme is a bracket, a brace, a comma or a colon. -/
def Lexeme.isMark : Lexeme → Bool
  | openArray | closeArray | openObject | closeObject | comma | colon => true
  | _ => false

/-- A lexeme whose text, if it is to be that of a number, is one. -/
def Lexeme.IsValid : Lexeme → Prop
  | number text => isNumber text.toList = true
  | _ => True

/-- Lexemes that can be written one after the other: between two scalars there is a mark. -/
inductive Lexeme.Writable : List Lexeme → Prop
  | nil : Writable []
  | mark {l : Lexeme} {ls : List Lexeme} (hl : l.isMark = true) (h : Writable ls) :
    Writable (l :: ls)
  | scalar {l : Lexeme} {ls : List Lexeme} (hl : l.IsValid)
    (hmark : ∀ m ∈ ls.head?, m.isMark = true) (h : Writable ls) : Writable (l :: ls)

/-- A text that goes on neither with a number nor with a keyword. -/
def ClosesScalar (rest : List Char) : Prop :=
  ∀ c ∈ rest.head?, isNumberChar c = false ∧ c.isAlpha = false

theorem Lexeme.exists_chars_eq_of_isMark {l : Lexeme} (h : l.isMark = true) :
    ∃ c, l.chars = [c] ∧ isSpace c = false ∧ mark? c = some l ∧ isNumberChar c = false ∧
      c.isAlpha = false := by
  cases l with
  | null | bool | number | string => cases h
  | openArray | closeArray | openObject | closeObject | comma | colon =>
    exact ⟨_, rfl, by decide⟩

theorem closesScalar_flatMap_chars {ls : List Lexeme} (h : ∀ m ∈ ls.head?, m.isMark = true) :
    ClosesScalar (ls.flatMap Lexeme.chars) := by
  cases ls with
  | nil => simp [ClosesScalar]
  | cons l ls =>
    obtain ⟨c, hc, -, -, hnumber, halpha⟩ := Lexeme.exists_chars_eq_of_isMark (h l rfl)
    simp [ClosesScalar, hc, hnumber, halpha]

/-- What a number or a keyword starts with, nothing else starts with. -/
theorem not_mark_of_starts {c : Char} (h : (c.isDigit = true ∨ c = '-') ∨ c.isAlpha = true) :
    isSpace c = false ∧ mark? c = none ∧ c ≠ '"' := by
  have hne : c ∉ [' ', '\t', '\n', '\r', '[', ']', '\x7b', '\x7d', ',', ':', '"'] := by
    intro hmem
    simp only [List.mem_cons, List.not_mem_nil, or_false] at hmem
    rcases hmem with rfl | rfl | rfl | rfl | rfl | rfl | rfl | rfl | rfl | rfl | rfl <;>
      revert h <;> decide
  simp only [List.mem_cons, List.not_mem_nil, or_false, not_or] at hne
  refine ⟨by simp [isSpace, hne], ?_, by simp [hne]⟩
  unfold mark?
  split <;> simp_all

theorem keyword?_eq_some {l : Lexeme} {c : Char} {cs : List Char}
    (h : keyword? (c :: cs) = some l) :
    (c = 'n' ∨ c = 't' ∨ c = 'f') ∧ ∀ d ∈ cs, d.isAlpha = true := by
  unfold keyword? at h
  split at h
  · next heq =>
    cases heq
    exact ⟨.inl rfl, List.all_eq_true.1 rfl⟩
  · next heq =>
    cases heq
    exact ⟨.inr (.inl rfl), List.all_eq_true.1 rfl⟩
  · next heq =>
    cases heq
    exact ⟨.inr (.inr rfl), List.all_eq_true.1 rfl⟩
  · cases h

section

variable (read : List Lexeme) {rest : List Char}

theorem readLexemes_mark {l : Lexeme} (h : l.isMark = true) (rest : List Char) :
    readLexemes read (l.chars ++ rest) = readLexemes (l :: read) rest := by
  obtain ⟨c, hc, hspace, hmark, -⟩ := Lexeme.exists_chars_eq_of_isMark h
  rw [hc, List.singleton_append, readLexemes, if_neg (by simp [hspace]), hmark]

theorem readLexemes_string (text : String) (rest : List Char) :
    readLexemes read (stringChars text ++ rest) = readLexemes (.string text :: read) rest := by
  have htext : stringChars text ++ rest =
      '"' :: (text.toList.flatMap stringChar ++ '"' :: rest) := by
    simp [stringChars]
  have hread : readString [] (text.toList.flatMap stringChar ++ '"' :: rest) =
      some (text.toList, rest) := readString_flatMap_stringChar [] text.toList rest
  rw [htext, readLexemes, if_neg (by decide)]
  show (if '"' = '"' then _ else _) = _
  rw [if_pos rfl]
  split
  · next text' rest' h =>
    rw [hread] at h
    cases h
    rw [String.ofList_toList]
  · next h =>
    rw [hread] at h
    cases h

theorem readLexemes_number {text : String} (h : isNumber text.toList = true)
    (hrest : ClosesScalar rest) :
    readLexemes read (text.toList ++ rest) = readLexemes (.number text :: read) rest := by
  obtain ⟨d, ds, htext, hd, hds⟩ := exists_eq_cons_of_isNumber h
  have hend : ∀ c ∈ rest.head?, isNumberChar c = false := fun c hc => (hrest c hc).1
  obtain ⟨hspace, hmark, hquote⟩ := not_mark_of_starts (.inl hd)
  have hstart : (d.isDigit || decide (d = '-')) = true := by simpa using hd
  rw [htext, List.cons_append, readLexemes, if_neg (by simp [hspace]), hmark]
  simp only [if_neg hquote, if_pos hstart, takeWhile_run hds hend, dropWhile_run hds hend]
  rw [← htext, if_pos h, String.ofList_toList]

theorem readLexemes_keyword {l : Lexeme} {c : Char} {cs : List Char}
    (hl : keyword? (c :: cs) = some l) (hrest : ClosesScalar rest) :
    readLexemes read (c :: cs ++ rest) = readLexemes (l :: read) rest := by
  obtain ⟨hc, hcs⟩ := keyword?_eq_some hl
  have hend : ∀ d ∈ rest.head?, d.isAlpha = false := fun d hd => (hrest d hd).2
  have hletter : c.isAlpha = true ∧ ¬(c.isDigit || decide (c = '-')) = true := by
    rcases hc with rfl | rfl | rfl <;> decide
  obtain ⟨hspace, hmark, hquote⟩ := not_mark_of_starts (.inr hletter.1)
  rw [List.cons_append, readLexemes, if_neg (by simp [hspace]), hmark]
  simp only [if_neg hquote, if_neg hletter.2, takeWhile_run hcs hend, dropWhile_run hcs hend, hl]

theorem readLexemes_scalar {l : Lexeme} (hl : l.IsValid) (hrest : ClosesScalar rest) :
    readLexemes read (l.chars ++ rest) = readLexemes (l :: read) rest := by
  cases l with
  | openArray | closeArray | openObject | closeObject | comma | colon =>
    exact readLexemes_mark read rfl rest
  | null => exact readLexemes_keyword read rfl hrest
  | bool b => cases b <;> exact readLexemes_keyword read rfl hrest
  | number text => exact readLexemes_number read hl hrest
  | string text => exact readLexemes_string read text rest

/-- Lexemes are found again in their text. -/
theorem readLexemes_of_writable {ls : List Lexeme} (h : Lexeme.Writable ls) :
    readLexemes read (ls.flatMap Lexeme.chars) = some (read.reverse ++ ls) := by
  induction h generalizing read with
  | nil => simp [readLexemes]
  | mark hl h ih =>
    rw [List.flatMap_cons, readLexemes_mark read hl, ih]
    simp
  | scalar hl hmark h ih =>
    rw [List.flatMap_cons, readLexemes_scalar read hl (closesScalar_flatMap_chars hmark), ih]
    simp

end

/-! ### The lexemes of a document -/

/-- A document in which the text of every number is one. -/
inductive Valid : Json → Prop
  | null : Valid null
  | bool (b : Bool) : Valid (bool b)
  | number {text : String} (h : isNumber text.toList = true) : Valid (number text)
  | string (text : String) : Valid (string text)
  | array {items : List Json} (h : ∀ j ∈ items, Valid j) : Valid (array items)
  | object {members : List (String × Json)} (h : ∀ m ∈ members, Valid m.2) : Valid (object members)

theorem isMark_head_moreItems (rest : List Lexeme) (vs : List Json) :
    ∀ m ∈ (moreItems rest vs).head?, m.isMark = true := by
  cases vs <;> simp [moreItems, Lexeme.isMark]

theorem isMark_head_moreMembers (rest : List Lexeme) (ms : List (String × Json)) :
    ∀ m ∈ (moreMembers rest ms).head?, m.isMark = true := by
  cases ms <;> simp [moreMembers, Lexeme.isMark]

open Lexeme (Writable)

/-- A name and the colon behind it. -/
theorem writable_key {key : String} {ls : List Lexeme} (h : Writable ls) :
    Writable (.string key :: .colon :: ls) :=
  .scalar trivial (by simp [Lexeme.isMark]) (.mark rfl h)

mutual

theorem writable_lexemes {rest : List Lexeme} (j : Json) (hj : j.Valid)
    (hmark : ∀ m ∈ rest.head?, m.isMark = true) (hrest : Writable rest) :
    Writable (lexemes rest j) := by
  match j, hj with
  | null, _ => exact .scalar trivial hmark hrest
  | bool _, _ => exact .scalar trivial hmark hrest
  | number _, .number h => exact .scalar h hmark hrest
  | string _, _ => exact .scalar trivial hmark hrest
  | array [], _ => exact .mark rfl (.mark rfl hrest)
  | array (v :: vs), .array h =>
    rw [List.forall_mem_cons] at h
    rw [lexemes]
    exact .mark rfl (writable_lexemes v h.1 (isMark_head_moreItems rest vs)
      (writable_moreItems vs h.2 hrest))
  | object [], _ => exact .mark rfl (.mark rfl hrest)
  | object ((k, v) :: ms), .object h =>
    rw [List.forall_mem_cons] at h
    rw [lexemes]
    exact .mark rfl (writable_key (writable_lexemes v h.1 (isMark_head_moreMembers rest ms)
      (writable_moreMembers ms h.2 hrest)))
termination_by sizeOf j

theorem writable_moreItems {rest : List Lexeme} (vs : List Json) (hvs : ∀ j ∈ vs, j.Valid)
    (hrest : Writable rest) : Writable (moreItems rest vs) := by
  match vs with
  | [] => exact .mark rfl hrest
  | v :: vs =>
    rw [List.forall_mem_cons] at hvs
    rw [moreItems]
    exact .mark rfl (writable_lexemes v hvs.1 (isMark_head_moreItems rest vs)
      (writable_moreItems vs hvs.2 hrest))
termination_by sizeOf vs

theorem writable_moreMembers {rest : List Lexeme} (ms : List (String × Json))
    (hms : ∀ m ∈ ms, m.2.Valid) (hrest : Writable rest) : Writable (moreMembers rest ms) := by
  match ms with
  | [] => exact .mark rfl hrest
  | (k, v) :: ms =>
    rw [List.forall_mem_cons] at hms
    rw [moreMembers]
    exact .mark rfl (writable_key (writable_lexemes v hms.1 (isMark_head_moreMembers rest ms)
      (writable_moreMembers ms hms.2 hrest)))
termination_by sizeOf ms

end

/-! ### Putting a document together -/

mutual

/-- How many arrays and objects of a document stand inside each other. -/
def depth : Json → Nat
  | array items => 1 + depthOfItems items
  | object members => 1 + depthOfMembers members
  | _ => 0

/-- The depth of the deepest item. -/
def depthOfItems : List Json → Nat
  | [] => 0
  | v :: vs => max (depth v) (depthOfItems vs)

/-- The depth of the deepest member. -/
def depthOfMembers : List (String × Json) → Nat
  | [] => 0
  | (_, v) :: ms => max (depth v) (depthOfMembers ms)

end

variable {maxDepth : Nat} {stack : List Frame}

theorem lexemes_ne_closeArray (rest : List Lexeme) (j : Json) (ls : List Lexeme) :
    lexemes rest j ≠ .closeArray :: ls := by
  unfold lexemes
  split <;> simp

/-- A bracket opens an array if the array has items. -/
theorem readValue_openArray {ls : List Lexeme} (h : ∀ ls', ls ≠ .closeArray :: ls') :
    readValue maxDepth stack (.openArray :: ls) =
      if stack.length < maxDepth then readValue maxDepth (.array [] :: stack) ls else none := by
  rw [readValue]
  exact h

/-- Two things are not too deep if the deeper one is not. -/
theorem ite_ite_add_le {α : Type} {n a b : Nat} {x : Option α} :
    (if n + a ≤ maxDepth then if n + b ≤ maxDepth then x else none else none) =
      if n + max a b ≤ maxDepth then x else none := by
  by_cases ha : n + a ≤ maxDepth
  · by_cases hb : n + b ≤ maxDepth
    · rw [if_pos ha, if_pos hb, if_pos (by omega)]
    · rw [if_pos ha, if_neg hb, if_neg (by omega)]
  · rw [if_neg ha, if_neg (by omega)]

mutual

/-- The reader comes behind the lexemes of a document with the document, unless the document is too
deep inside what is open around it. -/
theorem readValue_lexemes (stack : List Frame) (hstack : stack.length ≤ maxDepth)
    (rest : List Lexeme) (j : Json) :
    readValue maxDepth stack (lexemes rest j) =
      if stack.length + j.depth ≤ maxDepth then readAfter maxDepth stack j rest else none := by
  match j with
  | null | bool _ | number _ | string _ => simp [lexemes, readValue, depth, hstack]
  | array [] =>
    rw [lexemes, readValue]
    rfl
  | array (v :: vs) =>
    rw [lexemes, readValue_openArray (lexemes_ne_closeArray _ v), depth, depthOfItems]
    by_cases hlt : stack.length < maxDepth
    · rw [if_pos hlt, readValue_lexemes (.array [] :: stack) hlt (moreItems rest vs) v,
        readAfter_moreItems stack hlt rest [] v vs, List.length_cons, ite_ite_add_le, Nat.add_assoc]
      rfl
    · rw [if_neg hlt, if_neg (by omega)]
  | object [] =>
    rw [lexemes, readValue]
    rfl
  | object ((k, v) :: ms) =>
    rw [lexemes, readValue, depth, depthOfMembers]
    by_cases hlt : stack.length < maxDepth
    · rw [if_pos hlt, readValue_lexemes (.object [] k :: stack) hlt (moreMembers rest ms) v,
        readAfter_moreMembers stack hlt rest [] k v ms, List.length_cons, ite_ite_add_le,
        Nat.add_assoc]
      rfl
    · rw [if_neg hlt, if_neg (by omega)]
termination_by sizeOf j

/-- Behind an item the reader comes to the end of its array with all items of the array. -/
theorem readAfter_moreItems (stack : List Frame) (hstack : stack.length < maxDepth)
    (rest : List Lexeme) (items : List Json) (v : Json) (vs : List Json) :
    readAfter maxDepth (.array items :: stack) v (moreItems rest vs) =
      if stack.length + 1 + depthOfItems vs ≤ maxDepth then
        readAfter maxDepth stack (.array (items.reverse ++ v :: vs)) rest
      else none := by
  match vs with
  | [] =>
    rw [moreItems, readAfter, List.reverse_cons]
    exact (if_pos hstack).symm
  | w :: ws =>
    rw [moreItems, readAfter, readValue_lexemes (.array (v :: items) :: stack) hstack,
      readAfter_moreItems stack hstack rest (v :: items) w ws, List.length_cons, ite_ite_add_le,
      depthOfItems, List.reverse_cons, List.append_assoc, List.singleton_append]
termination_by sizeOf vs

/-- Behind a member the reader comes to the end of its object with all members of the object. -/
theorem readAfter_moreMembers (stack : List Frame) (hstack : stack.length < maxDepth)
    (rest : List Lexeme) (members : List (String × Json)) (k : String) (v : Json)
    (ms : List (String × Json)) :
    readAfter maxDepth (.object members k :: stack) v (moreMembers rest ms) =
      if stack.length + 1 + depthOfMembers ms ≤ maxDepth then
        readAfter maxDepth stack (.object (members.reverse ++ (k, v) :: ms)) rest
      else none := by
  match ms with
  | [] =>
    rw [moreMembers, readAfter, List.reverse_cons]
    exact (if_pos hstack).symm
  | (l, w) :: ms =>
    rw [moreMembers, readAfter, readValue_lexemes (.object ((k, v) :: members) l :: stack) hstack,
      readAfter_moreMembers stack hstack rest ((k, v) :: members) l w ms, List.length_cons,
      ite_ite_add_le, depthOfMembers, List.reverse_cons, List.append_assoc,
      List.singleton_append]
termination_by sizeOf ms

end

/-- A document is read back from its compact text, unless it is deeper than the reader allows. -/
theorem parse?_compact {j : Json} (hj : j.Valid) (maxDepth : Nat) :
    parse? j.compact maxDepth = if j.depth ≤ maxDepth then some j else none := by
  have hwritable : Lexeme.Writable (j.lexemes []) := writable_lexemes j hj nofun .nil
  rw [parse?, compact, String.toList_ofList, readLexemes_of_writable [] hwritable,
    Option.bind_some, List.reverse_nil, List.nil_append,
    readValue_lexemes [] (Nat.zero_le _), List.length_nil, Nat.zero_add]
  rfl

end FilterQuery.Json
