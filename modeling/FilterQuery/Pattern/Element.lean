import FilterQuery.Pattern.Symbol

/-!
# Elements of a pattern

The second step of reading a pattern joins symbols to elements: sets in brackets, counts in braces,
and what a group opens with. A lazy repetition matches in the same texts as an eager one, so that
its mark is passed over.
-/

namespace FilterQuery.Pattern

/-- What a letter can switch on and off inside a pattern. -/
inductive Flag
  /-- Case does not count. -/
  | ignoreCase
  /-- The start and end of each line are seen as those of the text. -/
  | multiLine
  /-- The dot stands for a line end as well. -/
  | dotAll
  /-- Repetitions are lazy, and those marked lazy are eager. -/
  | swapGreed
deriving DecidableEq, Repr

/-- The flag of a letter. -/
def Flag.ofChar? : Char → Option Flag
  | 'i' => some .ignoreCase
  | 'm' => some .multiLine
  | 's' => some .dotAll
  | 'U' => some .swapGreed
  | _ => none

/-- An element of a pattern. -/
inductive Element
  | set (chars : CharSet)
  | assertion (condition : Assertion)
  | dot
  | lineStart
  | lineEnd
  | bar
  | openGroup (name : Option String) (flags : List (Flag × Bool))
  | closeGroup
  | setFlags (flags : List (Flag × Bool))
  | repetition (min : Nat) (max : Option Nat)
deriving Repr

/-! ### Sets in brackets -/

/-- An operation between two sets in brackets. -/
inductive SetOperation
  | inter | diff | symmDiff
deriving DecidableEq, Repr

/-- The set that an operation gives. -/
def SetOperation.apply : SetOperation → CharSet → CharSet → CharSet
  | inter => .inter
  | diff => .diff
  | symmDiff => .symmDiff

/-- An open bracket: whether its set is negated, an operation with its left side, and the characters
read since. -/
structure Bracket where
  negated : Bool
  pending : Option (CharSet × SetOperation)
  chars : CharSet

namespace Bracket

/-- A bracket that was just opened. -/
def fresh : Bracket := ⟨false, none, .none⟩

/-- Put more characters into a bracket. -/
def add (b : Bracket) (s : CharSet) : Bracket := { b with chars := .union b.chars s }

/-- The set so far, with the operation that waits for it. -/
def operand (b : Bracket) : CharSet :=
  match b.pending with
  | some (left, op) => op.apply left b.chars
  | none => b.chars

/-- Go on to the right side of an operation. -/
def operation (b : Bracket) (op : SetOperation) : Bracket :=
  { b with pending := some (b.operand, op), chars := .none }

/-- The set of a bracket when it is closed. -/
def close (b : Bracket) : CharSet := if b.negated then .compl b.operand else b.operand

end Bracket

/-- How much of the start of a bracket was read. -/
inductive BracketStart
  /-- Nothing: `^` negates, `-` and `]` stand for themselves. -/
  | opened
  /-- The negation: `-` and `]` stand for themselves. -/
  | negated
  /-- Some `-`: more of them stand for themselves. -/
  | dashes
  /-- All of it. -/
  | done
deriving DecidableEq

/-- The character that a symbol inside brackets stands for. -/
def Symbol.char? : Symbol → Option Char
  | plain c | literal c => some c
  | _ => none

/-- The characters that a symbol inside brackets stands for. -/
def Symbol.chars? : Symbol → Option CharSet
  | plain c | literal c => some (.single c)
  | set s => some s
  | assertion _ => none

/-- Whether a symbol is the character `c` with its own meaning. -/
def Symbol.is (c : Char) : Symbol → Bool
  | plain d => d == c
  | _ => false

/-- Read the inside of the bracket `b`, which stands inside the open brackets `outer`. The result is
the set of the outermost bracket and the symbols behind it. -/
def readBracket (start : BracketStart) (b : Bracket) (outer : List Bracket) :
    List Symbol → Option (CharSet × List Symbol)
  | [] => none
  | s :: ss =>
    if start = .opened ∧ s.is '^' then
      readBracket .negated { b with negated := true } outer ss
    else if start ≠ .done ∧ s.is '-' then
      readBracket .dashes (b.add (.single '-')) outer ss
    else if (start = .opened ∨ start = .negated) ∧ s.is ']' then
      readBracket .done (b.add (.single ']')) outer ss
    else if s.is '[' then
      readBracket .opened .fresh (b :: outer) ss
    else if s.is ']' then
      match outer with
      | [] => some (b.close, ss)
      | o :: outer => readBracket .done (o.add b.close) outer ss
    else
      match ss with
      | [] => none
      | t :: us =>
        if s.is '&' ∧ t.is '&' then readBracket .done (b.operation .inter) outer us
        else if s.is '-' ∧ t.is '-' then readBracket .done (b.operation .diff) outer us
        else if s.is '~' ∧ t.is '~' then readBracket .done (b.operation .symmDiff) outer us
        else
          match us with
          | u :: vs =>
            if t.is '-' ∧ !u.is ']' ∧ !u.is '-' then
              match s.char?, u.char? with
              | some first, some last =>
                if first ≤ last then readBracket .done (b.add (.range first last)) outer vs
                else none
              | _, _ => none
            else
              match s.chars? with
              | some chars => readBracket .done (b.add chars) outer (t :: u :: vs)
              | none => none
          | [] =>
            match s.chars? with
            | some chars => readBracket .done (b.add chars) outer [t]
            | none => none

/-! ### Counts in braces -/

/-- The characters with a meaning of their own at the start of `ss`. -/
def plainChars : List Symbol → List Char
  | .plain c :: ss => c :: plainChars ss
  | _ => []

/-- The greatest count that a repetition can be given: the last number of 32 bits. -/
def maxCount : Nat := 4294967295

/-- Read a count, which may have blanks around it. -/
def readCount (cs : List Char) : Option (Nat × List Char) :=
  let cs := cs.dropWhile Text.isBlank
  let digits := cs.takeWhile Char.isDigit
  let n := Nat.ofDigitChars 10 digits 0
  if digits ≠ [] ∧ n ≤ maxCount then
    some (n, (cs.dropWhile Char.isDigit).dropWhile Text.isBlank)
  else none

/-- Read the least and the greatest count of a repetition and the closing brace. The last part of
the result is what is left behind the brace. -/
def readCounts (cs : List Char) : Option (Nat × Option Nat × List Char) := do
  let (min, cs) ← readCount cs
  match cs with
  | '\x7d' :: rest => some (min, some min, rest)
  | ',' :: '\x7d' :: rest => some (min, none, rest)
  | ',' :: cs =>
    let (max, cs) ← readCount cs
    match cs with
    | '\x7d' :: rest => if min ≤ max then some (min, some max, rest) else none
    | _ => none
  | _ => none

/-- Pass over the mark of a lazy repetition. -/
def skipLazy : List Symbol → List Symbol
  | .plain '?' :: ss => ss
  | ss => ss

/-! ### Groups -/

/-- Whether `c` can be part of the name of a group, and with `first` whether a name can start with
it. -/
def isNameChar (first : Bool) (c : Char) : Bool :=
  c == '_' ||
    if first then Text.wordChars.contains c && !Text.decimalDigits.contains c
    else Text.wordChars.contains c || c == '.' || c == '[' || c == ']'

/-- Whether `cs` can be the name of a group. -/
def isName : List Char → Bool
  | [] => false
  | c :: cs => isNameChar true c && cs.all (isNameChar false)

/-- Read the flags of a group up to the colon or parenthesis behind them, which is part of the
result. Flags are switched on, and off behind a minus sign, which must have a flag behind it; no
flag is given twice. -/
def readFlags (on afterMinus : Bool) (read : List (Flag × Bool)) :
    List Symbol → Option (List (Flag × Bool) × Char × List Symbol)
  | .plain c :: ss =>
    if c = ':' ∨ c = ')' then
      if afterMinus then none else some (read.reverse, c, ss)
    else if c = '-' then
      if on then readFlags false true read ss else none
    else
      match Flag.ofChar? c with
      | some flag =>
        if read.any (·.1 == flag) then none else readFlags on false ((flag, on) :: read) ss
      | none => none
  | _ => none

/-- Read the name of a group and the bracket behind it. -/
def readName (ss : List Symbol) : Option (Element × List Symbol) :=
  let name := (plainChars ss).takeWhile (· != '>')
  match isName name, ss.drop name.length with
  | true, .plain '>' :: rest => some (.openGroup (some (String.ofList name)) [], rest)
  | _, _ => none

/-- Read what stands behind an opening parenthesis: a name, flags for the group, or flags for what
comes behind. -/
def readGroup : List Symbol → Option (Element × List Symbol)
  | .plain '?' :: .plain 'P' :: .plain '<' :: ss => readName ss
  | .plain '?' :: .plain '<' :: ss => readName ss
  | .plain '?' :: ss =>
    match readFlags true false [] ss with
    | some (flags, ':', rest) => some (.openGroup none flags, rest)
    | some (flags, _, rest) => if flags.isEmpty then none else some (.setFlags flags, rest)
    | none => none
  | ss => some (.openGroup none [], ss)

/-! ### Elements -/

/-- Read the element at the start of a pattern that is not empty. -/
def readElement : Symbol → List Symbol → Option (Element × List Symbol)
  | .literal c, ss => some (.set (.single c), ss)
  | .set chars, ss => some (.set chars, ss)
  | .assertion condition, ss => some (.assertion condition, ss)
  | .plain '.', ss => some (.dot, ss)
  | .plain '^', ss => some (.lineStart, ss)
  | .plain '$', ss => some (.lineEnd, ss)
  | .plain '|', ss => some (.bar, ss)
  | .plain ')', ss => some (.closeGroup, ss)
  | .plain '(', ss => readGroup ss
  | .plain '[', ss => (readBracket .opened .fresh [] ss).map fun (chars, rest) => (.set chars, rest)
  | .plain '*', ss => some (.repetition 0 none, skipLazy ss)
  | .plain '+', ss => some (.repetition 1 none, skipLazy ss)
  | .plain '?', ss => some (.repetition 0 (some 1), skipLazy ss)
  | .plain '\x7b', ss =>
    let cs := plainChars ss
    (readCounts cs).map fun (min, max, rest) =>
      (.repetition min max, skipLazy (ss.drop (cs.length - rest.length)))
  | .plain c, ss => some (.set (.single c), ss)

/-! ### What is left is shorter -/

theorem length_of_readBracket {start : BracketStart} {b : Bracket} {outer : List Bracket}
    {ss rest : List Symbol} {chars : CharSet}
    (h : readBracket start b outer ss = some (chars, rest)) : rest.length ≤ ss.length := by
  fun_induction readBracket start b outer ss <;> simp_all <;> omega

theorem length_of_readFlags {on afterMinus : Bool} {read flags : List (Flag × Bool)} {c : Char}
    {ss rest : List Symbol} (h : readFlags on afterMinus read ss = some (flags, c, rest)) :
    rest.length ≤ ss.length := by
  fun_induction readFlags on afterMinus read ss <;> simp_all <;> omega

theorem length_skipLazy_le (ss : List Symbol) : (skipLazy ss).length ≤ ss.length := by
  unfold skipLazy; split <;> simp

theorem length_of_readName {ss rest : List Symbol} {e : Element}
    (h : readName ss = some (e, rest)) : rest.length ≤ ss.length := by
  unfold readName at h
  simp only at h
  split at h
  · next rest' _ hd =>
    have hl := congrArg List.length hd
    obtain ⟨-, rfl⟩ := Prod.mk.inj (Option.some.inj h)
    simp at hl
    omega
  · simp at h

theorem length_of_readGroup {ss rest : List Symbol} {e : Element}
    (h : readGroup ss = some (e, rest)) : rest.length ≤ ss.length := by
  unfold readGroup at h
  split at h
  · have := length_of_readName h; simp; omega
  · have := length_of_readName h; simp; omega
  · split at h
    · next hf => have := length_of_readFlags hf; simp_all; omega
    · next hf => have := length_of_readFlags hf; simp_all; omega
    · simp at h
  · simp_all

theorem length_of_readElement {s : Symbol} {ss rest : List Symbol} {e : Element}
    (h : readElement s ss = some (e, rest)) : rest.length ≤ ss.length := by
  unfold readElement at h
  split at h
  case h_9 => exact length_of_readGroup h
  case h_10 =>
    obtain ⟨⟨chars, rest'⟩, hb, he⟩ := Option.map_eq_some_iff.1 h
    obtain ⟨-, rfl⟩ := Prod.mk.inj he
    exact length_of_readBracket hb
  case h_14 =>
    obtain ⟨⟨min, max, rest'⟩, -, he⟩ := Option.map_eq_some_iff.1 h
    obtain ⟨-, rfl⟩ := Prod.mk.inj he
    have := length_skipLazy_le (ss.drop ((plainChars ss).length - rest'.length))
    simp at this
    omega
  all_goals
    obtain ⟨-, rfl⟩ := Prod.mk.inj (Option.some.inj h)
    simp [length_skipLazy_le]

/-- Join symbols to elements, behind those read already (in reverse). -/
def readElements (read : List Element) : List Symbol → Option (List Element)
  | [] => some read.reverse
  | s :: ss =>
    match h : readElement s ss with
    | some (e, rest) =>
      have := length_of_readElement h
      readElements (e :: read) rest
    | none => none
termination_by ss => ss.length

end FilterQuery.Pattern
