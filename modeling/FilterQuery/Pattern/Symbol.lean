import FilterQuery.Pattern.Expr
import FilterQuery.Text.Hex

/-!
# Symbols of a pattern

The first step of reading a pattern resolves what a backslash does to the characters behind it. A
mark behind a backslash stands for itself; some letters stand for a character, a set or an
assertion, or for a character given by its number. Any other letter, a digit, or a character beyond
ASCII cannot be escaped.
-/

namespace FilterQuery.Pattern

/-- A symbol of a pattern. -/
inductive Symbol
  /-- A character that may have a meaning of its own. -/
  | plain (c : Char)
  /-- A character that stands for itself. -/
  | literal (c : Char)
  /-- A character of a set. -/
  | set (chars : CharSet)
  /-- A condition on the position. -/
  | assertion (condition : Assertion)
deriving Repr

/-- The character whose number has the given hexadecimal digits. -/
def charOfHex? (digits : List Char) : Option Char := do
  let n ← Text.ofHex? digits
  if digits ≠ [] ∧ n.isValidChar then some (Char.ofNat n) else none

/-- Read the number of a character: `width` hexadecimal digits, or any number of them in braces. -/
def readHex (width : Nat) : List Char → Option (Symbol × List Char)
  | '\x7b' :: cs =>
    match cs.dropWhile (· != '\x7d') with
    | _ :: rest => (charOfHex? (cs.takeWhile (· != '\x7d'))).map fun c => (.literal c, rest)
    | [] => none
  | cs =>
    if width ≤ cs.length then (charOfHex? (cs.take width)).map fun c => (.literal c, cs.drop width)
    else none

/-- The symbol of a single character behind a backslash. -/
def escaped? : Char → Option Symbol
  | 'd' => some (.set .digit)
  | 'D' => some (.set (.compl .digit))
  | 'w' => some (.set .word)
  | 'W' => some (.set (.compl .word))
  | 's' => some (.set .blank)
  | 'S' => some (.set (.compl .blank))
  | 'A' => some (.assertion .textStart)
  | 'z' => some (.assertion .textEnd)
  | 'b' => some (.assertion .wordBoundary)
  | 'B' => some (.assertion .notWordBoundary)
  | '<' => some (.assertion .wordStart)
  | '>' => some (.assertion .wordEnd)
  | 'a' => some (.literal '\x07')
  | 'f' => some (.literal '\x0c')
  | 't' => some (.literal '\t')
  | 'n' => some (.literal '\n')
  | 'r' => some (.literal '\r')
  | 'v' => some (.literal '\x0b')
  | c => if c.toNat < 0x80 && !c.isAlphanum then some (.literal c) else none

/-- Read what stands behind a backslash. -/
def readEscape : List Char → Option (Symbol × List Char)
  | [] => none
  | 'x' :: cs => readHex 2 cs
  | 'u' :: cs => readHex 4 cs
  | 'U' :: cs => readHex 8 cs
  | c :: cs => (escaped? c).map fun s => (s, cs)

theorem length_of_readHex {width : Nat} {cs rest : List Char} {s : Symbol}
    (h : readHex width cs = some (s, rest)) : rest.length ≤ cs.length := by
  unfold readHex at h
  split at h
  · next cs =>
    split at h
    · next c rest' hd =>
      have hle := (List.dropWhile_sublist (· != '\x7d') (l := cs)).length_le
      obtain ⟨a, -, ha⟩ := Option.map_eq_some_iff.1 h
      obtain ⟨-, rfl⟩ := Prod.mk.inj ha
      simp [hd] at hle ⊢
      omega
    · simp at h
  · split at h
    · obtain ⟨a, -, ha⟩ := Option.map_eq_some_iff.1 h
      obtain ⟨-, rfl⟩ := Prod.mk.inj ha
      simp
    · simp at h

theorem length_of_readEscape {cs rest : List Char} {s : Symbol}
    (h : readEscape cs = some (s, rest)) : rest.length ≤ cs.length := by
  unfold readEscape at h
  split at h
  · simp at h
  · have := length_of_readHex h; simp; omega
  · have := length_of_readHex h; simp; omega
  · have := length_of_readHex h; simp; omega
  · obtain ⟨a, -, ha⟩ := Option.map_eq_some_iff.1 h
    obtain ⟨-, rfl⟩ := Prod.mk.inj ha
    simp

/-- Split a pattern into symbols, behind those read already (in reverse). -/
def readSymbols (read : List Symbol) : List Char → Option (List Symbol)
  | [] => some read.reverse
  | '\\' :: cs =>
    match h : readEscape cs with
    | some (s, rest) =>
      have := length_of_readEscape h
      readSymbols (s :: read) rest
    | none => none
  | c :: cs => readSymbols (.plain c :: read) cs
termination_by cs => cs.length

end FilterQuery.Pattern
