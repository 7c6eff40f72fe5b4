import SchemaDdl.Number.Digits
import SchemaDdl.Toml.Gap

/-!
# Texts in TOML

A text stands between double quotes, with escapes, or between single quotes, without.  Tripled
quotes allow line ends: the first one right after the opening does not count, and one or two
quotes may stand next to the closing ones.
-/

namespace SchemaDdl.Toml

open SchemaDdl.Number (isHexDigit ofDigits)

def shortEscapes : List (Char × Char) :=
  [('b', '\x08'), ('f', '\x0c'), ('n', '\n'), ('r', '\r'), ('t', '\t'), ('\\', '\\'), ('"', '"')]

/-- A character by its code point in `n` hexadecimal digits. -/
def readCodePoint (n : Nat) (s : List Char) : Option (Char × List Char) :=
  let digits := s.take n
  let code := ofDigits 16 digits
  if digits.length = n ∧ digits.all isHexDigit ∧ code.isValidChar then
    some (Char.ofNat code, s.drop n)
  else none

/-- What follows the backslash of an escape. -/
def readEscape : List Char → Option (Char × List Char)
  | [] => none
  | c :: rest =>
    if c = 'u' then readCodePoint 4 rest
    else if c = 'U' then readCodePoint 8 rest
    else (shortEscapes.lookup c).map fun found => (found, rest)

/-- What follows a backslash at the end of a line, up to the next text. -/
def dropContinuation (s : List Char) : Option (List Char) :=
  (dropNewline (skipBlanks s)).map skipSpace

theorem length_readEscape_lt {s rest : List Char} {c : Char}
    (h : readEscape s = some (c, rest)) : rest.length < s.length := by
  have code : ∀ {n : Nat} {t : List Char}, readCodePoint n t = some (c, rest) →
      rest.length ≤ t.length := by
    intro n t h
    unfold readCodePoint at h
    simp only [Option.ite_none_right_eq_some, Option.some.injEq, Prod.mk.injEq] at h
    rw [← h.2.2]
    simp
  unfold readEscape at h
  split at h
  · simp at h
  · rename_i d t
    simp only [List.length_cons]
    split at h
    · exact Nat.lt_succ_of_le (code h)
    · split at h
      · exact Nat.lt_succ_of_le (code h)
      · simp only [Option.map_eq_some_iff, Prod.mk.injEq] at h
        obtain ⟨_, _, _, rfl⟩ := h
        exact Nat.lt_succ_self _

theorem length_skipSpace_le (s : List Char) : (skipSpace s).length ≤ s.length := by
  fun_induction skipSpace s with
  | case1 => simp
  | case2 c rest _ ih =>
    simp only [List.length_cons]
    omega
  | case3 c rest _ t h ih =>
    have := length_dropNewline_lt h
    omega
  | case4 => simp

theorem length_dropContinuation_lt {s rest : List Char} (h : dropContinuation s = some rest) :
    rest.length < s.length := by
  unfold dropContinuation at h
  obtain ⟨t, ht, rfl⟩ := Option.map_eq_some_iff.1 h
  have h1 := length_dropNewline_lt ht
  have h2 := (List.dropWhile_sublist isBlankChar (l := s)).length_le
  have h3 := length_skipSpace_le t
  unfold skipBlanks at h1
  omega

def consText (c : Char) (found : Option (List Char × List Char)) :
    Option (List Char × List Char) :=
  found.map fun (text, rest) => (c :: text, rest)

def readBasic (s : List Char) : Option (List Char × List Char) :=
  match s with
  | [] => none
  | c :: rest =>
    if c = '"' then some ([], rest)
    else if c = '\\' then
      match _h : readEscape rest with
      | some (d, rest) => consText d (readBasic rest)
      | none => none
    else if isTextChar c then consText c (readBasic rest)
    else none
termination_by s.length
decreasing_by
  · have := length_readEscape_lt _h
    simp only [List.length_cons]
    omega
  · simp

def readLiteral : List Char → Option (List Char × List Char)
  | [] => none
  | c :: rest =>
    if c = '\'' then some ([], rest)
    else if isTextChar c then consText c (readLiteral rest)
    else none

/-- The end of a text behind three closing quotes: up to two more belong to it. -/
def closing (quote : Char) : List Char → List Char × List Char
  | a :: b :: rest =>
    if a = quote ∧ b = quote then ([a, b], rest)
    else if a = quote then ([a], b :: rest)
    else ([], a :: b :: rest)
  | [a] => if a = quote then ([a], []) else ([], [a])
  | [] => ([], [])

def dropTriple (quote : Char) : List Char → Option (List Char)
  | a :: b :: c :: rest => if a = quote ∧ b = quote ∧ c = quote then some rest else none
  | _ => none

def readMultiBasic (s : List Char) : Option (List Char × List Char) :=
  match dropTriple '"' s with
  | some rest => some (closing '"' rest)
  | none =>
    match s with
    | [] => none
    | c :: rest =>
      if c = '\\' then
        match _h : dropContinuation rest with
        | some rest => readMultiBasic rest
        | none =>
          match _h : readEscape rest with
          | some (d, rest) => consText d (readMultiBasic rest)
          | none => none
      else
        match _h : dropNewline (c :: rest) with
        | some rest => consText '\n' (readMultiBasic rest)
        | none => if isTextChar c then consText c (readMultiBasic rest) else none
termination_by s.length
decreasing_by
  · have := length_dropContinuation_lt _h
    simp only [List.length_cons]
    omega
  · have := length_readEscape_lt _h
    simp only [List.length_cons]
    omega
  · exact length_dropNewline_lt _h
  · simp

def readMultiLiteral (s : List Char) : Option (List Char × List Char) :=
  match dropTriple '\'' s with
  | some rest => some (closing '\'' rest)
  | none =>
    match s with
    | [] => none
    | c :: rest =>
      match _h : dropNewline (c :: rest) with
      | some rest => consText '\n' (readMultiLiteral rest)
      | none => if isTextChar c then consText c (readMultiLiteral rest) else none
termination_by s.length
decreasing_by
  · exact length_dropNewline_lt _h
  · simp

/-- A text of any kind, its opening quotes included. -/
def readText (s : List Char) : Option (List Char × List Char) :=
  match dropTriple '"' s with
  | some rest => readMultiBasic (skipNewline rest)
  | none =>
    match dropTriple '\'' s with
    | some rest => readMultiLiteral (skipNewline rest)
    | none =>
      match s with
      | '"' :: rest => readBasic rest
      | '\'' :: rest => readLiteral rest
      | _ => none

end SchemaDdl.Toml
