/-!
# Blanks, comments and line ends

Blanks are spaces and tabs.  A line ends with a line feed, alone or after a carriage return; a
carriage return alone is no line end.  A comment holds no control characters but tabs.
-/

namespace SchemaDdl.Toml

def isBlankChar (c : Char) : Bool :=
  c = ' ' || c = '\t'

def skipBlanks (s : List Char) : List Char :=
  s.dropWhile isBlankChar

/-- No control character, tabs aside. -/
def isTextChar (c : Char) : Bool :=
  c = '\t' || (' ' ≤ c && c ≠ '\x7f')

def dropNewline : List Char → Option (List Char)
  | '\n' :: rest => some rest
  | '\r' :: '\n' :: rest => some rest
  | _ => none

def skipNewline (s : List Char) : List Char :=
  (dropNewline s).getD s

/-- Drops a comment at the start, if there is one, up to the end of its line. -/
def skipComment : List Char → List Char
  | '#' :: rest => rest.dropWhile isTextChar
  | s => s

/-- The next line, when only blanks and a comment are left on this one. -/
def endLine (s : List Char) : Option (List Char) :=
  match skipComment (skipBlanks s) with
  | [] => some []
  | s => dropNewline s

theorem length_dropNewline_lt {s rest : List Char} (h : dropNewline s = some rest) :
    rest.length < s.length := by
  unfold dropNewline at h
  split at h
  · simp_all
  · simp only [Option.some.injEq] at h
    subst h
    simp only [List.length_cons]
    omega
  · simp at h

def skipSpace (s : List Char) : List Char :=
  match s with
  | [] => []
  | c :: rest =>
    if isBlankChar c then skipSpace rest
    else
      match _h : dropNewline (c :: rest) with
      | some rest => skipSpace rest
      | none => c :: rest
termination_by s.length
decreasing_by
  · simp
  · exact length_dropNewline_lt _h

def skipLines (s : List Char) : List Char :=
  match s with
  | [] => []
  | c :: rest =>
    if isBlankChar c then skipLines rest
    else if c = '#' then skipLines (rest.dropWhile isTextChar)
    else
      match _h : dropNewline (c :: rest) with
      | some rest => skipLines rest
      | none => c :: rest
termination_by s.length
decreasing_by
  · simp
  · have := (List.dropWhile_sublist isTextChar (l := rest)).length_le
    simp only [List.length_cons]
    omega
  · exact length_dropNewline_lt _h

end SchemaDdl.Toml
