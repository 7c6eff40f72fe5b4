import SchemaDdl.Proofs.FieldType.Grammar

/-!
# Reading accepts exactly the grammar

The reader takes the longest identifier, tries brackets before paths and gives an argument up when
its closing bracket is missing.  What it reads is derived by the grammar (`denotes_of_readType`).
Conversely it reads a whole derivation as long as the text after it cannot go on with the type
(`readType_of_denotes`): both the end of a text and the closing bracket of an argument are such
places, so nested arguments are covered by one induction.
-/

namespace SchemaDdl.FieldType

open SchemaDdl.Text (isSpace trim trimStart)

/-! ## Runs of characters -/

section Runs

variable {p : Char → Bool} {run rest : List Char}

/-- A run is taken whole where no character of its kind comes next. -/
theorem takeWhile_run (hrun : ∀ c ∈ run, p c = true) (hrest : ∀ c ∈ rest.head?, p c = false) :
    (run ++ rest).takeWhile p = run := by
  rw [List.takeWhile_append_of_pos hrun]
  cases rest with
  | nil => simp
  | cons c rest =>
    have hc : p c = false := hrest c rfl
    rw [List.takeWhile_cons_of_neg (by simp [hc]), List.append_nil]

theorem dropWhile_run (hrun : ∀ c ∈ run, p c = true) (hrest : ∀ c ∈ rest.head?, p c = false) :
    (run ++ rest).dropWhile p = rest := by
  rw [List.dropWhile_append_of_pos hrun]
  cases rest with
  | nil => rfl
  | cons c rest =>
    have hc : p c = false := hrest c rfl
    rw [List.dropWhile_cons_of_neg (by simp [hc])]

theorem head?_dropWhile (p : Char → Bool) (s : List Char) :
    ∀ c ∈ (s.dropWhile p).head?, p c = false := by
  intro c hc
  have h := List.head?_dropWhile_not p s
  rw [hc] at h
  exact h

end Runs

/-! ## White space around a text -/

/-- The second text is the first without the white space around it. -/
def Trimmed (text s : List Char) : Prop :=
  ∃ before after, text = before ++ s ++ after ∧
    (∀ c ∈ before, isSpace c = true) ∧ (∀ c ∈ after, isSpace c = true) ∧
    (∀ c ∈ s.head?, isSpace c = false) ∧ ∀ c ∈ s.getLast?, isSpace c = false

theorem trimmed_trim (text : List Char) : Trimmed text (trim text) := by
  have hback : ((trimStart text).reverse.takeWhile isSpace).reverse.reverse
      ++ (trim text).reverse = (trimStart text).reverse := by
    rw [List.reverse_reverse, trim, List.reverse_reverse]
    exact List.takeWhile_append_dropWhile
  have hfront : trimStart text
      = trim text ++ ((trimStart text).reverse.takeWhile isSpace).reverse := by
    rw [← List.reverse_append] at hback
    exact (List.reverse_inj.1 hback).symm
  refine ⟨text.takeWhile isSpace, ((trimStart text).reverse.takeWhile isSpace).reverse, ?_, ?_, ?_,
    ?_, ?_⟩
  · rw [List.append_assoc, ← hfront]
    exact List.takeWhile_append_dropWhile.symm
  · exact fun c hc => List.mem_takeWhile_imp hc
  · exact fun c hc => List.mem_takeWhile_imp (List.mem_reverse.1 hc)
  · intro c hc
    refine head?_dropWhile isSpace text c ?_
    change c ∈ (trimStart text).head?
    rw [hfront, List.head?_append, hc]
    rfl
  · intro c hc
    rw [trim, List.getLast?_reverse] at hc
    exact head?_dropWhile isSpace _ c hc

theorem trimmed_iff {text s : List Char} : Trimmed text s ↔ trim text = s := by
  constructor
  · rintro ⟨before, after, rfl, hbefore, hafter, hhead, hlast⟩
    cases s with
    | nil =>
      have hall : ∀ c ∈ before ++ [] ++ after, isSpace c = true := by
        intro c hc
        rw [List.append_nil] at hc
        exact (List.mem_append.1 hc).elim (hbefore c) (hafter c)
      rw [trim, trimStart, trimStart, List.dropWhile_eq_nil_iff.2 hall]
      rfl
    | cons d s =>
      have hfront : trimStart (before ++ d :: s ++ after) = d :: s ++ after := by
        rw [List.append_assoc]
        exact dropWhile_run hbefore hhead
      have hback : trimStart (after.reverse ++ (d :: s).reverse) = (d :: s).reverse := by
        refine dropWhile_run (fun c hc => hafter c (List.mem_reverse.1 hc)) ?_
        rw [List.head?_reverse]
        exact hlast
      rw [trim, hfront, List.reverse_append, hback, List.reverse_reverse]
  · rintro rfl
    exact trimmed_trim text

/-! ## Tokens -/

theorem isGap_iff {c : Char} : isGap c = true ↔ c = ' ' ∨ c = '\t' ∨ c = '\r' ∨ c = '\n' := by
  simp [isGap, or_assoc]

theorem isIdent_iff {c : Char} : isIdent c = true ↔ Text.isAlphanumeric c = true ∨ c = '_' := by
  simp [isIdent]

theorem isIdent_of_isGap {c : Char} (h : isGap c = true) : isIdent c = false := by
  rcases isGap_iff.1 h with rfl | rfl | rfl | rfl <;> decide

variable {s rest u : List Char}

theorem Gap.chars {gap : List Char} (h : Gap gap) : ∀ c ∈ gap, isGap c = true :=
  fun c hc => isGap_iff.2 (h c hc)

theorem Ident.chars {name : List Char} (h : Ident name) : ∀ c ∈ name, isIdent c = true :=
  fun c hc => isIdent_iff.2 (h.2 c hc)

instance Ident.decidable (s : List Char) : Decidable (Ident s) :=
  decidable_of_iff (s.isEmpty = false ∧ s.all isIdent = true) (by simp [Ident, isIdent_iff])

theorem gap_takeWhile (s : List Char) : Gap (s.takeWhile isGap) :=
  fun _ hc => isGap_iff.1 (List.mem_takeWhile_imp hc)

theorem ident_takeWhile (h : s.takeWhile isIdent ≠ []) : Ident (s.takeWhile isIdent) :=
  ⟨h, fun _ hc => isIdent_iff.1 (List.mem_takeWhile_imp hc)⟩

theorem skipGap_gap {gap : List Char} (h : Gap gap) (s : List Char) :
    skipGap (gap ++ s) = skipGap s :=
  List.dropWhile_append_of_pos h.chars

theorem skipGap_cons {c : Char} (h : isGap c = false) (s : List Char) :
    skipGap (c :: s) = c :: s :=
  List.dropWhile_cons_of_neg (by simp [h])

theorem skipGap_gap_cons {gap : List Char} (hgap : Gap gap) {c : Char} (h : isGap c = false)
    (s : List Char) : skipGap (gap ++ c :: s) = c :: s := by
  rw [skipGap_gap hgap, skipGap_cons h]

theorem skipGap_eq_cons_iff {c : Char} (h : isGap c = false) :
    skipGap s = c :: u ↔ ∃ gap, Gap gap ∧ s = gap ++ c :: u := by
  constructor
  · intro hs
    refine ⟨s.takeWhile isGap, gap_takeWhile s, ?_⟩
    rw [← hs]
    exact List.takeWhile_append_dropWhile.symm
  · rintro ⟨gap, hgap, rfl⟩
    exact skipGap_gap_cons hgap h u

/-- A gap does not begin with a character of an identifier, nor does what comes after it when
that is no such character. -/
theorem head?_gap_append {gap : List Char} (hgap : Gap gap)
    (hrest : ∀ c ∈ rest.head?, isIdent c = false) :
    ∀ c ∈ (gap ++ rest).head?, isIdent c = false := by
  intro c hc
  cases gap with
  | nil => exact hrest c hc
  | cons d gap =>
    cases hc
    exact isIdent_of_isGap (hgap.chars c List.mem_cons_self)

/-! ## Openings -/

/-- What the reader skips before a type is an opening. -/
theorem exists_opening {start : List Char} (h : skipReference (skipGap s) = start) :
    ∃ opening, Opening opening ∧ s = opening ++ start := by
  have hs : s = s.takeWhile isGap ++ skipGap s := List.takeWhile_append_dropWhile.symm
  generalize skipGap s = after at h hs
  unfold skipReference at h
  split at h
  · next after =>
    subst h
    refine ⟨s.takeWhile isGap ++ ['&'], ⟨_, gap_takeWhile s, .inr rfl⟩, ?_⟩
    rw [List.append_assoc]
    exact hs
  · subst h
    exact ⟨s.takeWhile isGap, ⟨_, gap_takeWhile s, .inl rfl⟩, hs⟩

theorem skipReference_opening {opening body : List Char} (h : Opening opening)
    (hbody : ∃ c tail, body = c :: tail ∧ isIdent c = true) :
    skipReference (skipGap (opening ++ body)) = body := by
  obtain ⟨c, tail, rfl, hc⟩ := hbody
  have hgap : isGap c = false := by
    cases hgap : isGap c with
    | false => rfl
    | true =>
      rw [isIdent_of_isGap hgap] at hc
      cases hc
  obtain ⟨gap, hopening, rfl | rfl⟩ := h
  · rw [skipGap_gap hopening, skipGap_cons hgap]
    unfold skipReference
    split
    · next heq =>
      cases heq
      exact absurd hc (by decide)
    · rfl
  · rw [List.append_assoc, skipGap_gap hopening]
    rfl

/-! ## Brackets -/

theorem dropWord_eq_some_iff {word : List Char} : dropWord word s = some u ↔ s = word ++ u := by
  induction word generalizing s with
  | nil => simp [dropWord]
  | cons w word ih =>
    cases s with
    | nil => simp [dropWord]
    | cons c s =>
      by_cases hc : w = c
      · simp [dropWord, hc, ih]
      · simp [dropWord, hc, Ne.symm hc]

theorem dropBrackets_eq_some_iff : dropBrackets s = some u ↔
    ∃ gap inner, Gap gap ∧ Gap inner ∧ s = gap ++ '[' :: inner ++ ']' :: u := by
  constructor
  · intro h
    unfold dropBrackets at h
    split at h
    · next inside hopen =>
      split at h
      · next after hclose =>
        cases h
        obtain ⟨gap, hgap, rfl⟩ := (skipGap_eq_cons_iff (by decide)).1 hopen
        obtain ⟨inner, hinner, rfl⟩ := (skipGap_eq_cons_iff (by decide)).1 hclose
        exact ⟨gap, inner, hgap, hinner, by simp⟩
      · cases h
    · cases h
  · rintro ⟨gap, inner, hgap, hinner, rfl⟩
    have hopen : skipGap (gap ++ '[' :: inner ++ ']' :: u) = '[' :: (inner ++ ']' :: u) := by
      rw [List.append_assoc]
      exact skipGap_gap_cons hgap (by decide) _
    have hclose : skipGap (inner ++ ']' :: u) = ']' :: u :=
      skipGap_gap_cons hinner (by decide) u
    simp only [dropBrackets, hopen, hclose]

theorem readArray_eq_some_iff {t : FieldType} : readArray s = some (t, u) ↔
    ∃ element gap inner, Element element t ∧ Gap gap ∧ Gap inner ∧
      s = element ++ (gap ++ '[' :: inner ++ ']' :: u) := by
  constructor
  · intro h
    obtain ⟨⟨word, scalar⟩, hmem, hfound⟩ := List.exists_of_findSome?_eq_some h
    obtain ⟨rest, hrest, heq⟩ := Option.map_eq_some_iff.1 hfound
    obtain ⟨rest', hword, hbrackets⟩ := Option.bind_eq_some_iff.1 hrest
    obtain ⟨gap, inner, hgap, hinner, rfl⟩ := dropBrackets_eq_some_iff.1 hbrackets
    cases heq
    obtain rfl := dropWord_eq_some_iff.1 hword
    refine ⟨word, gap, inner, ?_, hgap, hinner, rfl⟩
    simp only [arrayElements, List.mem_cons, Prod.mk.injEq, List.not_mem_nil, or_false] at hmem
    rcases hmem with ⟨rfl, rfl⟩ | ⟨rfl, rfl⟩ | ⟨rfl, rfl⟩
    · exact .char
    · exact .u8
    · exact .byte
  · rintro ⟨element, gap, inner, helement, hgap, hinner, rfl⟩
    have hbrackets : dropBrackets (gap ++ '[' :: inner ++ ']' :: u) = some u :=
      dropBrackets_eq_some_iff.2 ⟨gap, inner, hgap, hinner, rfl⟩
    generalize gap ++ '[' :: inner ++ ']' :: u = tail at hbrackets ⊢
    cases helement <;> simp [readArray, arrayElements, dropWord, hbrackets]

/-! ## Paths -/

theorem Path.exists_cons {path last : List Char} (h : Path path last) (rest : List Char) :
    ∃ c tail, path ++ rest = c :: tail ∧ isIdent c = true := by
  have hident : ∀ {name : List Char}, Ident name → ∀ more,
      ∃ c tail, name ++ more = c :: tail ∧ isIdent c = true := by
    intro name hname more
    obtain ⟨c, name, rfl⟩ := List.exists_cons_of_ne_nil hname.1
    exact ⟨c, name ++ more, rfl, hname.chars c List.mem_cons_self⟩
  cases h with
  | one h => exact hident h rest
  | more h hpath =>
    rw [List.append_assoc]
    exact hident h _

theorem exists_path_of_readSegments {name last : List Char} (hname : Ident name)
    (h : readSegments name s = (last, u)) : ∃ more, Path (name ++ more) last ∧ s = more ++ u := by
  fun_induction readSegments name s with
  | case1 name t hsegment =>
    cases h
    exact ⟨[], by simpa using Path.one hname, rfl⟩
  | case2 name t hsegment ih =>
    obtain ⟨more, hpath, hrest⟩ := ih (ident_takeWhile hsegment) h
    refine ⟨':' :: ':' :: (t.takeWhile isIdent ++ more), .more hname hpath, ?_⟩
    rw [List.cons_append, List.cons_append, List.append_assoc, ← hrest,
      List.takeWhile_append_dropWhile]
  | case3 name s =>
    cases h
    exact ⟨[], by simpa using Path.one hname, rfl⟩

theorem exists_path_of_readPath {last : List Char} (h : readPath s = some (last, u)) :
    ∃ path, Path path last ∧ s = path ++ u := by
  unfold readPath at h
  split at h
  · cases h
  · next hname =>
    obtain ⟨more, hpath, hrest⟩ := exists_path_of_readSegments (ident_takeWhile hname)
      (Option.some.inj h)
    refine ⟨s.takeWhile isIdent ++ more, hpath, ?_⟩
    rw [List.append_assoc, ← hrest, List.takeWhile_append_dropWhile]

/-- Where a path ends: no identifier, no further segment. -/
def EndsPath (rest : List Char) : Prop :=
  ∀ c ∈ rest.head?, isIdent c = false ∧ c ≠ ':'

theorem EndsPath.not_ident (h : EndsPath rest) : ∀ c ∈ rest.head?, isIdent c = false :=
  fun c hc => (h c hc).1

theorem Path.takeWhile_ne_nil {path last : List Char} (h : Path path last) (rest : List Char) :
    (path ++ rest).takeWhile isIdent ≠ [] := by
  obtain ⟨c, tail, heq, hc⟩ := h.exists_cons rest
  rw [heq, List.takeWhile_cons_of_pos hc]
  exact List.cons_ne_nil _ _

section Segment

variable {name path : List Char} (h : Ident name)

include h

/-- The first of several segments ends at its colons. -/
theorem Ident.takeWhile_more :
    (name ++ ':' :: ':' :: path ++ rest).takeWhile isIdent = name := by
  rw [List.append_assoc]
  refine takeWhile_run h.chars fun c hc => ?_
  cases hc
  decide

theorem Ident.dropWhile_more :
    (name ++ ':' :: ':' :: path ++ rest).dropWhile isIdent = ':' :: ':' :: (path ++ rest) := by
  rw [List.append_assoc]
  refine dropWhile_run h.chars fun c hc => ?_
  cases hc
  decide

end Segment

theorem readSegments_path {path last : List Char} (h : Path path last) (hrest : EndsPath rest) :
    readSegments ((path ++ rest).takeWhile isIdent) ((path ++ rest).dropWhile isIdent)
      = (last, rest) := by
  induction h with
  | one hname =>
    rw [takeWhile_run hname.chars hrest.not_ident, dropWhile_run hname.chars hrest.not_ident,
      readSegments]
    intro t ht
    rw [ht] at hrest
    exact (hrest ':' rfl).2 rfl
  | more hname hpath ih =>
    rw [hname.takeWhile_more, hname.dropWhile_more, readSegments]
    split
    · next hnil => exact absurd hnil (hpath.takeWhile_ne_nil rest)
    · exact ih

theorem readPath_path {path last : List Char} (h : Path path last) (hrest : EndsPath rest) :
    readPath (path ++ rest) = some (last, rest) := by
  unfold readPath
  split
  · next hnil => exact absurd hnil (h.takeWhile_ne_nil rest)
  · rw [readSegments_path h hrest]

theorem Element.chars {element : List Char} {t : FieldType} (h : Element element t) :
    ∀ c ∈ element, isIdent c = true := by
  cases h <;> exact List.all_eq_true.1 (by decide)

/-- A path is no bracketed type unless a bracket follows it. -/
theorem readArray_path {path last : List Char} (h : Path path last) (hrest : EndsPath rest)
    (hbracket : ∀ u, skipGap rest ≠ '[' :: u) : readArray (path ++ rest) = none := by
  cases hread : readArray (path ++ rest) with
  | none => rfl
  | some found =>
    obtain ⟨t, u⟩ := found
    obtain ⟨element, gap, inner, helement, hgap, -, heq⟩ := readArray_eq_some_iff.1 hread
    have hopen : ∀ c ∈ (gap ++ '[' :: inner ++ ']' :: u).head?, isIdent c = false := by
      rw [List.append_assoc]
      refine head?_gap_append hgap fun c hc => ?_
      cases hc
      decide
    have hskip : skipGap (gap ++ '[' :: inner ++ ']' :: u) = '[' :: (inner ++ ']' :: u) := by
      rw [List.append_assoc]
      exact skipGap_gap_cons hgap (by decide) _
    -- after its first segment the path goes on with the gap and the bracket
    have hafter : (path ++ rest).dropWhile isIdent = gap ++ '[' :: inner ++ ']' :: u := by
      rw [heq, dropWhile_run helement.chars hopen]
    rw [← hafter] at hskip
    cases h with
    | one hname =>
      rw [dropWhile_run hname.chars hrest.not_ident] at hskip
      exact absurd hskip (hbracket _)
    | more hname =>
      rw [hname.dropWhile_more] at hskip
      cases hskip

/-! ## Types -/

theorem Element.exists_cons {element : List Char} {t : FieldType} (h : Element element t)
    (rest : List Char) : ∃ c tail, element ++ rest = c :: tail ∧ isIdent c = true := by
  cases h <;> exact ⟨_, _, rfl, by decide⟩

/-- Where a type ends: nothing comes after a gap, or a closing bracket. -/
def EndsType (rest : List Char) : Prop :=
  ∀ c ∈ (skipGap rest).head?, c = '>'

theorem endsType_nil : EndsType [] := by
  intro c hc
  cases hc

theorem endsType_close {gap : List Char} (hgap : Gap gap) (u : List Char) :
    EndsType (gap ++ '>' :: u) := by
  intro c hc
  rw [skipGap_gap_cons hgap (by decide)] at hc
  cases hc
  rfl

theorem EndsType.endsPath (h : EndsType rest) : EndsPath rest := by
  intro c hc
  obtain ⟨tail, rfl⟩ := List.head?_eq_some_iff.1 hc
  cases hgap : isGap c with
  | true =>
    refine ⟨isIdent_of_isGap hgap, ?_⟩
    rintro rfl
    cases hgap
  | false =>
    obtain rfl : c = '>' := by
      refine h c ?_
      rw [skipGap_cons hgap]
      rfl
    decide

/-- After a type comes no other opening character than the closing bracket. -/
theorem EndsType.skipGap_ne (h : EndsType rest) {c : Char} (hc : c ≠ '>') (u : List Char) :
    skipGap rest ≠ c :: u := by
  intro heq
  refine hc (h c ?_)
  rw [heq]
  rfl

theorem endsPath_gap_cons {gap : List Char} (hgap : Gap gap) {c : Char} (hc : isIdent c = false)
    (hcolon : c ≠ ':') (u : List Char) : EndsPath (gap ++ c :: u) := by
  intro d hd
  cases gap with
  | nil =>
    cases hd
    exact ⟨hc, hcolon⟩
  | cons g gap =>
    cases hd
    have hg := hgap.chars d List.mem_cons_self
    refine ⟨isIdent_of_isGap hg, ?_⟩
    rintro rfl
    cases hg

theorem endsPath_open {gap : List Char} (hgap : Gap gap) (u : List Char) :
    EndsPath (gap ++ '<' :: u) :=
  endsPath_gap_cons hgap (by decide) (by decide) u

section Steps

variable {enums : EnumTable} {name inner after : List Char} {argument : FieldType}

theorem readType_of_array {found : FieldType × List Char}
    (h : readArray (skipReference (skipGap s)) = some found) : readType enums s = some found := by
  rw [readType]
  simp only [h]

theorem readType_of_name (h : readArray (skipReference (skipGap s)) = none)
    (hpath : readPath (skipReference (skipGap s)) = some (name, rest))
    (hnone : ∀ inner, skipGap rest ≠ '<' :: inner) :
    readType enums s = some (ofName enums (String.ofList name), rest) := by
  rw [readType]
  simp only [h]
  split
  · next hp =>
    rw [hpath] at hp
    cases hp
  · next hp =>
    rw [hpath] at hp
    cases hp
    split
    · next hg => exact absurd hg (hnone _)
    · rfl

theorem readType_of_generic (h : readArray (skipReference (skipGap s)) = none)
    (hpath : readPath (skipReference (skipGap s)) = some (name, rest))
    (hopen : skipGap rest = '<' :: inner)
    (hargument : readType enums inner = some (argument, after)) (hclose : skipGap after = '>' :: u) :
    readType enums s = some (ofGeneric (String.ofList name) argument, u) := by
  rw [readType]
  simp only [h]
  split
  · next hp =>
    rw [hpath] at hp
    cases hp
  · next hp =>
    rw [hpath] at hp
    cases hp
    split
    · next hg =>
      rw [hopen] at hg
      cases hg
      simp only [hargument, hclose]
    · next hg => exact absurd hopen (hg _)

end Steps

variable {enums : EnumTable} {t : FieldType}

theorem denotes_of_readPath {name : List Char}
    (h : readPath (skipReference (skipGap s)) = some (name, rest)) :
    ∃ text, Denotes enums text (ofName enums (String.ofList name)) ∧ s = text ++ rest := by
  obtain ⟨path, hpath, hrest⟩ := exists_path_of_readPath h
  obtain ⟨opening, hopening, hs⟩ := exists_opening hrest
  refine ⟨opening ++ path, .name hopening hpath (names_iff.2 rfl), ?_⟩
  rw [List.append_assoc]
  exact hs

/-- What the reader takes, the grammar derives. -/
theorem denotes_of_readType (h : readType enums s = some (t, u)) :
    ∃ text, Denotes enums text t ∧ s = text ++ u := by
  fun_induction readType enums s generalizing t u with
  | case1 =>
    cases h
    obtain ⟨element, gap, inner, helement, hgap, hinner, hrest⟩ := readArray_eq_some_iff.1 ‹_›
    obtain ⟨opening, hopening, hs⟩ := exists_opening hrest
    refine ⟨_, .array hopening helement hgap hinner, ?_⟩
    simpa using hs
  | case2 => cases h
  | case3 =>
    rename_i hpath inner hopen argument after _ u' hclose ih
    cases h
    obtain ⟨path, hspelled, hrest⟩ := exists_path_of_readPath hpath
    obtain ⟨opening, hopening, hs⟩ := exists_opening hrest
    obtain ⟨gap, hgap, rfl⟩ := (skipGap_eq_cons_iff (by decide)).1 hopen
    obtain ⟨text, htext, rfl⟩ := ih ‹_›
    obtain ⟨gap', hgap', rfl⟩ := (skipGap_eq_cons_iff (by decide)).1 hclose
    refine ⟨_, .generic hopening hspelled hgap htext hgap' (applies_iff.2 rfl), ?_⟩
    simpa using hs
  | case4 | case5 | case6 =>
    cases h
    exact denotes_of_readPath ‹_›

section Closed

variable {opening gap inner : List Char} (hopening : Opening opening) (hgap : Gap gap)
  (hinner : Gap inner)

include hopening hgap hinner

/-- The reader takes a bracketed type, whatever comes after it. -/
theorem readType_array {element : List Char} (helement : Element element t) (rest : List Char) :
    readType enums (opening ++ (element ++ gap ++ '[' :: inner ++ [']']) ++ rest)
      = some (t, rest) := by
  have hstart := skipReference_opening hopening
    (helement.exists_cons (gap ++ '[' :: inner ++ ']' :: rest))
  have hsplit : opening ++ (element ++ gap ++ '[' :: inner ++ [']']) ++ rest
      = opening ++ (element ++ (gap ++ '[' :: inner ++ ']' :: rest)) := by
    simp
  rw [hsplit]
  refine readType_of_array ?_
  rw [hstart]
  exact readArray_eq_some_iff.2 ⟨element, gap, inner, helement, hgap, hinner, rfl⟩

/-- The reader takes a path with an argument, whatever comes after its closing bracket, when it
takes the argument up to there. -/
theorem readType_generic {path last argument : List Char} {a : FieldType} (hpath : Path path last)
    (hmeaning : Applies (String.ofList last) a t)
    (hread : readType enums (argument ++ (inner ++ '>' :: rest)) = some (a, inner ++ '>' :: rest)) :
    readType enums (opening ++ (path ++ gap ++ '<' :: argument ++ inner ++ ['>']) ++ rest)
      = some (t, rest) := by
  have hsplit : opening ++ (path ++ gap ++ '<' :: argument ++ inner ++ ['>']) ++ rest
      = opening ++ (path ++ (gap ++ '<' :: (argument ++ (inner ++ '>' :: rest)))) := by
    simp
  have hopen : skipGap (gap ++ '<' :: (argument ++ (inner ++ '>' :: rest)))
      = '<' :: (argument ++ (inner ++ '>' :: rest)) :=
    skipGap_gap_cons hgap (by decide) _
  have hclose : skipGap (inner ++ '>' :: rest) = '>' :: rest :=
    skipGap_gap_cons hinner (by decide) rest
  have hends := endsPath_open hgap (argument ++ (inner ++ '>' :: rest))
  have hstart := skipReference_opening hopening
    (hpath.exists_cons (gap ++ '<' :: (argument ++ (inner ++ '>' :: rest))))
  rw [hsplit, ← applies_iff.1 hmeaning]
  refine readType_of_generic ?_ ?_ hopen hread hclose
  · rw [hstart]
    refine readArray_path hpath hends fun u hu => ?_
    rw [hopen] at hu
    cases hu
  · rw [hstart]
    exact readPath_path hpath hends

end Closed

/-- What the grammar derives, the reader takes, up to where it ends. -/
theorem readType_of_denotes (h : Denotes enums s t) (hrest : EndsType rest) :
    readType enums (s ++ rest) = some (t, rest) := by
  -- the text after an argument begins with its closing bracket, so it ends the argument too
  induction h generalizing rest with
  | array hopening helement hgap hinner =>
    exact readType_array hopening hgap hinner helement rest
  | @name opening path last t hopening hpath hmeaning =>
    have hstart : skipReference (skipGap (opening ++ path ++ rest)) = path ++ rest := by
      rw [List.append_assoc]
      exact skipReference_opening hopening (hpath.exists_cons rest)
    rw [← names_iff.1 hmeaning]
    refine readType_of_name ?_ ?_ (hrest.skipGap_ne (by decide))
    · rw [hstart]
      exact readArray_path hpath hrest.endsPath (hrest.skipGap_ne (by decide))
    · rw [hstart]
      exact readPath_path hpath hrest.endsPath
  | generic hopening hpath hgap hargument hinner hmeaning ih =>
    exact readType_generic hopening hgap hinner hpath hmeaning (ih (endsType_close hinner rest))

/-- A text denotes a type just when reading it gives the type and leaves nothing. -/
theorem denotes_iff : Denotes enums s t ↔ readType enums s = some (t, []) := by
  constructor
  · intro h
    have hread := readType_of_denotes h endsType_nil
    rwa [List.append_nil] at hread
  · intro h
    obtain ⟨text, htext, rfl⟩ := denotes_of_readType h
    rwa [List.append_nil]

theorem parse_eq_ok_iff {text : String} :
    parse enums text = .ok t ↔ readType enums (trim text.toList) = some (t, []) := by
  unfold parse
  dsimp only
  rcases readType enums (trim text.toList) with _ | ⟨t', _ | ⟨c, rest⟩⟩ <;> simp

/-- A text parses to a type just when the grammar derives it without the white space around it,
and under one table of enumerations the grammar gives a text at most one meaning. -/
theorem parse_ok_iff_denotes (enums : EnumTable) :
    (∀ (text : String) (t : FieldType),
      parse enums text = .ok t ↔ ∃ s, Trimmed text.toList s ∧ Denotes enums s t) ∧
    ∀ (s : List Char) (t t' : FieldType), Denotes enums s t → Denotes enums s t' → t = t' := by
  constructor
  · intro text t
    simp only [trimmed_iff, exists_eq_left', denotes_iff, parse_eq_ok_iff]
  · intro s t t' h h'
    rw [denotes_iff] at h h'
    rw [h] at h'
    cases h'
    rfl

/-- A declared enumeration at the end of a path, below an option and between gaps. -/
theorem denotes_optional_status :
    ∃ s, Trimmed " Option< m::Status >\t".toList s ∧
      ∀ t, Denotes [("Status", scalar .i16)] s t ↔
        t = nullable (enumeration "Status" (scalar .i16)) := by
  obtain ⟨hparse, hunique⟩ := parse_ok_iff_denotes [("Status", scalar .i16)]
  have hok : parse [("Status", scalar .i16)] " Option< m::Status >\t"
      = .ok (nullable (enumeration "Status" (scalar .i16))) := by
    decide +kernel
  obtain ⟨s, htrimmed, hs⟩ := (hparse _ _).1 hok
  refine ⟨s, htrimmed, fun t => ⟨fun ht => hunique s t _ ht hs, ?_⟩⟩
  rintro rfl
  exact hs

end SchemaDdl.FieldType
