import SchemaDdl.Proofs.FieldType.Reading

/-!
# What is left over is what no type can take

Reading stops behind the longest part at the start of a text that the grammar derives.  Brackets
and arguments end with a character of their own, so a part that ends so is read as it is, whatever
comes after it; a part that ends with a name may go on, but only grow (`exists_readType`).  Hence
the position that a refused text is reported with: it is the size of that longest part, and zero
just when there is none.
-/

namespace SchemaDdl.FieldType

open SchemaDdl.Text (isSpace trim)

/-- A part at the start of a text that spells a type. -/
def Begins (enums : EnumTable) (s p : List Char) : Prop :=
  p <+: s ∧ ∃ t, Denotes enums p t

/-- The longest part at the start of a text that spells a type. -/
structure Longest (enums : EnumTable) (s p : List Char) : Prop where
  begins : Begins enums s p
  length_le : ∀ q, Begins enums s q → q.length ≤ p.length

variable {enums : EnumTable} {s rest u : List Char} {t : FieldType}

/-! ## A type goes on as far as it can -/

theorem length_dropWhile_append_le {run : List Char} {p : Char → Bool}
    (h : ∀ c ∈ run, p c = true) (rest : List Char) :
    ((run ++ rest).dropWhile p).length ≤ rest.length := by
  rw [List.dropWhile_append_of_pos h]
  exact (List.dropWhile_sublist p).length_le

theorem length_readSegments_path_le {path last : List Char} (h : Path path last)
    (rest : List Char) :
    (readSegments ((path ++ rest).takeWhile isIdent) ((path ++ rest).dropWhile isIdent)).2.length
      ≤ rest.length := by
  induction h with
  | one hname =>
    exact Nat.le_trans (length_readSegments_le _ _) (length_dropWhile_append_le hname.chars rest)
  | more hname hpath ih =>
    rw [hname.takeWhile_more, hname.dropWhile_more, readSegments]
    split
    · next hnil => exact absurd hnil (hpath.takeWhile_ne_nil rest)
    · exact ih

/-- A path at the start of a text is read at least to its end. -/
theorem exists_readPath {path last : List Char} (h : Path path last) (rest : List Char) :
    ∃ name u, readPath (path ++ rest) = some (name, u) ∧ u.length ≤ rest.length := by
  have hlength := length_readSegments_path_le h rest
  unfold readPath
  split
  · next hnil => exact absurd hnil (h.takeWhile_ne_nil rest)
  · exact ⟨_, _, rfl, hlength⟩

/-- Brackets come behind what would else be read as a path. -/
theorem exists_readPath_of_readArray (h : readArray s = some (t, u)) :
    ∃ name rest, readPath s = some (name, rest) ∧ u.length ≤ rest.length := by
  obtain ⟨element, gap, inner, helement, hgap, -, rfl⟩ := readArray_eq_some_iff.1 h
  have hpath : Path element element := by
    cases helement <;> exact .one (by decide)
  have hends : EndsPath (gap ++ '[' :: inner ++ ']' :: u) := by
    rw [List.append_assoc]
    exact endsPath_gap_cons hgap (by decide) (by decide) _
  refine ⟨element, _, readPath_path hpath hends, ?_⟩
  simp only [List.length_append, List.length_cons]
  omega

theorem length_lt_of_skipGap {c : Char} (h : skipGap s = c :: u) : u.length < s.length := by
  have hle := length_skipGap_le s
  rw [h] at hle
  exact hle

theorem length_readType_le (h : readType enums s = some (t, u)) : u.length ≤ s.length := by
  obtain ⟨text, -, rfl⟩ := denotes_of_readType h
  simp

/-- Where a path begins a type is read, at least to the end of the path. -/
theorem exists_readType_of_readPath {name : List Char}
    (h : readPath (skipReference (skipGap s)) = some (name, rest)) :
    ∃ t u, readType enums s = some (t, u) ∧ u.length ≤ rest.length := by
  fun_cases readType enums s with
  | case1 =>
    rename_i start found harray
    obtain ⟨t, u⟩ := found
    obtain ⟨name', rest', hpath, hle⟩ := exists_readPath_of_readArray harray
    rw [h] at hpath
    cases hpath
    exact ⟨t, u, rfl, hle⟩
  | case2 =>
    rename_i hpath
    rw [h] at hpath
    cases hpath
  | case3 =>
    rename_i hpath inner hopen argument after hargument u hclose
    rw [h] at hpath
    cases hpath
    have hinner := length_lt_of_skipGap hopen
    have hafter := length_readType_le hargument
    have hu := length_lt_of_skipGap hclose
    exact ⟨_, u, rfl, by omega⟩
  | case4 | case5 | case6 =>
    have hpath : readPath (skipReference (skipGap s)) = some _ := ‹_›
    rw [h] at hpath
    cases hpath
    exact ⟨_, rest, rfl, Nat.le_refl _⟩

/-- Where a type begins a type is read, at least to its end. -/
theorem exists_readType (h : Denotes enums s t) (rest : List Char) :
    ∃ t' u, readType enums (s ++ rest) = some (t', u) ∧ u.length ≤ rest.length := by
  cases h with
  | array hopening helement hgap hinner =>
    exact ⟨_, rest, readType_array hopening hgap hinner helement rest, Nat.le_refl _⟩
  | @name opening path last _ hopening hpath hmeaning =>
    obtain ⟨name, u, hread, hle⟩ := exists_readPath hpath rest
    rw [← skipReference_opening hopening (hpath.exists_cons rest), ← List.append_assoc] at hread
    obtain ⟨t', u', htype, hle'⟩ : ∃ t' u', readType enums (opening ++ path ++ rest) = some (t', u')
        ∧ u'.length ≤ u.length := exists_readType_of_readPath hread
    exact ⟨t', u', htype, Nat.le_trans hle' hle⟩
  | generic hopening hpath hgap hargument hinner hmeaning =>
    have hread := readType_of_denotes hargument (endsType_close hinner rest)
    exact ⟨_, rest, readType_generic hopening hgap hinner hpath hmeaning hread, Nat.le_refl _⟩

/-! ## The longest part -/

/-- Whatever is read is the longest part that spells a type. -/
theorem exists_longest_of_readType (h : readType enums s = some (t, rest)) :
    ∃ p, s = p ++ rest ∧ Longest enums s p := by
  obtain ⟨p, hp, rfl⟩ := denotes_of_readType h
  refine ⟨p, rfl, ⟨List.prefix_append p rest, t, hp⟩, ?_⟩
  rintro q ⟨⟨after, hq⟩, t', ht'⟩
  obtain ⟨t'', u, hread, hle⟩ := exists_readType ht' after
  rw [hq, h] at hread
  cases hread
  have hlength := congrArg List.length hq
  simp only [List.length_append] at hlength
  omega

/-- Nothing is read just where nothing begins. -/
theorem readType_eq_none_iff : readType enums s = none ↔ ∀ p, ¬ Begins enums s p := by
  constructor
  · rintro hnone p ⟨⟨rest, rfl⟩, t, hp⟩
    obtain ⟨t', u, hread, -⟩ := exists_readType hp rest
    rw [hnone] at hread
    cases hread
  · intro h
    cases hread : readType enums s with
    | none => rfl
    | some found =>
      obtain ⟨t, rest⟩ := found
      obtain ⟨p, -, hp⟩ := exists_longest_of_readType hread
      exact absurd hp.begins (h p)

theorem Begins.ne_nil {p : List Char} (h : Begins enums s p) : p ≠ [] := by
  obtain ⟨-, t, hp⟩ := h
  rintro rfl
  have hnone : readType enums [] = none := by
    rw [readType]
    rfl
  rw [denotes_iff, hnone] at hp
  cases hp

/-! ## Positions -/

theorem utf8Size_eq (s : List Char) : utf8Size s = (String.ofList s).utf8ByteSize := by
  induction s with
  | nil => rfl
  | cons c s ih =>
    rw [utf8Size, ih, String.ofList_cons, String.utf8ByteSize_append, String.utf8ByteSize_singleton]

/-- The position behind a part at the start of a text. -/
theorem utf8Size_append_sub (p rest : List Char) :
    utf8Size (p ++ rest) - utf8Size rest = (String.ofList p).utf8ByteSize := by
  rw [utf8Size_eq, utf8Size_eq, String.ofList_append, String.utf8ByteSize_append,
    Nat.add_sub_cancel]

theorem utf8ByteSize_ofList_pos {p : List Char} (h : p ≠ []) :
    0 < (String.ofList p).utf8ByteSize := by
  rw [Nat.pos_iff_ne_zero, ne_eq, String.utf8ByteSize_eq_zero_iff, String.ofList_eq_empty_iff]
  exact h

theorem isValid_ofList_append (p rest : List Char) :
    (String.Pos.Raw.mk (String.ofList p).utf8ByteSize).IsValid (String.ofList (p ++ rest)) :=
  String.Pos.Raw.isValid_iff_exists_append.2
    ⟨String.ofList p, String.ofList rest, String.ofList_append, rfl⟩

/-- Every gap is white space. -/
theorem isSpace_of_isGap {c : Char} (h : isGap c = true) : isSpace c = true := by
  rcases isGap_iff.1 h with rfl | rfl | rfl | rfl <;> decide

theorem skipGap_trim (s : List Char) : skipGap (trim s) = trim s := by
  obtain ⟨-, -, -, -, -, hhead, -⟩ := trimmed_trim s
  cases htrim : trim s with
  | nil => rfl
  | cons c rest =>
    rw [htrim] at hhead
    refine skipGap_cons ?_ rest
    cases hgap : isGap c with
    | false => rfl
    | true =>
      have hspace := hhead c rfl
      rw [isSpace_of_isGap hgap] at hspace
      cases hspace

/-! ## Refused texts -/

theorem parse_of_trailing {text : String} {c : Char}
    (h : readType enums (trim text.toList) = some (t, c :: rest)) :
    parse enums text
      = .error (.parse (utf8Size (trim text.toList) - utf8Size (c :: rest)) (.trailing (c :: rest))) := by
  unfold parse
  simp only [h]

theorem parse_of_none {text : String} (h : readType enums (trim text.toList) = none) :
    parse enums text = .error (.parse 0 (.noType (skipReference (trim text.toList)))) := by
  unfold parse
  simp only [h, skipGap_trim]

/-- A refused text is reported at the end of the longest part that spells a type, with what is left
over.  Where there is no such part, it is reported at its start. -/
theorem parse_error_position {text : String} {e : DdlError} (h : parse enums text = .error e) :
    ((∃ p, Begins enums (trim text.toList) p) →
      ∃ p rest, Longest enums (trim text.toList) p ∧ trim text.toList = p ++ rest ∧
        e = .parse (String.ofList p).utf8ByteSize (.trailing rest) ∧
        0 < (String.ofList p).utf8ByteSize ∧
        (String.Pos.Raw.mk (String.ofList p).utf8ByteSize).IsValid
          (String.ofList (trim text.toList))) ∧
    ((∀ p, ¬ Begins enums (trim text.toList) p) →
      e = .parse 0 (.noType (skipReference (trim text.toList)))) ∧
    ((∃ fault, e = .parse 0 fault) → ∀ p, ¬ Begins enums (trim text.toList) p) := by
  cases hread : readType enums (trim text.toList) with
  | none =>
    have hnone := readType_eq_none_iff.1 hread
    rw [parse_of_none hread] at h
    cases h
    exact ⟨fun ⟨p, hp⟩ => absurd hp (hnone p), fun _ => rfl, fun _ => hnone⟩
  | some found =>
    obtain ⟨t, rest⟩ := found
    obtain ⟨p, hsplit, hlongest⟩ := exists_longest_of_readType hread
    cases rest with
    | nil =>
      rw [parse_eq_ok_iff.2 hread] at h
      cases h
    | cons c rest =>
      have hpos := utf8ByteSize_ofList_pos hlongest.begins.ne_nil
      rw [parse_of_trailing hread, hsplit, utf8Size_append_sub] at h
      cases h
      refine ⟨fun _ => ⟨p, c :: rest, hlongest, hsplit, rfl, hpos, ?_⟩, fun hnone => ?_, ?_⟩
      · rw [hsplit]
        exact isValid_ofList_append p (c :: rest)
      · exact absurd hlongest.begins (hnone p)
      · rintro ⟨fault, hfault⟩
        injection hfault with hzero
        omega

/-- An argument is not closed, behind a name of more bytes than characters. -/
theorem parse_error_position_unclosed :
    parse [] " &Größe<m::Vec<u8> " = .error (.parse 8 (.trailing "<m::Vec<u8>".toList)) ∧
      Longest [] (trim " &Größe<m::Vec<u8> ".toList) "&Größe".toList := by
  have herror : parse [] " &Größe<m::Vec<u8> "
      = .error (.parse 8 (.trailing "<m::Vec<u8>".toList)) := by
    decide +kernel
  have htrim : trim " &Größe<m::Vec<u8> ".toList = "&Größe".toList ++ "<m::Vec<u8>".toList := by
    decide +kernel
  have hname : Denotes [] "&Größe".toList (custom "Größe") :=
    denotes_iff.2 (by decide +kernel)
  obtain ⟨p, rest, hlongest, hsplit, he, -, -⟩ := (parse_error_position herror).1
    ⟨_, ⟨_, htrim.symm⟩, _, hname⟩
  injection he with _ hfault
  injection hfault with hrest
  rw [htrim, ← hrest] at hsplit
  rw [List.append_cancel_right hsplit]
  exact ⟨herror, hlongest⟩

end SchemaDdl.FieldType
