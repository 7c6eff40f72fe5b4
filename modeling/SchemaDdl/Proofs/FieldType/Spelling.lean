import SchemaDdl.Proofs.FieldType.Reading

/-!
# How a type is written reads back

The text that shows a type is a spelling of the type again, the plainest one: no gaps, references,
brackets or qualified paths are left in it (`Spells`).  Of the text that was read only the last
segment of each path matters, so the induction is on what the text denotes.  One declaration is in
the way: an enumeration `char` takes the name through which `Vec<char>` is spelled.
-/

namespace SchemaDdl.FieldType

open SchemaDdl.Text (isSpace trim)

/-! ## Spaces -/

/-- No range of white space meets one of alphanumeric characters. -/
theorem spaceRanges_disjoint : ∀ space ∈ Text.spaceRanges, ∀ range ∈ Text.alphanumericRanges,
    space.2 < range.1 ∨ range.2 < space.1 := by
  decide +kernel

theorem isIdent_of_isSpace {c : Char} (h : isSpace c = true) : isIdent c = false := by
  cases hident : isIdent c with
  | false => rfl
  | true =>
    rcases isIdent_iff.1 hident with halpha | rfl
    · obtain ⟨space, hspace, hlow, hhigh⟩ := Text.Ranges.exists_mem_of_holds h
      obtain ⟨range, hrange, hlow', hhigh'⟩ := Text.Ranges.exists_mem_of_holds halpha
      have := spaceRanges_disjoint space hspace range hrange
      omega
    · exact absurd h (by decide)

/-- A text without spaces has none around it. -/
theorem trim_of_unspaced {s : List Char} (h : ∀ c ∈ s, isSpace c = false) : trim s = s := by
  refine trimmed_iff.1 ⟨[], [], by simp, by simp, by simp, fun c hc => ?_, fun c hc => ?_⟩
  · exact h c (List.mem_of_mem_head? hc)
  · exact h c (List.mem_of_mem_getLast? hc)

/-! ## Plain spellings -/

/-- The text spells the type with names and angle brackets alone. -/
structure Spells (enums : EnumTable) (s : List Char) (t : FieldType) : Prop where
  plain : ∀ c ∈ s, isIdent c = true ∨ c = '<' ∨ c = '>'
  denotes : Denotes enums s t

theorem Primitive.ident {name : String} {s : Scalar} (h : Primitive name s) :
    Ident name.toList := by
  cases h <;> decide

theorem Path.ident {path last : List Char} (h : Path path last) : Ident last := by
  induction h with
  | one h => exact h
  | more _ _ ih => exact ih

theorem opening_nil : Opening [] :=
  ⟨[], by simp [Gap], .inl rfl⟩

namespace Spells

variable {enums : EnumTable} {name argument : String} {a t : FieldType}

theorem ofName (hident : Ident name.toList) (h : Names enums name t) :
    Spells enums name.toList t := by
  refine ⟨fun c hc => .inl (hident.chars c hc), ?_⟩
  rw [← String.ofList_toList (s := name)] at h
  exact Denotes.name opening_nil (.one hident) h

theorem ofGeneric (hident : Ident name.toList) (hargument : Spells enums argument.toList a)
    (h : Applies name a t) : Spells enums (name ++ "<" ++ argument ++ ">").toList t := by
  have htext : (name ++ "<" ++ argument ++ ">").toList
      = name.toList ++ '<' :: argument.toList ++ ['>'] := by
    simp
  have hnone : Gap [] := by simp [Gap]
  rw [htext]
  refine ⟨fun c hc => ?_, ?_⟩
  · simp only [List.mem_append, List.mem_cons, List.not_mem_nil, or_false] at hc
    rcases hc with (hc | rfl | hc) | rfl
    · exact .inl (hident.chars c hc)
    · exact .inr (.inl rfl)
    · exact hargument.plain c hc
    · exact .inr (.inr rfl)
  · rw [← String.ofList_toList (s := name)] at h
    simpa using Denotes.generic opening_nil (.one hident) hnone hargument.denotes hnone h

theorem trim_eq {s : List Char} (h : Spells enums s t) : trim s = s := by
  refine trim_of_unspaced fun c hc => ?_
  cases hspace : isSpace c with
  | false => rfl
  | true =>
    rcases h.plain c hc with hident | rfl | rfl
    · rw [isIdent_of_isSpace hspace] at hident
      cases hident
    · exact absurd hspace (by decide)
    · exact absurd hspace (by decide)

end Spells

variable {enums : EnumTable} {t : FieldType}

/-- `Vec<char>` is the one scalar whose spelling asks what a declarable name means. -/
theorem spells_scalar (hchar : enums.lookup "char" = none) (s : Scalar) :
    Spells enums s.display.toList (scalar s) := by
  have hname : ∀ {name : String} {s : Scalar}, Primitive name s →
      Spells enums name.toList (scalar s) :=
    fun h => .ofName h.ident (.primitive h)
  have hvec : Ident "Vec".toList := by decide
  cases s with
  | i16 => exact hname .i16
  | i32 => exact hname .i32
  | i64 => exact hname .i64
  | u8 => exact hname .u8
  | bool => exact hname .bool
  | f32 => exact hname .f32
  | f64 => exact hname .f64
  | decimal => exact hname .decimal
  | string => exact hname .string
  | chars =>
    have hplain := lookup_plainNames_eq_none_iff.1 (show plainNames.lookup "char" = none by decide)
    have hargument : Spells enums "char".toList (custom "char") :=
      .ofName (by decide) (.custom hplain hchar)
    have hshown : Scalar.chars.display = "Vec" ++ "<" ++ "char" ++ ">" := by decide
    rw [hshown]
    exact .ofGeneric hvec hargument .chars
  | bytes =>
    have hshown : Scalar.bytes.display = "Vec" ++ "<" ++ "u8" ++ ">" := by decide
    rw [hshown]
    exact .ofGeneric hvec (hname .u8) .bytes
  | uuid => exact hname .uuid
  | dateTime => exact hname .naiveDateTime
  | time => exact hname .naiveTime
  | xml => exact hname .xml

theorem display_nullable (t : FieldType) :
    (nullable t).display = "Option" ++ "<" ++ t.display ++ ">" := by
  rfl

/-- What is shown of a type that a text denotes spells the type again. -/
theorem spells_display (hchar : enums.lookup "char" = none) {s : List Char}
    (h : Denotes enums s t) : Spells enums t.display.toList t := by
  induction h with
  | array _ helement =>
    cases helement with
    | char => exact spells_scalar hchar .chars
    | u8 | byte => exact spells_scalar hchar .bytes
  | @name _ _ last _ _ hpath hmeaning =>
    have hident : Ident (String.ofList last).toList := by simpa using hpath.ident
    generalize String.ofList last = name at hident hmeaning
    cases hmeaning with
    | @primitive s h => exact spells_scalar hchar s
    | enumeration h hrepr => exact .ofName hident (.enumeration h hrepr)
    | custom h hnone => exact .ofName hident (.custom h hnone)
  | @generic _ _ last _ _ _ _ _ _ hpath _ _ _ hmeaning ih =>
    have hident : Ident (String.ofList last).toList := by simpa using hpath.ident
    generalize String.ofList last = name at hident hmeaning
    cases hmeaning with
    | option =>
      rw [display_nullable]
      exact .ofGeneric hident ih (.option _)
    | bytes => exact spells_scalar hchar .bytes
    | chars => exact spells_scalar hchar .chars
    | dateTime => exact spells_scalar hchar .dateTime
    | other hoption hdate hvec => exact .ofGeneric hident ih (.other hoption hdate hvec)

theorem parse_eq_ok_of_spells {text : String} (h : Spells enums text.toList t) :
    parse enums text = .ok t := by
  rw [parse_eq_ok_iff, h.trim_eq]
  exact denotes_iff.1 h.denotes

theorem exists_denotes_of_parse {text : String} (h : parse enums text = .ok t) :
    ∃ s, Denotes enums s t :=
  ⟨_, denotes_iff.2 (parse_eq_ok_iff.1 h)⟩

/-- A type that a text parses to is written in a way that parses to it again, and no other type
that parses is written so. -/
theorem parse_display (hchar : enums.lookup "char" = none) {text : String}
    (h : parse enums text = .ok t) :
    parse enums t.display = .ok t ∧
      ∀ {text' : String} {t' : FieldType}, parse enums text' = .ok t' → t'.display = t.display →
        t' = t := by
  have hread : ∀ {text : String} {t : FieldType}, parse enums text = .ok t →
      parse enums t.display = .ok t := by
    intro text t h
    obtain ⟨s, hs⟩ := exists_denotes_of_parse h
    exact parse_eq_ok_of_spells (spells_display hchar hs)
  refine ⟨hread h, fun h' hdisplay => ?_⟩
  have hagain := hread h'
  rw [hdisplay, hread h] at hagain
  cases hagain
  rfl

/-- A path, a reference and gaps on two levels, around a declared enumeration. -/
theorem parse_display_qualified :
    parse [("Status", scalar .i16)] " &std::Option < Map<m::Status >> "
        = .ok (nullable (custom "Map<Status>")) ∧
      (nullable (custom "Map<Status>")).display = "Option<Map<Status>>" ∧
      parse [("Status", scalar .i16)] (nullable (custom "Map<Status>")).display
        = .ok (nullable (custom "Map<Status>")) := by
  have hparse : parse [("Status", scalar .i16)] " &std::Option < Map<m::Status >> "
      = .ok (nullable (custom "Map<Status>")) := by
    decide +kernel
  exact ⟨hparse, rfl, (parse_display (by decide) hparse).1⟩

/-- Where `char` is declared, brackets still mean characters but what shows them does not. -/
example : parse [("char", scalar .i16)] "char[]" = .ok (scalar .chars) ∧
    parse [("char", scalar .i16)] (scalar .chars).display = .ok (custom "Vec<char>") := by
  decide +kernel

end SchemaDdl.FieldType
