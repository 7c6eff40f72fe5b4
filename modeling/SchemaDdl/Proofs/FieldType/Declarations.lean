import SchemaDdl.Proofs.FieldType.Prefix
import SchemaDdl.Proofs.FieldType.Spelling

/-!
# What a declared enumeration can change

A table of enumerations gives names a meaning and does nothing else.  Where a type begins and ends
is up to the grammar, and a type is shown by the names that it was read from.  So under any two
tables the same texts are accepted, the others are refused in the same way, and what is accepted is
shown alike (`parse_agrees`).

Nor does a declaration reach a built-in type, except one: `Vec<char>` is told by a name that is not
plain, so a table that declares `char` takes this spelling of characters away
(`parse_builtIn_iff`).  Characters in brackets are safe.
-/

namespace SchemaDdl.FieldType

open SchemaDdl.Text (trim)

variable {enums enums' : EnumTable} {s p q rest : List Char} {t t' a : FieldType}

/-- Under one table a text has at most one meaning. -/
theorem Denotes.functional (h : Denotes enums s t) (h' : Denotes enums s t') : t = t' := by
  rw [denotes_iff] at h h'
  rw [h] at h'
  cases h'
  rfl

/-! ## How what is read is shown -/

/-- A name is shown as it is written, unless it is plain. -/
theorem display_ofName (enums : EnumTable) (name : String) :
    (ofName enums name).display = ((plainNames.lookup name).map Scalar.display).getD name := by
  unfold ofName
  cases plainNames.lookup name with
  | some s => rfl
  | none => cases enums.lookup name <;> rfl

/-- A name with an argument is shown as the argument is shown.  Bytes and characters are no
exception, they are shown as they are spelled. -/
theorem Applies.display {name : String} (h : Applies name a t) :
    t.display =
      if name = "DateTime" then Scalar.dateTime.display else name ++ "<" ++ a.display ++ ">" := by
  cases h with
  | option => exact display_nullable a
  | bytes => rfl
  | chars => rfl
  | dateTime => rfl
  | other _ hdate => exact (if_neg hdate).symm

/-- What a text means under one table and what it means under another are shown alike. -/
theorem Denotes.exists_shown (h : Denotes enums s t) (enums' : EnumTable) :
    ∃ t', Denotes enums' s t' ∧ t'.display = t.display := by
  induction h with
  | array hopening helement hgap hinner =>
    exact ⟨_, .array hopening helement hgap hinner, rfl⟩
  | name hopening hpath hmeaning =>
    refine ⟨_, .name hopening hpath (names_iff.2 rfl), ?_⟩
    rw [← names_iff.1 hmeaning, display_ofName, display_ofName]
  | @generic _ _ last _ _ _ _ _ hopening hpath hgap _ hinner hmeaning ih =>
    obtain ⟨a', hargument, hshown⟩ := ih
    have hmeaning' : Applies (String.ofList last) a' (ofGeneric (String.ofList last) a') :=
      applies_iff.2 rfl
    refine ⟨_, .generic hopening hpath hgap hargument hinner hmeaning', ?_⟩
    rw [hmeaning'.display, hmeaning.display, hshown]

/-! ## What is accepted -/

theorem Begins.transfer (h : Begins enums s p) (enums' : EnumTable) : Begins enums' s p := by
  obtain ⟨hstart, t, ht⟩ := h
  obtain ⟨t', ht', -⟩ := ht.exists_shown enums'
  exact ⟨hstart, t', ht'⟩

theorem Longest.transfer (h : Longest enums s p) (enums' : EnumTable) : Longest enums' s p :=
  ⟨h.begins.transfer enums', fun q hq => h.length_le q (hq.transfer enums)⟩

theorem Longest.unique (h : Longest enums s p) (h' : Longest enums s q) : p = q := by
  have hlength : p.length = q.length :=
    Nat.le_antisymm (h'.length_le p h.begins) (h.length_le q h'.begins)
  have hstart : p <+: q :=
    List.prefix_of_prefix_length_le h.begins.1 h'.begins.1 (Nat.le_of_eq hlength)
  exact hstart.eq_of_length hlength

theorem exists_denotes_of_readType (h : readType enums s = some (t, rest)) :
    ∃ p, s = p ++ rest ∧ Denotes enums p t ∧ Longest enums s p := by
  obtain ⟨p, hp, rfl⟩ := denotes_of_readType h
  obtain ⟨q, hsplit, hq⟩ := exists_longest_of_readType h
  obtain rfl := List.append_cancel_right hsplit
  exact ⟨p, rfl, hp, hq⟩

/-- Reading stops at the same place under every table, with something that is shown alike. -/
theorem exists_readType_shown (h : readType enums s = some (t, rest)) (enums' : EnumTable) :
    ∃ t', readType enums' s = some (t', rest) ∧ t'.display = t.display := by
  obtain ⟨p, hsplit, hp, hlongest⟩ := exists_denotes_of_readType h
  obtain ⟨t', hp', hshown⟩ := hp.exists_shown enums'
  cases hread : readType enums' s with
  | none => exact absurd (hlongest.begins.transfer enums') (readType_eq_none_iff.1 hread p)
  | some found =>
    obtain ⟨t'', rest'⟩ := found
    obtain ⟨q, hsplit', hq, hlongest'⟩ := exists_denotes_of_readType hread
    obtain rfl := (hlongest.transfer enums').unique hlongest'
    obtain rfl := hp'.functional hq
    rw [hsplit, List.append_cancel_left_eq] at hsplit'
    exact ⟨t', by rw [hsplit'], hshown⟩

theorem readType_eq_none_transfer (h : readType enums s = none) (enums' : EnumTable) :
    readType enums' s = none :=
  readType_eq_none_iff.2 fun p hp => readType_eq_none_iff.1 h p (hp.transfer enums)

/-- What is declared matters neither to what is accepted nor to how it is shown.  Under any two
tables a text parses to types that are shown alike, or it is refused at the same position for the
same fault. -/
theorem parse_agrees (enums enums' : EnumTable) (text : String) :
    (∃ t t', parse enums text = .ok t ∧ parse enums' text = .ok t' ∧ t.display = t'.display) ∨
      ∃ position fault, parse enums text = .error (.parse position fault) ∧
        parse enums' text = .error (.parse position fault) := by
  cases hread : readType enums (trim text.toList) with
  | none =>
    exact .inr ⟨_, _, parse_of_none hread, parse_of_none (readType_eq_none_transfer hread enums')⟩
  | some found =>
    obtain ⟨t, rest⟩ := found
    obtain ⟨t', hread', hshown⟩ := exists_readType_shown hread enums'
    cases rest with
    | nil =>
      exact .inl ⟨t, t', parse_eq_ok_iff.2 hread, parse_eq_ok_iff.2 hread', hshown.symm⟩
    | cons c rest =>
      exact .inr ⟨_, _, parse_of_trailing hread, parse_of_trailing hread'⟩

/-- A declaration that changes what is read, on two levels, and not how it is shown. -/
example :
    let enums := [("char", scalar .i16), ("Status", scalar .u8)]
    parse [] "Map<Vec<char>>" = .ok (custom "Map<Vec<char>>") ∧
      parse enums "Map<Vec<char>>" = .ok (custom "Map<Vec<char>>") ∧
      parse enums "Option<Status>" = .ok (nullable (enumeration "Status" (scalar .u8))) ∧
      parse [] "Option<Status>" = .ok (nullable (custom "Status")) := by
  decide +kernel

/-! ## Built-in types -/

/-- A scalar below any number of options. -/
inductive BuiltIn : FieldType → Prop
  | scalar (s : Scalar) : BuiltIn (scalar s)
  | nullable {t : FieldType} (h : BuiltIn t) : BuiltIn (nullable t)

/-- The text spells characters as `Vec<char>`, below any number of options. -/
inductive NamesChars : List Char → Prop
  | vec {opening path gap inside name inner : List Char} (hopening : Opening opening)
      (hpath : Path path "Vec".toList) (hgap : Gap gap) (hinside : Opening inside)
      (hname : Path name "char".toList) (hinner : Gap inner) :
      NamesChars (opening ++ (path ++ gap ++ '<' :: (inside ++ name) ++ inner ++ ['>']))
  | option {opening path gap argument inner : List Char} (hopening : Opening opening)
      (hpath : Path path "Option".toList) (hgap : Gap gap) (hargument : NamesChars argument)
      (hinner : Gap inner) :
      NamesChars (opening ++ (path ++ gap ++ '<' :: argument ++ inner ++ ['>']))

/-- The type with its characters taken for a custom type. -/
def withoutChars : FieldType → FieldType
  | nullable t => nullable t.withoutChars
  | scalar .chars => custom Scalar.chars.display
  | t => t

theorem not_primitive_char : ∀ s, ¬ Primitive "char" s :=
  lookup_plainNames_eq_none_iff.1 (by decide)

/-- An option, spelled around a text that means its inner type. -/
theorem Denotes.option {opening path gap argument inner : List Char} (hopening : Opening opening)
    (hpath : Path path "Option".toList) (hgap : Gap gap) (hinner : Gap inner)
    (h : Denotes enums argument a) :
    Denotes enums (opening ++ (path ++ gap ++ '<' :: argument ++ inner ++ ['>'])) (nullable a) := by
  refine .generic hopening hpath hgap h hinner ?_
  rw [String.ofList_toList]
  exact .option a

/-- What a spelling of characters means is told by whether `char` is declared. -/
theorem NamesChars.exists_denotes (h : NamesChars s) :
    ∃ t : FieldType, t.withoutChars ≠ t ∧ ∀ enums : EnumTable,
      (enums.lookup "char" = none → Denotes enums s t) ∧
      (enums.lookup "char" ≠ none → Denotes enums s t.withoutChars) := by
  induction h with
  | @vec opening path gap inside name inner hopening hpath hgap hinside hname hinner =>
    have hargument : ∀ {enums : EnumTable} {a : FieldType}, Names enums "char" a →
        Denotes enums (inside ++ name) a :=
      fun h => .name hinside hname (by rwa [String.ofList_toList])
    refine ⟨scalar .chars, by decide, fun enums => ⟨fun hnone => ?_, fun hsome => ?_⟩⟩
    · refine .generic hopening hpath hgap (hargument (.custom not_primitive_char hnone)) hinner ?_
      rw [String.ofList_toList]
      exact .chars
    · obtain ⟨repr, hrepr⟩ := Option.ne_none_iff_exists'.1 hsome
      refine .generic hopening hpath hgap (hargument (.enumeration not_primitive_char hrepr))
        hinner ?_
      rw [String.ofList_toList]
      exact .other (by decide) (by decide) fun _ => ⟨by simp, by simp⟩
  | option hopening hpath hgap _ hinner ih =>
    obtain ⟨t, hne, ht⟩ := ih
    refine ⟨nullable t, fun heq => hne (nullable.inj heq), fun enums => ⟨fun hnone => ?_,
      fun hsome => ?_⟩⟩
    · exact ((ht enums).1 hnone).option hopening hpath hgap hinner
    · exact ((ht enums).2 hsome).option hopening hpath hgap hinner

theorem Names.eq_of_custom {name name' : String} (h : Names enums name (FieldType.custom name')) :
    name = name' := by
  cases h
  rfl

theorem Applies.not_char {name : String} : ¬ Applies name a (custom "char") := by
  intro h
  generalize ht : custom "char" = t at h
  cases h with
  | other =>
    have hopen : '<' ∈ "char".toList := by
      rw [custom.inj ht]
      simp
    exact absurd hopen (by decide)
  | _ => cases ht

theorem Applies.not_u8 {name : String} : ¬ Applies name a (scalar .u8) := by
  intro h
  cases h

/-- Only the name itself means the custom type `char`. -/
theorem Denotes.exists_path_char (h : Denotes enums s (custom "char")) :
    ∃ opening path, s = opening ++ path ∧ Opening opening ∧ Path path "char".toList := by
  cases h with
  | array _ helement => cases helement
  | name hopening hpath hmeaning =>
    rw [← hmeaning.eq_of_custom, String.toList_ofList]
    exact ⟨_, _, rfl, hopening, hpath⟩
  | generic _ _ _ _ _ hmeaning => exact absurd hmeaning Applies.not_char

theorem Denotes.scalar_u8 (h : Denotes enums s (scalar .u8)) (enums' : EnumTable) :
    Denotes enums' s (scalar .u8) := by
  cases h with
  | array _ helement => cases helement
  | name hopening hpath hmeaning =>
    cases hmeaning with
    | primitive h => exact .name hopening hpath (.primitive h)
  | generic _ _ _ _ _ hmeaning => exact absurd hmeaning Applies.not_u8

/-- A built-in type that a text means with nothing declared it means under every table that leaves
its characters alone. -/
theorem Denotes.of_builtIn (h : Denotes [] s t) (ht : t.BuiltIn)
    (hsafe : NamesChars s → enums.lookup "char" = none) : Denotes enums s t := by
  induction h with
  | array hopening helement hgap hinner => exact .array hopening helement hgap hinner
  | name hopening hpath hmeaning =>
    cases hmeaning with
    | primitive h => exact .name hopening hpath (.primitive h)
    | enumeration => cases ht
    | custom => cases ht
  | @generic opening path last gap argument inner a t hopening hpath hgap hargument hinner hmeaning
      ih =>
    have hagain : ∀ {a : FieldType}, Denotes enums argument a → Applies (String.ofList last) a t →
        Denotes enums (opening ++ (path ++ gap ++ '<' :: argument ++ inner ++ ['>'])) t :=
      fun ha h => .generic hopening hpath hgap ha hinner h
    generalize hlast : String.ofList last = name at hmeaning hagain
    obtain rfl : last = name.toList := by rw [← hlast, String.toList_ofList]
    cases hmeaning with
    | option =>
      cases ht with
      | nullable ha =>
        exact (ih ha fun h => hsafe (.option hopening hpath hgap h hinner)).option hopening hpath
          hgap hinner
    | bytes => exact hagain (hargument.scalar_u8 enums) .bytes
    | chars =>
      obtain ⟨inside, name, rfl, hinside, hname⟩ := hargument.exists_path_char
      have hchar := hsafe (.vec hopening hpath hgap hinside hname hinner)
      refine hagain (.name hinside hname ?_) .chars
      rw [String.ofList_toList]
      exact .custom not_primitive_char hchar
    | dateTime =>
      -- the argument may mean something else, but it still means something
      obtain ⟨a', ha', -⟩ := hargument.exists_shown enums
      exact hagain ha' (.dateTime a')
    | other => cases ht

/-- A text that parses to a built-in type with nothing declared parses to it under every table,
unless it spells characters by the name `char` and the table declares that name.  There it parses
to the type with its characters taken for a custom type. -/
theorem parse_builtIn_iff {text : String} (h : parse [] text = .ok t) (ht : t.BuiltIn)
    (enums : EnumTable) :
    (parse enums text = .ok t ↔ (NamesChars (trim text.toList) → enums.lookup "char" = none)) ∧
    (NamesChars (trim text.toList) → enums.lookup "char" ≠ none →
      parse enums text = .ok t.withoutChars) := by
  have hplain : Denotes [] (trim text.toList) t := denotes_iff.2 (parse_eq_ok_iff.1 h)
  have hok : ∀ {t'}, parse enums text = .ok t' ↔ Denotes enums (trim text.toList) t' := by
    intro t'
    rw [parse_eq_ok_iff, denotes_iff]
  have hlost : NamesChars (trim text.toList) → enums.lookup "char" ≠ none →
      t.withoutChars ≠ t ∧ Denotes enums (trim text.toList) t.withoutChars := by
    intro hnames hdeclared
    obtain ⟨t', hne, ht'⟩ := hnames.exists_denotes
    -- with nothing declared the spelling means the type itself
    obtain rfl := hplain.functional ((ht' []).1 rfl)
    exact ⟨hne, (ht' enums).2 hdeclared⟩
  rw [hok, hok]
  refine ⟨⟨fun hmeans hnames => ?_, hplain.of_builtIn ht⟩, fun hnames hdeclared => ?_⟩
  · by_contra hdeclared
    obtain ⟨hne, hother⟩ := hlost hnames hdeclared
    exact hne (hother.functional hmeans)
  · exact (hlost hnames hdeclared).2

/-- Optional characters in both spellings, where `char` is declared: the name is exposed, the
brackets are not. -/
theorem parse_builtIn_iff_optional :
    let enums := [("char", scalar .i16)]
    let t := nullable (scalar .chars)
    parse [] " Option<std::Vec<char>>" = .ok t ∧ parse [] "Option<char[]>" = .ok t ∧ t.BuiltIn ∧
      NamesChars (trim " Option<std::Vec<char>>".toList) ∧
      parse enums " Option<std::Vec<char>>" = .ok (nullable (custom "Vec<char>")) ∧
      ¬ NamesChars (trim "Option<char[]>".toList) ∧ parse enums "Option<char[]>" = .ok t := by
  intro enums t
  have hvec : parse [] " Option<std::Vec<char>>" = .ok t := by decide +kernel
  have hbrackets : parse [] "Option<char[]>" = .ok t := by decide +kernel
  have hsafe : parse enums "Option<char[]>" = .ok t := by decide +kernel
  have ht : t.BuiltIn := .nullable (.scalar .chars)
  have hdeclared : enums.lookup "char" ≠ none := by decide
  have hlost : ¬ parse enums " Option<std::Vec<char>>" = .ok t := by decide +kernel
  have hnames : NamesChars (trim " Option<std::Vec<char>>".toList) := by
    by_contra hnot
    exact hlost ((parse_builtIn_iff hvec ht enums).1.2 fun h => absurd h hnot)
  exact ⟨hvec, hbrackets, ht, hnames, (parse_builtIn_iff hvec ht enums).2 hnames hdeclared,
    fun h => hdeclared ((parse_builtIn_iff hbrackets ht enums).1.1 hsafe h), hsafe⟩

/-- A declaration can change a type that is built in. -/
theorem not_parse_builtIn_stable :
    ¬ ∀ (enums : EnumTable) (text : String) (t : FieldType), parse [] text = .ok t → t.BuiltIn →
      parse enums text = .ok t := by
  intro h
  have hchars := h [("char", scalar .i16)] "Vec<char>" (scalar .chars) (by decide +kernel)
    (.scalar .chars)
  revert hchars
  decide +kernel

end SchemaDdl.FieldType
