import Mathlib.Data.List.DropRight
import ScriptFiles.Desktop.Posix
import ScriptFiles.Proofs.Text.Pieces

/-!
# Relative paths

A relative path of ordinary names is read from a base directory by writing its names after those of
the base. What is above it, one name at a time, are the paths of fewer of its names and at last the
base; `Path.trimmed` drops the idle names that a base may end with.
-/

namespace ScriptFiles.Desktop

/-- A name that an entry of a directory can have. -/
structure IsOrdinary (name : String) : Prop where
  nonempty : name ≠ ""
  notHere : name ≠ "."
  notUp : name ≠ ".."
  noSlash : '/' ∉ name.toList
  noNul : '\x00' ∉ name.toList
  short : name.utf8ByteSize ≤ nameLimit

instance (name : String) : Decidable (IsOrdinary name) :=
  decidable_of_iff
    (name ≠ "" ∧ name ≠ "." ∧ name ≠ ".." ∧ '/' ∉ name.toList ∧ '\x00' ∉ name.toList ∧
      name.utf8ByteSize ≤ nameLimit)
    ⟨fun ⟨h₁, h₂, h₃, h₄, h₅, h₆⟩ => ⟨h₁, h₂, h₃, h₄, h₅, h₆⟩,
      fun ⟨h₁, h₂, h₃, h₄, h₅, h₆⟩ => ⟨h₁, h₂, h₃, h₄, h₅, h₆⟩⟩

/-- An ordinary name leads somewhere. -/
theorem IsOrdinary.not_isIdle {name : String} (h : IsOrdinary name) : ¬ Path.isIdle name := by
  simp [Path.isIdle, h.nonempty, h.notHere]

/-- One or more ordinary names, the way from a base directory. -/
structure RelativePath where
  /-- The names above the last one. -/
  above : List String
  /-- The last name. -/
  last : String
  ordinary : ∀ name ∈ above ++ [last], IsOrdinary name

/-- The names of a relative path. -/
abbrev RelativePath.names (p : RelativePath) : List String :=
  p.above ++ [p.last]

/-- A relative path has a name. -/
theorem RelativePath.names_ne_nil (p : RelativePath) : p.names ≠ [] :=
  List.concat_ne_nil p.last p.above

/-- The directories of a relative path have ordinary names. -/
theorem RelativePath.ordinary_above (p : RelativePath) : ∀ name ∈ p.above, IsOrdinary name :=
  fun name hname => p.ordinary name (List.mem_append_left _ hname)

/-- The text of a relative path: its names with single slashes between them. -/
def RelativePath.text (p : RelativePath) : String :=
  "/".intercalate p.names

/-! ## Texts -/

/-- More names make a longer text. -/
theorem utf8ByteSize_intercalate_le {front whole : List String} (h : front <+: whole) :
    ("/".intercalate front).utf8ByteSize ≤ ("/".intercalate whole).utf8ByteSize := by
  obtain ⟨more, rfl⟩ := h
  induction front with
  | nil => simp
  | cons name front ih =>
    cases front with
    | nil => cases more with
      | nil => exact le_rfl
      | cons next more =>
        simp only [List.singleton_append, String.intercalate_cons_cons, String.utf8ByteSize_append,
          String.intercalate_singleton]
        omega
    | cons next front =>
      simp only [List.cons_append, String.intercalate_cons_cons, String.utf8ByteSize_append] at ih ⊢
      omega

namespace Path

/-- The path without idle names at its end. -/
def trimmed (p : Path) : Path :=
  ⟨p.names.rdropWhile isIdle⟩

/-- The path of names read from a base directory. -/
def below (base : Path) (names : List String) : Path :=
  ⟨base.openNames ++ names⟩

/-- A relative path has the names of its text. -/
theorem namesOf_text (p : RelativePath) : namesOf p.text.toList = p.names := by
  have hpieces : Text.pieces (· == '/') p.text.toList = p.names.map String.toList := by
    rw [RelativePath.text, String.toList_intercalate]
    refine Text.pieces_intercalate rfl (mt List.map_eq_nil_iff.mp p.names_ne_nil) ?_
    simp only [List.forall_mem_map, beq_eq_false_iff_ne, ne_eq]
    rintro name hname _ hc rfl
    exact (p.ordinary name hname).noSlash hc
  rw [namesOf, hpieces, List.map_map]
  exact List.map_id'' (fun name => String.ofList_toList) p.names

/-- The text of a relative path is not absolute: its first name is not empty and has no slash. -/
theorem ofText?_text (p : RelativePath) : ofText? p.text = none := by
  obtain ⟨name, rest, hcons⟩ := List.exists_cons_of_ne_nil p.names_ne_nil
  have hmem : name ∈ p.names := by
    rw [hcons]
    exact List.mem_cons_self
  have hname := p.ordinary name hmem
  obtain ⟨c, cs, hchars⟩ := List.exists_cons_of_ne_nil (mt String.toList_eq_nil_iff.mp hname.nonempty)
  have hfirst : ∃ more, p.text.toList = c :: more := by
    rw [RelativePath.text, String.toList_intercalate, hcons, List.map_cons, hchars]
    cases rest.map String.toList with
    | nil => exact ⟨cs, List.intercalate_singleton⟩
    | cons next rest => exact ⟨_, List.intercalate_cons_cons⟩
  obtain ⟨more, hmore⟩ := hfirst
  have hc : c ≠ '/' := by
    rintro rfl
    exact hname.noSlash (hchars ▸ List.mem_cons_self)
  rw [ofText?, hmore]
  split
  · next heq => exact absurd (List.cons.inj heq).1 hc
  · rfl

/-- A relative path is read from the base directory. -/
theorem resolve_text (base : Path) (p : RelativePath) :
    base.resolve p.text = base.below p.names := by
  rw [resolve, ofText?_text, Option.getD_none, namesOf_text, below]

/-! ## The paths above -/

variable {base : Path} {names : List String} {last : String}

/-- A path that ends in an ordinary name has nothing to trim. -/
theorem trimmed_below (hlast : IsOrdinary last) :
    (base.below (names ++ [last])).trimmed = base.below (names ++ [last]) := by
  simp only [trimmed, below, ← List.append_assoc]
  rw [List.rdropWhile_concat_neg _ _ _ hlast.not_isIdle]

/-- Above a path is the one without its last name. -/
theorem parent?_below (hlast : IsOrdinary last) :
    (base.below (names ++ [last])).parent? = some (base.below names).trimmed := by
  have hreverse : (base.below (names ++ [last])).names.reverse =
      last :: (base.below names).names.reverse := by
    simp [below]
  unfold parent?
  rw [hreverse, List.dropWhile_cons_of_neg hlast.not_isIdle]
  rfl

/-- The lineage of a path below the base is the path and the lineage of its directory. -/
theorem lineage_below (hlast : IsOrdinary last) :
    (base.below (names ++ [last])).lineage =
      base.below (names ++ [last]) :: (base.below names).trimmed.lineage := by
  rw [lineage]
  split
  · next hnone => rw [parent?_below hlast] at hnone; contradiction
  · next hsome =>
    rw [parent?_below hlast] at hsome
    rw [Option.some.inj hsome]

/-! ## What the calls take -/

/-- No NUL occurs in the names of a path, and its text is short enough. -/
structure Passes (p : Path) : Prop where
  noNul : p.hasNul = false
  short : p.text.utf8ByteSize < pathLimit

/-- A path of fewer names passes with the longer one. -/
theorem Passes.of_prefix {front whole : Path} (h : whole.Passes)
    (hfront : front.names <+: whole.names) : front.Passes := by
  refine ⟨?_, ?_⟩
  · have hnul := h.noNul
    simp only [hasNul, List.any_eq_false] at hnul ⊢
    exact fun name hname => hnul name (hfront.subset hname)
  · have hshort := h.short
    have hle := utf8ByteSize_intercalate_le hfront
    simp only [text, String.utf8ByteSize_append] at hshort ⊢
    omega

/-- A path that passes does so without its trailing separators. -/
theorem Passes.trimmed {p : Path} (h : p.Passes) : p.trimmed.Passes :=
  h.of_prefix (List.rdropWhile_prefix isIdle p.names)

/-- A path of ordinary names below the base passes when it is short enough. -/
theorem passes_below (hnul : base.hasNul = false) (hordinary : ∀ name ∈ names, IsOrdinary name)
    (hshort : (base.below names).text.utf8ByteSize < pathLimit) : (base.below names).Passes := by
  refine ⟨?_, hshort⟩
  simp only [hasNul, List.any_eq_false, List.contains_iff_mem] at hnul ⊢
  intro name hname
  rcases List.mem_append.mp hname with hbase | hnames
  · refine hnul name ?_
    unfold openNames at hbase
    split at hbase
    · exact List.dropLast_subset _ hbase
    · exact hbase
  · exact (hordinary name hnames).noNul

/-- With a path, those of its directories below the base pass. -/
theorem Passes.below {more : List String} (h : (base.below (names ++ more)).Passes) :
    (base.below names).Passes := by
  refine h.of_prefix ?_
  rw [Path.below, Path.below, ← List.append_assoc]
  exact List.prefix_append _ _

end Path
end ScriptFiles.Desktop
