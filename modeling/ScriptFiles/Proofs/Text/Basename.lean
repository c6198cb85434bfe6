import Mathlib.Data.List.DropRight
import ScriptFiles.Proofs.Text.Pieces
import ScriptFiles.Text.Basename

/-!
# What a basename keeps

The basename is the last piece of a path between its separators, so nothing in front of a separator
has a part in it. The ends of a path that hold no separator are just the ends of its basename, which
makes it the longest of them.
-/

namespace ScriptFiles

/-! ## Characters -/

/-- The basename is the longest end without separators, taken from the back. -/
theorem basenameChars_eq_rtakeWhile (path : List Char) :
    basenameChars path = path.rtakeWhile (!isSeparator ·) :=
  rfl

/-- Only a path without separators is its own basename. -/
theorem basenameChars_eq_self_iff {path : List Char} :
    basenameChars path = path ↔ ∀ c ∈ path, isSeparator c = false := by
  simp only [basenameChars_eq_rtakeWhile, List.rtakeWhile_eq_self_iff, Bool.not_eq_true']

/-- A path holds no separator, or one stands right in front of its basename. -/
theorem free_or_exists_directory (path : List Char) :
    (∀ c ∈ path, isSeparator c = false) ∨
      ∃ directory c, isSeparator c = true ∧ path = directory ++ c :: basenameChars path := by
  have hwhole : path.rdropWhile (!isSeparator ·) ++ basenameChars path = path :=
    List.rdropWhile_append_rtakeWhile
  rcases List.eq_nil_or_concat' (path.rdropWhile (!isSeparator ·)) with
    hnone | ⟨directory, c, hdirectory⟩
  · rw [hnone, List.nil_append, basenameChars_eq_self_iff] at hwhole
    exact .inl hwhole
  · have hlast := List.rdropWhile_last_not (!isSeparator ·) path (by simp [hdirectory])
    refine .inr ⟨directory, c, by simpa [hdirectory] using hlast, ?_⟩
    simpa [hdirectory] using hwhole.symm

/-- The basename is the last piece of a path. -/
theorem getLast?_pieces (path : List Char) :
    (Text.pieces isSeparator path).getLast? = some (basenameChars path) := by
  rcases free_or_exists_directory path with hfree | ⟨directory, c, hc, hpath⟩
  · rw [Text.pieces_of_none hfree, basenameChars_eq_self_iff.mpr hfree, List.getLast?_singleton]
  · have hlast : Text.pieces isSeparator (basenameChars path) = [basenameChars path] :=
      Text.pieces_of_none fun _ => not_isSeparator_of_mem_basenameChars
    have hpieces : Text.pieces isSeparator path =
        Text.pieces isSeparator directory ++ [basenameChars path] := by
      rw [← hlast, ← Text.pieces_append_cons hc, ← hpath]
    rw [hpieces, List.getLast?_concat]

/-- What stands in front of a separator has no part in a basename. -/
theorem basenameChars_append_cons {c : Char} (hc : isSeparator c = true)
    (directory name : List Char) :
    basenameChars (directory ++ c :: name) = basenameChars name := by
  have hlast := getLast?_pieces (directory ++ c :: name)
  rw [Text.pieces_append_cons hc, List.getLast?_append, getLast?_pieces name, Option.some_or,
    Option.some.injEq] at hlast
  exact hlast.symm

/-- An end without separators is part of the basename. -/
theorem basenameChars_append_of_free {name : List Char}
    (hname : ∀ c ∈ name, isSeparator c = false) (front : List Char) :
    basenameChars (front ++ name) = basenameChars front ++ name := by
  have hkept : ∀ c ∈ name.reverse, (!isSeparator c) = true := by simpa using hname
  rw [basenameChars, List.reverse_append, List.takeWhile_append_of_pos hkept,
    List.reverse_append, List.reverse_reverse, basenameChars]

/-- The ends of a basename are the ends of the path that hold no separator. -/
theorem suffix_basenameChars_iff {name path : List Char} :
    name <:+ basenameChars path ↔ name <:+ path ∧ ∀ c ∈ name, isSeparator c = false := by
  constructor
  · intro hname
    exact ⟨hname.trans (List.rtakeWhile_suffix _ path),
      fun c hc => not_isSeparator_of_mem_basenameChars (hname.mem hc)⟩
  · rintro ⟨⟨front, rfl⟩, hfree⟩
    rw [basenameChars_append_of_free hfree]
    exact List.suffix_append _ name

/-! ## Texts -/

/-- A text without a slash or a backslash. -/
def IsBare (text : String) : Prop :=
  '/' ∉ text.toList ∧ '\\' ∉ text.toList

/-- A bare text has no separator among its characters. -/
theorem isBare_iff {text : String} :
    IsBare text ↔ ∀ c ∈ text.toList, isSeparator c = false := by
  simp only [IsBare, isSeparator, Bool.or_eq_false_iff, beq_eq_false_iff_ne, ne_eq]
  constructor
  · rintro ⟨hslash, hbackslash⟩ c hc
    exact ⟨fun heq => hslash (heq ▸ hc), fun heq => hbackslash (heq ▸ hc)⟩
  · intro hfree
    exact ⟨fun hslash => (hfree _ hslash).1 rfl, fun hbackslash => (hfree _ hbackslash).2 rfl⟩

/-- Only a bare text is its own basename. -/
theorem basename_eq_self_iff {text : String} : basename text = text ↔ IsBare text := by
  rw [← String.toList_inj, toList_basename, basenameChars_eq_self_iff, isBare_iff]

/-- What comes before a separator makes no difference. -/
theorem basename_append_singleton {c : Char} (hc : isSeparator c = true)
    (directory name : String) :
    basename (directory ++ String.singleton c ++ name) = basename name := by
  rw [← String.toList_inj, toList_basename, toList_basename]
  simpa using basenameChars_append_cons hc directory.toList name.toList

/-- The longest text without a slash or a backslash that a path ends with. -/
structure IsLongestBareEnd (path name : String) : Prop where
  ends : ∃ directory, path = directory ++ name
  bare : IsBare name
  longest : ∀ front other, path = front ++ other → IsBare other → other.length ≤ name.length

/-- The basename is the longest bare end. -/
theorem isLongestBareEnd_basename (path : String) : IsLongestBareEnd path (basename path) := by
  obtain ⟨⟨directory, hpath⟩, hfree⟩ :=
    suffix_basenameChars_iff.mp (List.suffix_refl (basenameChars path.toList))
  refine ⟨⟨String.ofList directory, ?_⟩, ?_, ?_⟩
  · apply String.ext
    rw [String.toList_append, String.toList_ofList, toList_basename, hpath]
  · rw [isBare_iff, toList_basename]
    exact hfree
  · rintro front other rfl hother
    have hend : other.toList <:+ basenameChars (front ++ other).toList := by
      rw [suffix_basenameChars_iff, String.toList_append]
      exact ⟨List.suffix_append _ _, isBare_iff.mp hother⟩
    rw [← String.length_toList, ← String.length_toList, toList_basename]
    exact hend.length_le

/-- A path has only one longest bare end. -/
theorem IsLongestBareEnd.unique {path name name' : String} (hname : IsLongestBareEnd path name)
    (hname' : IsLongestBareEnd path name') : name = name' := by
  obtain ⟨directory, rfl⟩ := hname.ends
  obtain ⟨directory', hpath⟩ := hname'.ends
  -- Neither is longer than the other, and the path has one end of each length.
  have hlength : name.toList.length = name'.toList.length := by
    rw [String.length_toList, String.length_toList]
    exact Nat.le_antisymm (hname'.longest _ _ rfl hname.bare) (hname.longest _ _ hpath hname'.bare)
  have hends := congrArg String.toList hpath
  rw [String.toList_append, String.toList_append] at hends
  exact String.ext (List.append_inj' hends hlength).2

/-- A basename is just what follows the last separator. It is the only longest text without a slash
or a backslash that a path ends with; taking it twice changes nothing; whatever stands in front of a
slash or a backslash, separators included, leaves no trace in it; and it is the path itself just if
there is no separator in the path. -/
theorem basename_longest_end (path : String) :
    (∀ name, IsLongestBareEnd path name ↔ name = basename path) ∧
    basename (basename path) = basename path ∧
    (∀ directory name, basename (directory ++ "/" ++ name) = basename name ∧
      basename (directory ++ "\\" ++ name) = basename name) ∧
    (basename path = path ↔ IsBare path) := by
  have hlongest := isLongestBareEnd_basename path
  refine ⟨fun name => ⟨fun hname => hname.unique hlongest, ?_⟩,
    basename_eq_self_iff.mpr hlongest.bare, fun directory name => ⟨?_, ?_⟩, basename_eq_self_iff⟩
  · rintro rfl
    exact hlongest
  · exact basename_append_singleton (c := '/') rfl directory name
  · exact basename_append_singleton (c := '\\') rfl directory name

example : basename "C:\\home/jane\\patterns.ini" = "patterns.ini" ∧ basename "/var\\log/" = "" := by
  decide

end ScriptFiles
