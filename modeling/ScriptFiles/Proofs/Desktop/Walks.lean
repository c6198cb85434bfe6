import ScriptFiles.Proofs.Desktop.RelativePaths
import ScriptFiles.Proofs.Desktop.Trees

/-!
# Where paths lead

A path of directories leads to the last of them, `Disk.LeadsTo`, and the names of a relative path
lead on from there. In a tree there are three ways for that to go, `Disk.walk_ordinary`: all names
are directories, a regular file is in the way, or something is missing.
-/

namespace ScriptFiles.Desktop.Disk

/-- A path whose names are directories leads to the last of them. -/
def LeadsTo (d : Disk) (path : Path) (place : Place) : Prop :=
  d.walk [] (path.names.filter (· != "")) = .ok place

variable {d : Disk} {place root : Place} {path base : Path} {names : List String} {last : String}

/-! ## Walking -/

/-- A walk can be broken off anywhere and gone on with. -/
theorem walk_append (front rest : List String) :
    d.walk place (front ++ rest) = (d.walk place front).bind (d.walk · rest) := by
  induction front generalizing place with
  | nil => rfl
  | cons name front ih =>
    rw [List.cons_append, walk, walk]
    cases d.enter place name with
    | ok next => exact ih
    | error e => rfl

/-- The last step of a walk. -/
theorem walk_concat {target : Place} {name : String} :
    d.walk place (names ++ [name]) = .ok target ↔
      ∃ next, d.walk place names = .ok next ∧ d.enter next name = .ok target := by
  rw [walk_append]
  cases d.walk place names with
  | error e => simp [Except.bind]
  | ok next =>
    simp only [Except.bind, walk, Except.ok.injEq, exists_eq_left']
    cases d.enter next name <;> simp

/-- A name that is not too long is looked up where it is. -/
theorem lookUp_of_short {name : String} (hshort : name.utf8ByteSize ≤ nameLimit) :
    d.lookUp place name = .ok (d.get? (place ++ [name])) :=
  if_neg (Nat.not_lt.mpr hshort)

/-- An ordinary name enters the directory of that name, if there is one. -/
theorem enter_name {name : String} (hhere : name ≠ ".") (hup : name ≠ "..")
    (hshort : name.utf8ByteSize ≤ nameLimit) :
    d.enter place name =
      if d.hasDirectory (place ++ [name]) then .ok (place ++ [name])
      else if d.hasFile (place ++ [name]) then .error .notDirectory
      else .error .noEntry := by
  rw [enter, if_neg hhere, if_neg hup, lookUp_of_short hshort]
  cases hentry : d.get? (place ++ [name]) with
  | none => simp [hasDirectory, hasFile, hentry]
  | some entry => cases hkind : entry.isDirectory <;> simp [hasDirectory, hasFile, hentry, hkind]

/-- What a step of a walk can be. -/
theorem enter_cases {target : Place} {name : String} (h : d.enter place name = .ok target) :
    (name = "." ∧ target = place) ∨ (name = ".." ∧ target = place.dropLast) ∨
      (name ≠ "." ∧ name ≠ ".." ∧ name.utf8ByteSize ≤ nameLimit ∧ target = place ++ [name] ∧
        d.hasDirectory (place ++ [name]) = true) := by
  by_cases hhere : name = "."
  · rw [enter, if_pos hhere] at h
    exact .inl ⟨hhere, (Except.ok.inj h).symm⟩
  by_cases hup : name = ".."
  · rw [enter, if_neg hhere, if_pos hup] at h
    exact .inr (.inl ⟨hup, (Except.ok.inj h).symm⟩)
  by_cases hshort : name.utf8ByteSize ≤ nameLimit
  · rw [enter_name hhere hup hshort] at h
    by_cases hdirectory : d.hasDirectory (place ++ [name]) = true
    · rw [if_pos hdirectory] at h
      exact .inr (.inr ⟨hhere, hup, hshort, (Except.ok.inj h).symm, hdirectory⟩)
    · rw [if_neg hdirectory] at h
      split at h <;> contradiction
  · rw [enter, if_neg hhere, if_neg hup, lookUp, if_pos (Nat.lt_of_not_le hshort)] at h
    contradiction

/-- From a directory one only gets to directories. -/
theorem IsTree.hasDirectory_of_walk (htree : d.IsTree) {target : Place}
    (hplace : d.hasDirectory place = true) (hwalk : d.walk place names = .ok target) :
    d.hasDirectory target = true := by
  induction names generalizing place with
  | nil => exact Except.ok.inj hwalk ▸ hplace
  | cons name rest ih =>
    rw [walk] at hwalk
    split at hwalk
    · next next henter =>
      refine ih ?_ hwalk
      obtain ⟨-, rfl⟩ | ⟨-, rfl⟩ | ⟨-, -, -, rfl, hdirectory⟩ := enter_cases henter
      · exact hplace
      · rcases List.eq_nil_or_concat place with rfl | ⟨front, last, rfl⟩
        · exact hplace
        · rw [List.concat_eq_append] at hplace ⊢
          rw [List.dropLast_concat]
          exact htree.hasDirectory_of_append hplace
      · exact hdirectory
    · contradiction

/-- More directories leave the ways there are. -/
theorem walk_mono {after : Disk} {target : Place}
    (hkept : ∀ place, d.hasDirectory place = true → after.hasDirectory place = true)
    (hwalk : d.walk place names = .ok target) : after.walk place names = .ok target := by
  induction names generalizing place with
  | nil => exact hwalk
  | cons name rest ih =>
    rw [walk] at hwalk ⊢
    split at hwalk
    · next next henter =>
      have hafter : after.enter place name = .ok next := by
        obtain ⟨rfl, rfl⟩ | ⟨rfl, rfl⟩ | ⟨hhere, hup, hshort, rfl, hdirectory⟩ :=
          enter_cases henter
        · rfl
        · rfl
        · rw [enter_name hhere hup hshort, if_pos (hkept _ hdirectory)]
      rw [hafter]
      exact ih hwalk
    · contradiction

/-- Ordinary names lead to a directory, against a regular file, or to nothing. -/
theorem walk_ordinary (htree : d.IsTree) (hplace : d.hasDirectory place = true)
    (hordinary : ∀ name ∈ names, IsOrdinary name) :
    d.walk place names =
      if d.hasDirectory (place ++ names) then .ok (place ++ names)
      else if d.Obstructed place names then .error .notDirectory
      else .error .noEntry := by
  induction names generalizing place with
  | nil => rw [walk, List.append_nil, if_pos hplace]
  | cons name rest ih =>
    obtain ⟨hname, hrest⟩ := List.forall_mem_cons.mp hordinary
    have hcons : place ++ name :: rest = (place ++ [name]) ++ rest := by simp
    have hway : d.Obstructed place (name :: rest) ↔ d.Obstructed (place ++ [name]) rest := by
      rw [obstructed_cons, hasFile_of_hasDirectory hplace]
      simp
    rw [walk, enter_name hname.notHere hname.notUp hname.short, hcons]
    by_cases hdirectory : d.hasDirectory (place ++ [name]) = true
    · rw [if_pos hdirectory]
      simp only [hway]
      exact ih hdirectory hrest
    · have hnot : d.hasDirectory ((place ++ [name]) ++ rest) ≠ true := fun h =>
        hdirectory (htree.hasDirectory_of_append h)
      rw [if_neg hdirectory, if_neg hnot]
      by_cases hfile : d.hasFile (place ++ [name]) = true
      · have hin : d.Obstructed (place ++ [name]) rest :=
          ⟨[], (List.mem_inits _ _).mpr List.nil_prefix, by simpa using hfile⟩
        rw [if_pos hfile, if_pos (hway.mpr hin)]
      · -- With nothing at a place, nothing is below it.
        have hout : ¬ d.Obstructed (place ++ [name]) rest := by
          rintro ⟨upper, -, hupper⟩
          by_cases hnil : upper = []
          · exact hfile (by simpa [hnil] using hupper)
          · obtain ⟨entry, hentry, -⟩ := hasFile_iff.mp hupper
            exact hdirectory (htree.hasDirectory_above hnil (by rw [hentry, Option.isSome_some]))
        rw [if_neg hfile, if_neg (mt hway.mp hout)]

/-! ## Paths of directories -/

/-- A path leads to directories only. -/
theorem LeadsTo.hasDirectory (htree : d.IsTree) (h : d.LeadsTo path place) :
    d.hasDirectory place = true :=
  htree.hasDirectory_of_walk htree.root h

/-- Idle names at the end lead nowhere else. -/
theorem LeadsTo.trimmed (h : d.LeadsTo path place) : d.LeadsTo path.trimmed place := by
  obtain ⟨names⟩ := path
  unfold LeadsTo Path.trimmed at *
  dsimp only at *
  induction names using List.reverseRecOn with
  | nil => exact h
  | append_singleton front name ih =>
    by_cases hidle : Path.isIdle name
    · rw [List.rdropWhile_concat_pos _ _ _ hidle]
      refine ih ?_
      rw [List.filter_append] at h
      rcases Bool.or_eq_true_iff.mp hidle with hempty | hhere
      · rwa [List.filter_singleton, bne, hempty, Bool.not_true, cond_false, List.append_nil] at h
      · obtain rfl := beq_iff_eq.mp hhere
        obtain ⟨next, hwalk, henter⟩ := walk_concat.mp h
        rw [hwalk]
        exact henter
    · rwa [List.rdropWhile_concat_neg _ _ _ hidle]

/-- An open path has the same names, but for empty ones. -/
theorem filter_openNames (base : Path) :
    base.openNames.filter (· != "") = base.names.filter (· != "") := by
  unfold Path.openNames
  split
  · next hlast =>
    conv_rhs => rw [← List.dropLast_append_getLast? "" hlast]
    simp
  · rfl

/-- No ordinary name is empty. -/
theorem filter_ordinary (hordinary : ∀ name ∈ names, IsOrdinary name) :
    names.filter (· != "") = names :=
  List.filter_eq_self.mpr fun name hname => bne_iff_ne.mpr (hordinary name hname).nonempty

/-- Names that are directories lead on from a base directory. -/
theorem LeadsTo.below (htree : d.IsTree) (hbase : d.LeadsTo base root)
    (hordinary : ∀ name ∈ names, IsOrdinary name)
    (hnames : d.hasDirectory (root ++ names) = true) :
    d.LeadsTo (base.below names) (root ++ names) := by
  have hroot := LeadsTo.hasDirectory htree hbase
  rw [LeadsTo, Path.below, List.filter_append, filter_openNames, filter_ordinary hordinary,
    walk_append, hbase, Except.bind, walk_ordinary htree hroot hordinary, if_pos hnames]

/-- A path of directories is located at the last of them, whatever its last name is. -/
theorem LeadsTo.locate (h : d.LeadsTo path place)
    (hshort : path.text.utf8ByteSize < pathLimit) :
    ∃ l, d.locate path = .ok l ∧ l.place = place ∧ d.entryAt l = .ok (d.get? place) := by
  rw [Disk.locate, if_neg (Nat.not_le.mpr hshort)]
  unfold LeadsTo at h
  rcases List.eq_nil_or_concat (path.names.filter (· != "")) with hnil | ⟨front, name, hconcat⟩
  · rw [hnil, walk] at h
    obtain rfl := Except.ok.inj h
    exact ⟨⟨[], .root, true⟩, by simp [hnil], rfl, rfl⟩
  · rw [List.concat_eq_append] at hconcat
    rw [hconcat] at h ⊢
    obtain ⟨directory, hwalk, henter⟩ := walk_concat.mp h
    refine ⟨⟨directory, .ofName name, path.names.getLast? = some ""⟩, by simp [hwalk], ?_⟩
    obtain ⟨rfl, rfl⟩ | ⟨rfl, rfl⟩ | ⟨hhere, hup, hlength, rfl, -⟩ := enter_cases henter
    · exact ⟨rfl, rfl⟩
    · exact ⟨rfl, rfl⟩
    · have hending : Ending.ofName name = .name name := by
        rw [Ending.ofName, if_neg hhere, if_neg hup]
      simp only [hending, Location.place, entryAt, lookUp_of_short hlength, and_self]

/-- A path of directories names the last of them. -/
theorem LeadsTo.existing (htree : d.IsTree) (h : d.LeadsTo path place)
    (hshort : path.text.utf8ByteSize < pathLimit) :
    ∃ entry, d.existing path = .ok (place, entry) ∧ entry.isDirectory = true := by
  obtain ⟨l, hlocate, hplace, hentryAt⟩ := h.locate hshort
  obtain ⟨entry, hentry, hdirectory⟩ := hasDirectory_iff.mp (h.hasDirectory htree)
  refine ⟨entry, ?_, hdirectory⟩
  simp [Disk.existing, hlocate, hentryAt, hentry, hplace, hdirectory, bind, Except.bind]

/-! ## Relative paths -/

/-- A relative path is located in the directory that all its names but the last lead to. -/
theorem locate_below (htree : d.IsTree) (hbase : d.LeadsTo base root)
    (hordinary : ∀ name ∈ names ++ [last], IsOrdinary name)
    (hshort : (base.below (names ++ [last])).text.utf8ByteSize < pathLimit) :
    d.locate (base.below (names ++ [last])) =
      if d.hasDirectory (root ++ names) then .ok ⟨root ++ names, .name last, false⟩
      else .error (if d.Obstructed root names then .notDirectory else .noEntry) := by
  have hlast : IsOrdinary last := hordinary last (by simp)
  have hfront : ∀ name ∈ names, IsOrdinary name := fun name hname =>
    hordinary name (List.mem_append_left _ hname)
  have hnames : (base.below (names ++ [last])).names.filter (· != "") =
      (base.names.filter (· != "") ++ names) ++ [last] := by
    rw [Path.below, List.filter_append, filter_openNames, filter_ordinary hordinary,
      List.append_assoc]
  have hending : Ending.ofName last = .name last := by
    rw [Ending.ofName, if_neg hlast.notHere, if_neg hlast.notUp]
  have hslash : (base.below (names ++ [last])).names.getLast? ≠ some "" := by
    simp [Path.below, hlast.nonempty]
  have hwalk := walk_ordinary htree (LeadsTo.hasDirectory htree hbase) hfront
  unfold LeadsTo at hbase
  simp only [Disk.locate, if_neg (Nat.not_le.mpr hshort), hnames, List.getLast?_concat,
    List.dropLast_concat, walk_append, hbase, Except.bind, hending, hslash, hwalk]
  by_cases hdirectory : d.hasDirectory (root ++ names) = true
  · simp [hdirectory]
  · by_cases hway : d.Obstructed root names <;> simp [hdirectory, hway]

/-- Below the base, the last of ordinary names is looked up at its own place. -/
theorem lookUp_below (hordinary : ∀ name ∈ names ++ [last], IsOrdinary name) :
    d.lookUp (root ++ names) last = .ok (d.get? (root ++ (names ++ [last]))) := by
  rw [lookUp_of_short (hordinary last (by simp)).short, List.append_assoc]

/-- The entry of a relative path, and the reason why there is none. -/
theorem existing_below (htree : d.IsTree) (hbase : d.LeadsTo base root)
    (hordinary : ∀ name ∈ names ++ [last], IsOrdinary name)
    (hshort : (base.below (names ++ [last])).text.utf8ByteSize < pathLimit) :
    d.existing (base.below (names ++ [last])) =
      match d.get? (root ++ (names ++ [last])) with
      | some entry => .ok (root ++ (names ++ [last]), entry)
      | none => .error (if d.Obstructed root names then .notDirectory else .noEntry) := by
  rw [Disk.existing, locate_below htree hbase hordinary hshort]
  by_cases hdirectory : d.hasDirectory (root ++ names) = true
  · rw [if_pos hdirectory]
    simp only [bind, Except.bind, entryAt, lookUp_below hordinary, Location.place,
      List.append_assoc, Bool.false_and, Bool.false_eq_true, if_false,
      if_neg (htree.not_obstructed hdirectory)]
    cases d.get? (root ++ (names ++ [last])) <;> rfl
  · have hnone : d.get? (root ++ (names ++ [last])) = none := by
      rw [← List.append_assoc]
      exact htree.get?_eq_none hdirectory
    rw [if_neg hdirectory, hnone]
    rfl

end ScriptFiles.Desktop.Disk
