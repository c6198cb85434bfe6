import ScriptFiles.Proofs.Desktop.Answers

/-!
# Making directories

What calls made of a disk is said place by place, `Disk.Becomes`. Making a directory and all above it
makes what is missing on the way, unless a regular file is there: then the call that meets the file is
the first that could have made anything, and the disk stays as it is.
-/

namespace ScriptFiles.Desktop.Disk

/-- The content of the entry at a place. -/
def contentAt (d : Disk) (place : Place) : Option Content :=
  (d.get? place).map Entry.content

/-- The contents of a disk with all directories down to a place, which make up for missing
entries. -/
def withDirectories (d : Disk) (target place : Place) : Option Content :=
  if d.get? place = none ∧ place <+: target then some .directory else d.contentAt place

/-- The disk that a disk becomes when its contents become others: a tree again, in which an entry has
the time of the clock or the time that it had. -/
structure Becomes (d : Disk) (contents : Place → Option Content) (after : Disk) : Prop where
  tree : after.IsTree
  clock : after.clock = d.clock
  contents : ∀ place, after.contentAt place = contents place
  modified : ∀ place entry, after.get? place = some entry → entry.modified = some d.clock ∨
    ∃ old, d.get? place = some old ∧ old.modified = entry.modified

variable {d mid after : Disk} {root place directory : Place} {path base : Path}
  {names : List String} {last : String} {contents : Place → Option Content}

/-! ## Contents -/

/-- A directory is at a place exactly when it is the content there. -/
theorem hasDirectory_iff_contentAt :
    d.hasDirectory place = true ↔ d.contentAt place = some .directory := by
  simp [hasDirectory_iff, contentAt, Entry.isDirectory]

/-- A file is at a place exactly when some bytes are the content there. -/
theorem hasFile_iff_contentAt :
    d.hasFile place = true ↔ ∃ bytes, d.contentAt place = some (.file bytes) := by
  simp only [hasFile_iff, contentAt, Option.map_eq_some_iff, Entry.isDirectory,
    decide_eq_false_iff_not]
  constructor
  · rintro ⟨entry, hentry, hkind⟩
    cases hcontent : entry.content with
    | file bytes => exact ⟨bytes, entry, hentry, hcontent⟩
    | directory => exact absurd hcontent hkind
  · rintro ⟨bytes, entry, hentry, hcontent⟩
    exact ⟨entry, hentry, by simp [hcontent]⟩

/-- Nothing is at a place exactly when there is no content. -/
theorem get?_eq_none_iff_contentAt : d.get? place = none ↔ d.contentAt place = none := by
  simp [contentAt]

/-- No directory is missing down to one that is there. -/
theorem IsTree.withDirectories_eq (htree : d.IsTree) (h : d.hasDirectory place = true) :
    d.withDirectories place = d.contentAt := by
  funext other
  refine if_neg ?_
  rintro ⟨hnone, more, rfl⟩
  obtain ⟨entry, hentry, -⟩ := hasDirectory_iff.mp (htree.hasDirectory_of_append h)
  rw [hnone] at hentry
  contradiction

/-- Below a place nothing is made up for. -/
theorem withDirectories_of_longer (d : Disk) (place : Place) (last : String) :
    d.withDirectories place (place ++ [last]) = d.contentAt (place ++ [last]) := by
  refine if_neg fun hboth => ?_
  have hlength := hboth.2.length_le
  rw [List.length_append, List.length_singleton] at hlength
  omega

/-- A further directory is at its own place only. -/
theorem withDirectories_concat_of_ne {other : Place} (hne : other ≠ place ++ [last]) :
    d.withDirectories (place ++ [last]) other = d.withDirectories place other := by
  simp only [withDirectories, List.prefix_concat_iff, hne, false_or]

/-- One more directory. -/
theorem update_withDirectories (hnone : d.get? (place ++ [last]) = none) :
    Function.update (d.withDirectories place) (place ++ [last]) (some .directory) =
      d.withDirectories (place ++ [last]) := by
  funext other
  by_cases hnew : other = place ++ [last]
  · rw [hnew, Function.update_self, withDirectories, if_pos ⟨hnone, List.prefix_rfl⟩]
  · rw [Function.update_of_ne hnew, withDirectories_concat_of_ne hnew]

/-! ## Changes -/

/-- Where a directory is there, none is missing on the way to it. -/
theorem Becomes.ofDirectory (htree : d.IsTree) (h : d.hasDirectory place = true) :
    d.Becomes (d.withDirectories place) d := by
  rw [htree.withDirectories_eq h]
  exact ⟨htree, rfl, fun _ => rfl, fun _ entry hentry => .inr ⟨entry, hentry, rfl⟩⟩

/-- A new entry in a directory, at the time of the clock. -/
theorem Becomes.put (h : d.Becomes contents mid) (content : Content)
    (hdirectory : mid.hasDirectory directory = true)
    (hfree : mid.hasDirectory (directory ++ [last]) = false) :
    d.Becomes (Function.update contents (directory ++ [last]) (some content))
      (mid.put (directory ++ [last]) ⟨content, some mid.clock⟩) := by
  refine ⟨h.tree.put _ _ _ hdirectory hfree, h.clock, fun other => ?_, fun other entry hentry => ?_⟩
  · rw [contentAt, get?_put, Function.update_apply]
    by_cases hnew : other = directory ++ [last]
    · rw [if_pos hnew, if_pos hnew, Option.map_some]
    · rw [if_neg hnew, if_neg hnew]
      exact h.contents other
  · rw [get?_put] at hentry
    split at hentry
    · exact .inl (by rw [← Option.some.inj hentry, h.clock])
    · exact h.modified other entry hentry

/-- The time of the clock for an entry. -/
theorem Becomes.stamp (h : d.Becomes contents mid) (place : Place) :
    d.Becomes contents (mid.stamp place) := by
  refine ⟨h.tree.setTime place mid.clock, h.clock, fun other => ?_, fun other entry hentry => ?_⟩
  · rw [← h.contents other, contentAt, Disk.stamp, get?_setTime, Option.map_map, contentAt]
    congr 1
    funext entry
    by_cases hsame : other = place <;> simp [hsame]
  · rw [Disk.stamp, get?_setTime, Option.map_eq_some_iff] at hentry
    obtain ⟨found, hfound, rfl⟩ := hentry
    split
    · exact .inl (by rw [h.clock])
    · exact h.modified other found hfound

/-- A base directory stays one as long as directories do. -/
theorem HasBase.mono (h : d.HasBase base root) (htree : after.IsTree)
    (hkept : ∀ place, d.hasDirectory place = true → after.hasDirectory place = true) :
    after.HasBase base root :=
  ⟨htree, h.noNul, walk_mono hkept h.leads⟩

/-- Making directories takes no directory away. -/
theorem Becomes.hasDirectory_of_withDirectories {target : Place}
    (h : d.Becomes (d.withDirectories target) after) (hplace : d.hasDirectory place = true) :
    after.hasDirectory place = true := by
  rw [hasDirectory_iff_contentAt, h.contents, withDirectories]
  split
  · rfl
  · exact hasDirectory_iff_contentAt.mp hplace

/-- With no regular file in the way the way is one of directories then. -/
theorem Becomes.hasDirectory_of_free (h : d.Becomes (d.withDirectories (root ++ names)) after)
    (hfree : ¬ d.Obstructed root names) : after.hasDirectory (root ++ names) = true := by
  by_cases hthere : d.hasDirectory (root ++ names) = true
  · exact h.hasDirectory_of_withDirectories hthere
  · have hfile : ¬ d.hasFile (root ++ names) = true := fun hfile =>
      hfree ⟨names, (List.mem_inits _ _).mpr List.prefix_rfl, hfile⟩
    rw [hasDirectory_iff_contentAt, h.contents, withDirectories,
      if_pos ⟨get?_eq_none_of_not hthere hfile, List.prefix_rfl⟩]

/-! ## The calls -/

/-- A change at a path without a NUL reaches the disk. -/
theorem change_of_passes (h : path.Passes) (act : Disk → Except Errno Disk) :
    change [path] act d =
      match act d with
      | .ok after => (.ok (), after)
      | .error e => (.error (.errno e), d) := by
  rw [change, List.any_cons, h.noNul]
  cases act d <;> rfl

/-- The system makes a directory as the disk does. -/
theorem system_makeDirectory (h : path.Passes) :
    system.makeDirectory path d =
      match d.makeDirectory path with
      | .ok after => (.ok (), after)
      | .error e => (.error (.errno e), d) :=
  change_of_passes h (·.makeDirectory path)

/-- A directory that cannot be made is forgiven if it is there. -/
theorem system_forgiven (h : path.Passes) (cause : IoCause) :
    system.forgiven path cause d =
      if (d.existing path).toOption.any fun found => found.2.isDirectory then (.ok (), d)
      else (.error cause, d) := by
  simp only [System.forgiven, System.isDirectory, system, query_of_passes h, metadata]
  cases d.existing path with
  | error e => rfl
  | ok found =>
    simp only [bind, Except.bind, pure, Except.pure, Except.mapError, Except.toOption,
      Option.any_some]
    by_cases hkind : found.2.isDirectory = true <;> simp [hkind]

/-- A path of directories cannot be made once more. -/
theorem LeadsTo.makeDirectory (htree : d.IsTree) (h : d.LeadsTo path place)
    (hshort : path.text.utf8ByteSize < pathLimit) :
    d.makeDirectory path = .error .alreadyExists := by
  obtain ⟨l, hlocate, -, hentryAt⟩ := h.locate hshort
  obtain ⟨entry, hentry, -⟩ := hasDirectory_iff.mp (h.hasDirectory htree)
  simp only [Disk.makeDirectory, hlocate, bind, Except.bind]
  cases hending : l.ending with
  | name name =>
    rw [entryAt, hending, hentry] at hentryAt
    simp only at hentryAt ⊢
    rw [hentryAt]
  | root | here | up => rfl

/-- Nothing happens to directories that are there. -/
theorem LeadsTo.makeDirectories (htree : d.IsTree) (h : d.LeadsTo path place)
    (hpasses : path.Passes) : system.makeDirectories path d = (.ok (), d) := by
  obtain ⟨entry, hexisting, hdirectory⟩ := h.existing htree hpasses.short
  have hnotFound : isNotFound (.errno .alreadyExists) = false := by decide
  rw [System.makeDirectories, Path.lineage, System.makeLineage, system_makeDirectory hpasses,
    h.makeDirectory htree hpasses.short]
  simp only [hnotFound, Bool.false_eq_true, if_false, system_forgiven hpasses, hexisting,
    Except.toOption, Option.any_some, hdirectory, if_true]

/-- Making a directory below the base needs the directory it lies in and a free place. -/
theorem makeDirectory_below (hbase : d.HasBase base root)
    (hordinary : ∀ name ∈ names ++ [last], IsOrdinary name)
    (hpasses : (base.below (names ++ [last])).Passes) :
    d.makeDirectory (base.below (names ++ [last])) =
      if d.hasDirectory (root ++ names) then
        match d.get? (root ++ (names ++ [last])) with
        | none => .ok ((d.put (root ++ names ++ [last]) ⟨.directory, some d.clock⟩).stamp
            (root ++ names))
        | some _ => .error .alreadyExists
      else .error (if d.Obstructed root names then .notDirectory else .noEntry) := by
  rw [makeDirectory, locate_below hbase.tree hbase.leads hordinary hpasses.short]
  by_cases hdirectory : d.hasDirectory (root ++ names) = true
  · rw [if_pos hdirectory, if_pos hdirectory]
    cases hentry : d.get? (root ++ (names ++ [last])) <;>
      simp only [bind, Except.bind, lookUp_below hordinary, hentry, Location.place]
  · simp only [if_neg hdirectory, bind, Except.bind]

/-- Where no directory is below the base, a failure to make one is not forgiven. -/
theorem forgiven_below (hbase : d.HasBase base root)
    (hordinary : ∀ name ∈ names ++ [last], IsOrdinary name)
    (hpasses : (base.below (names ++ [last])).Passes)
    (hnot : d.hasDirectory (root ++ (names ++ [last])) = false) (cause : IoCause) :
    system.forgiven (base.below (names ++ [last])) cause d = (.error cause, d) := by
  rw [system_forgiven hpasses, existing_below hbase.tree hbase.leads hordinary hpasses.short]
  refine if_neg ?_
  cases hentry : d.get? (root ++ (names ++ [last])) with
  | none => simp [Except.toOption]
  | some entry =>
    rw [hasDirectory, hentry, Option.any_some] at hnot
    simp [Except.toOption, hnot]

/-- Making a directory in one that is there. -/
theorem Becomes.makeDirectory (hbase : mid.HasBase base root)
    (hordinary : ∀ name ∈ names ++ [last], IsOrdinary name)
    (hpasses : (base.below (names ++ [last])).Passes)
    (h : d.Becomes (d.withDirectories (root ++ names)) mid)
    (hdirectory : mid.hasDirectory (root ++ names) = true)
    (hnone : d.get? (root ++ (names ++ [last])) = none) :
    ∃ after, system.makeDirectory (base.below (names ++ [last])) mid = (.ok (), after) ∧
      d.Becomes (d.withDirectories (root ++ (names ++ [last]))) after := by
  rw [← List.append_assoc] at hnone ⊢
  have habsent : mid.get? (root ++ names ++ [last]) = none := by
    rw [get?_eq_none_iff_contentAt, h.contents, withDirectories_of_longer,
      ← get?_eq_none_iff_contentAt]
    exact hnone
  have hfree : mid.hasDirectory (root ++ names ++ [last]) = false := by
    rw [hasDirectory, habsent, Option.any_none]
  refine ⟨(mid.put (root ++ names ++ [last]) ⟨.directory, some mid.clock⟩).stamp (root ++ names),
    ?_, ?_⟩
  · rw [system_makeDirectory hpasses, makeDirectory_below hbase hordinary hpasses,
      if_pos hdirectory, ← List.append_assoc, habsent]
  · rw [← update_withDirectories hnone]
    exact (h.put .directory hdirectory hfree).stamp _

/-! ## All directories on a way -/

/-- A regular file in the way is met by the first call, before anything is made. -/
theorem makeDirectories_of_obstructed (hbase : d.HasBase base root)
    (hordinary : ∀ name ∈ names, IsOrdinary name) (hpasses : (base.below names).Passes)
    (hway : d.Obstructed root names) :
    ∃ cause, system.makeDirectories (base.below names).trimmed d = (.error cause, d) := by
  rcases List.eq_nil_or_concat names with rfl | ⟨front, last, rfl⟩
  · have hroot : d.hasDirectory (root ++ []) = true := by
      rw [List.append_nil]
      exact hbase.leads.hasDirectory hbase.tree
    exact absurd hway (hbase.tree.not_obstructed hroot)
  rw [List.concat_eq_append] at hordinary hpasses hway ⊢
  have hlast : IsOrdinary last := hordinary last (by simp)
  have hnot : d.hasDirectory (root ++ (front ++ [last])) = false :=
    Bool.eq_false_iff.mpr fun hthere => hbase.tree.not_obstructed hthere hway
  have hmake : ∃ e, d.makeDirectory (base.below (front ++ [last])) = .error e ∧
      isNotFound (.errno e) = false := by
    rw [makeDirectory_below hbase hordinary hpasses]
    by_cases hparent : d.hasDirectory (root ++ front) = true
    · have hfile : d.hasFile (root ++ (front ++ [last])) = true :=
        (obstructed_concat.mp hway).resolve_left (hbase.tree.not_obstructed hparent)
      obtain ⟨entry, hentry, -⟩ := hasFile_iff.mp hfile
      exact ⟨.alreadyExists, by rw [if_pos hparent, hentry], by decide⟩
    · rw [obstructed_concat_of_none (hbase.tree.get?_eq_none hparent)] at hway
      exact ⟨.notDirectory, by rw [if_neg hparent, if_pos hway], by decide⟩
  obtain ⟨e, hfailed, hnotFound⟩ := hmake
  refine ⟨.errno e, ?_⟩
  rw [Path.trimmed_below hlast, System.makeDirectories, Path.lineage_below hlast,
    System.makeLineage, system_makeDirectory hpasses, hfailed]
  simp only [hnotFound, Bool.false_eq_true, if_false, forgiven_below hbase hordinary hpasses hnot]

/-- With no regular file in the way all missing directories are made. -/
theorem makeDirectories_of_free (hbase : d.HasBase base root)
    (hordinary : ∀ name ∈ names, IsOrdinary name) (hpasses : (base.below names).Passes)
    (hfree : ¬ d.Obstructed root names) :
    ∃ after, system.makeDirectories (base.below names).trimmed d = (.ok (), after) ∧
      d.Becomes (d.withDirectories (root ++ names)) after := by
  by_cases hthere : d.hasDirectory (root ++ names) = true
  · have hleads := (hbase.leads.below hbase.tree hordinary hthere).trimmed
    exact ⟨d, hleads.makeDirectories hbase.tree hpasses.trimmed, .ofDirectory hbase.tree hthere⟩
  -- A directory is made after those above it, so the induction takes names off at the end.
  induction names using List.reverseRecOn with
  | nil =>
    rw [List.append_nil] at hthere
    exact absurd (hbase.leads.hasDirectory hbase.tree) hthere
  | append_singleton names last ih =>
    have hlast : IsOrdinary last := hordinary last (by simp)
    obtain ⟨hway, hfile⟩ := not_or.mp (mt obstructed_concat.mpr hfree)
    have hnone : d.get? (root ++ (names ++ [last])) = none := get?_eq_none_of_not hthere hfile
    rw [Path.trimmed_below hlast, System.makeDirectories, Path.lineage_below hlast,
      System.makeLineage]
    by_cases hparent : d.hasDirectory (root ++ names) = true
    · obtain ⟨after, hmade, hbecomes⟩ := (Becomes.ofDirectory hbase.tree hparent).makeDirectory
        hbase hordinary hpasses hparent hnone
      exact ⟨after, by rw [hmade], hbecomes⟩
    · obtain ⟨mid, habove, hmid⟩ := ih
        (fun name hname => hordinary name (List.mem_append_left _ hname)) hpasses.below hway hparent
      have hdirectory := hmid.hasDirectory_of_free hway
      have hmidBase := hbase.mono hmid.tree fun _ => hmid.hasDirectory_of_withDirectories
      obtain ⟨after, hmade, hbecomes⟩ :=
        hmid.makeDirectory hmidBase hordinary hpasses hdirectory hnone
      have hnotFound : isNotFound (.errno .noEntry) = true := by decide
      refine ⟨after, ?_, hbecomes⟩
      rw [System.makeDirectories] at habove
      rw [system_makeDirectory hpasses, makeDirectory_below hbase hordinary hpasses,
        if_neg hparent, if_neg hway]
      simp only [hnotFound, if_true, habove, hmade]

end ScriptFiles.Desktop.Disk
