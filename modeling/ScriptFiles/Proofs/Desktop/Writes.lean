import ScriptFiles.Proofs.Desktop.Directories

/-!
# Writing files

A write first makes the directories above the file, then the file. It succeeds unless a regular file
is above or a directory is in its place, and then the new disk is the old one with the missing
directories and the file: what is read and told elsewhere stays, but for times. A write that fails
leaves the disk as it was, as it fails before it could have changed anything.
-/

namespace ScriptFiles.Desktop

/-- The contents of a disk with a file written at a place, and with the directories above it. -/
def Disk.withFile (d : Disk) (target : Place) (data : Bytes) (place : Place) : Option Content :=
  if place = target then some (.file data) else d.withDirectories target place

/-- A result without the time in it. -/
def NativeResult.timeless : NativeResult → NativeResult
  | .ok (.status status) => .ok (.status { status with lastModified := 0 })
  | result => result

variable {δ : Type} (dates : Dates δ) {d after : Disk} {base : Path} {root : Place}
  {p q : RelativePath} {data : Bytes}

namespace Disk

variable {mid : Disk} {names : List String} {last : String}

/-! ## The file itself -/

/-- The system writes a file as the disk does. -/
theorem system_writeFile {path : Path} (h : path.Passes) :
    system.writeFile path data d =
      match d.writeFile path data with
      | .ok after => (.ok (), after)
      | .error e => (.error (.errno e), d) :=
  change_of_passes h (·.writeFile path data)

/-- What writing a file does in a directory that is there. -/
theorem writeFile_below (hbase : d.HasBase base root)
    (hordinary : ∀ name ∈ names ++ [last], IsOrdinary name)
    (hpasses : (base.below (names ++ [last])).Passes)
    (hdirectory : d.hasDirectory (root ++ names) = true) :
    d.writeFile (base.below (names ++ [last])) data =
      match d.get? (root ++ names ++ [last]) with
      | none => .ok ((d.put (root ++ names ++ [last]) ⟨.file data, some d.clock⟩).stamp
          (root ++ names))
      | some entry =>
        if entry.isDirectory then .error .isDirectory
        else .ok (d.put (root ++ names ++ [last]) ⟨.file data, some d.clock⟩) := by
  rw [writeFile, locate_below hbase.tree hbase.leads hordinary hpasses.short, if_pos hdirectory]
  simp only [bind, Except.bind, lookUp_below hordinary, Location.place, ← List.append_assoc]
  cases d.get? (root ++ names ++ [last]) <;> rfl

/-- The file over the directories above it. -/
theorem update_withDirectories_file (d : Disk) (place : Place) :
    Function.update (d.withDirectories place) (place ++ [last]) (some (.file data)) =
      d.withFile (place ++ [last]) data := by
  funext other
  by_cases hnew : other = place ++ [last]
  · rw [hnew, Function.update_self, withFile, if_pos rfl]
  · rw [Function.update_of_ne hnew, withFile, if_neg hnew, withDirectories_concat_of_ne hnew]

/-- Writing a file in a directory that is there, where there is no directory. -/
theorem Becomes.writeFile (data : Bytes) (hbase : mid.HasBase base root)
    (hordinary : ∀ name ∈ names ++ [last], IsOrdinary name)
    (hpasses : (base.below (names ++ [last])).Passes)
    (h : d.Becomes (d.withDirectories (root ++ names)) mid)
    (hdirectory : mid.hasDirectory (root ++ names) = true)
    (hfree : d.hasDirectory (root ++ names ++ [last]) = false) :
    ∃ after, system.writeFile (base.below (names ++ [last])) data mid = (.ok (), after) ∧
      d.Becomes (d.withFile (root ++ names ++ [last]) data) after ∧
      after.get? (root ++ names ++ [last]) = some ⟨.file data, some d.clock⟩ := by
  have hmid : mid.hasDirectory (root ++ names ++ [last]) = false := by
    rw [Bool.eq_false_iff, ne_eq, hasDirectory_iff_contentAt, h.contents,
      withDirectories_of_longer, ← hasDirectory_iff_contentAt, hfree]
    exact Bool.false_ne_true
  have hput := h.put (.file data) hdirectory hmid
  have hfile := get?_put_self mid (root ++ names ++ [last]) ⟨.file data, some mid.clock⟩
  rw [update_withDirectories_file] at hput
  rw [h.clock] at hput hfile
  rw [system_writeFile hpasses, writeFile_below hbase hordinary hpasses hdirectory]
  cases hentry : mid.get? (root ++ names ++ [last]) with
  | none =>
    refine ⟨_, rfl, ?_, ?_⟩
    · rw [h.clock]
      exact hput.stamp _
    · rw [h.clock, Disk.stamp, get?_setTime, hfile]
      simp
  | some entry =>
    rw [hasDirectory, hentry, Option.any_some] at hmid
    simp only [hmid, Bool.false_eq_true, if_false, h.clock]
    exact ⟨_, rfl, hput, hfile⟩

end Disk

/-! ## A whole write -/

/-- What a write gives and the disk after it. -/
def writeResult (base : Path) (p : RelativePath) (data : Bytes) (d : Disk) :
    Option NativeResult × Disk :=
  let (service, after) := Disk.system.serveWrite base p.text data d
  (service.result, after)

/-- The directory of a path below the base is that of its names but the last. -/
theorem parent?_resolve (base : Path) (p : RelativePath) :
    (base.resolve p.text).parent? = some (base.below p.above).trimmed := by
  rw [Path.resolve_text, Path.parent?_below (p.ordinary p.last (by simp))]

/-- A write fails with the directories above the file. -/
theorem writeResult_of_error {cause : IoCause} (data : Bytes)
    (h : Disk.system.makeDirectories (base.below p.above).trimmed d =
      (.error cause, after)) :
    writeResult base p data d = (some (.failed (.io p.text cause)), after) := by
  simp only [writeResult, System.serveWrite, System.makeRoom, parent?_resolve, h]
  rfl

/-- With the directories above the file there, a write ends as the call for the file. -/
theorem writeResult_of_ok (data : Bytes)
    (h : Disk.system.makeDirectories (base.below p.above).trimmed d = (.ok (), after)) :
    writeResult base p data d =
      (Disk.system.writeFile (base.resolve p.text) data after).map
        (some <| resultOf p.text (fun _ => .done) ·) id := by
  simp only [writeResult, System.serveWrite, System.makeRoom, parent?_resolve, h]
  rfl

/-- A write with a regular file above its place fails and leaves the disk as it was. -/
theorem write_obstructed (hbase : d.HasBase base root) (hfits : p.Fits base) (data : Bytes)
    (hway : d.Obstructed root p.above) :
    ∃ error, writeResult base p data d = (some (.failed error), d) := by
  have hpasses := hfits.passes hbase
  rw [Path.resolve_text] at hpasses
  obtain ⟨cause, hfailed⟩ :=
    Disk.makeDirectories_of_obstructed hbase p.ordinary_above hpasses.below hway
  exact ⟨.io p.text cause, writeResult_of_error data hfailed⟩

/-- A write in the place of a directory fails and leaves the disk as it was. -/
theorem write_directory (hbase : d.HasBase base root) (hfits : p.Fits base) (data : Bytes)
    (hthere : d.hasDirectory (root ++ p.names) = true) :
    ∃ error, writeResult base p data d = (some (.failed error), d) := by
  have hpasses := hfits.passes hbase
  rw [Path.resolve_text] at hpasses
  rw [← List.append_assoc] at hthere
  have hparent := hbase.tree.hasDirectory_of_append hthere
  have hleads := hbase.leads.below hbase.tree p.ordinary_above hparent
  obtain ⟨entry, hentry, hkind⟩ := Disk.hasDirectory_iff.mp hthere
  have hmade := hleads.trimmed.makeDirectories hbase.tree hpasses.below.trimmed
  refine ⟨.io p.text (.errno .isDirectory), ?_⟩
  rw [writeResult_of_ok data hmade, Path.resolve_text, Disk.system_writeFile hpasses,
    Disk.writeFile_below hbase p.ordinary hpasses hparent, hentry]
  simp only [hkind, if_true, Prod.map_apply, id_eq, resultOf]

/-- Any other write succeeds. -/
theorem write_free (hbase : d.HasBase base root) (hfits : p.Fits base) (data : Bytes)
    (hway : ¬ d.Obstructed root p.above)
    (hfree : d.hasDirectory (root ++ p.names) = false) :
    ∃ after, writeResult base p data d = (some (.ok .done), after) ∧
      d.Becomes (d.withFile (root ++ p.names) data) after ∧ after.HasBase base root ∧
      after.get? (root ++ p.names) = some ⟨.file data, some d.clock⟩ := by
  have hpasses := hfits.passes hbase
  rw [Path.resolve_text] at hpasses
  rw [← List.append_assoc] at hfree ⊢
  obtain ⟨mid, hmade, hmid⟩ :=
    Disk.makeDirectories_of_free hbase p.ordinary_above hpasses.below hway
  have hdirectory := hmid.hasDirectory_of_free hway
  have hmidBase := hbase.mono hmid.tree fun _ => hmid.hasDirectory_of_withDirectories
  obtain ⟨after, hwritten, hbecomes, hfile⟩ :=
    hmid.writeFile data hmidBase p.ordinary hpasses hdirectory hfree
  refine ⟨after, ?_, hbecomes, hbase.mono hbecomes.tree fun place hplace => ?_, hfile⟩
  · rw [writeResult_of_ok data hmade, Path.resolve_text, hwritten]
    rfl
  · have hne : place ≠ root ++ p.above ++ [p.last] := by
      rintro rfl
      rw [hfree] at hplace
      contradiction
    rw [Disk.hasDirectory_iff_contentAt, hbecomes.contents, Disk.withFile, if_neg hne,
      Disk.withDirectories]
    split
    · rfl
    · exact Disk.hasDirectory_iff_contentAt.mp hplace

/-! ## What else is told -/

/-- A path whose entry a write leaves alone: it is neither the path that is written to nor below it,
and no directory that the write makes. -/
structure RelativePath.Apart (p q : RelativePath) (d : Disk) (root : Place) : Prop where
  notBelow : ¬ p.names <+: q.names
  notMade : ¬ (q.names <+: p.names ∧ d.get? (root ++ q.names) = none)

/-- The content that a path stands for is that at its place, or there is an error. -/
theorem map_content_entryOf (d : Disk) (root : Place) (p : RelativePath) :
    (d.entryOf root p).map Entry.content =
      match d.contentAt (root ++ p.names) with
      | some content => .ok content
      | none => .error (if d.Obstructed root p.above then .notDirectory else .noEntry) := by
  rw [Disk.entryOf, Disk.contentAt]
  cases d.get? (root ++ p.names) <;> rfl

/-- Apart from the file that is written, a write makes no files and takes none away. -/
theorem hasFile_of_becomes {target place : Place}
    (hbecomes : d.Becomes (d.withFile target data) after) (hne : place ≠ target) :
    after.hasFile place = true ↔ d.hasFile place = true := by
  rw [Disk.hasFile_iff_contentAt, Disk.hasFile_iff_contentAt, hbecomes.contents, Disk.withFile,
    if_neg hne, Disk.withDirectories]
  split
  · next hboth => simp [Disk.get?_eq_none_iff_contentAt.mp hboth.1]
  · rfl

/-- The entry of a path apart from the one that is written has the same content as before, and if
there is none, the reason is the same. -/
theorem content_of_apart (hbecomes : d.Becomes (d.withFile (root ++ p.names) data) after)
    (hapart : p.Apart q d root) :
    (after.entryOf root q).map Entry.content = (d.entryOf root q).map Entry.content := by
  have hne : ∀ upper, upper <+: q.names → root ++ upper ≠ root ++ p.names := by
    rintro upper hupper heq
    rw [List.append_cancel_left heq] at hupper
    exact hapart.notBelow hupper
  have hcontent : after.contentAt (root ++ q.names) = d.contentAt (root ++ q.names) := by
    rw [hbecomes.contents, Disk.withFile, if_neg (hne q.names List.prefix_rfl)]
    refine if_neg fun hboth => hapart.notMade ⟨?_, hboth.1⟩
    exact (List.prefix_append_right_inj root).mp hboth.2
  have hway : after.Obstructed root q.above ↔ d.Obstructed root q.above := by
    refine exists_congr fun upper => and_congr_right fun hupper => ?_
    exact hasFile_of_becomes hbecomes
      (hne upper (((List.mem_inits _ _).mp hupper).trans (List.prefix_append _ _)))
  rw [map_content_entryOf, map_content_entryOf, hcontent]
  simp only [hway]

/-- Times apart, a status that was told is told again. -/
theorem stat_of_apart (hbase : d.HasBase base root) (hafter : after.HasBase base root)
    (hfits : q.Fits base) (hbecomes : d.Becomes (d.withFile (root ++ p.names) data) after)
    (hapart : p.Apart q d root) (hdate : (dates.date? d.clock).isSome = true)
    (htold : (statResult dates base q d).isSome) :
    (statResult dates base q after).map NativeResult.timeless =
      (statResult dates base q d).map NativeResult.timeless := by
  have hsame := content_of_apart hbecomes hapart
  cases hold : d.entryOf root q with
  | error e =>
    cases hnew : after.entryOf root q with
    | error e' =>
      rw [hold, hnew] at hsame
      rw [statResult_eq dates hbase hfits, statResult_eq dates hafter hfits, hold, hnew,
        Except.error.inj hsame]
    | ok entry => rw [hold, hnew] at hsame; contradiction
  | ok old =>
    cases hnew : after.entryOf root q with
    | error e' => rw [hold, hnew] at hsame; contradiction
    | ok entry =>
      rw [hold, hnew] at hsame
      have hkind : entry.isDirectory = old.isDirectory := by
        rw [Entry.isDirectory, Entry.isDirectory, Except.ok.inj hsame]
      have hdates := isSome_date?_of_statResult dates hbase hfits hold htold
      have hdates' : ∀ time ∈ entry.modified, (dates.date? time).isSome = true := by
        obtain hclock | ⟨found, hfound, hmodified⟩ :=
          hbecomes.modified (root ++ q.names) entry (get?_of_entryOf hnew)
        · simpa [hclock] using hdate
        · rw [get?_of_entryOf hold] at hfound
          rwa [← hmodified, ← Option.some.inj hfound]
      obtain ⟨before, hbefore⟩ := statResult_of_entry dates hbase hfits hold hdates
      obtain ⟨now, hnow⟩ := statResult_of_entry dates hafter hfits hnew hdates'
      rw [hbefore, hnow, hkind]
      rfl

/-! ## All or nothing -/

/-- What a write that succeeds leaves: the tree with the file and the directories above it, the file
with the data, and what is told elsewhere, times apart. -/
structure Written (dates : Dates δ) (d : Disk) (base : Path) (root : Place) (p : RelativePath)
    (data : Bytes) (after : Disk) : Prop where
  becomes : d.Becomes (d.withFile (root ++ p.names) data) after
  read : readResult base p after = some (.ok (.content data))
  stat : (dates.date? d.clock).isSome = true →
    ∃ milliseconds,
      statResult dates base p after = some (.ok (.status ⟨true, false, true, milliseconds⟩))
  read_elsewhere : ∀ q : RelativePath, q.Fits base → p.Apart q d root →
    readResult base q after = readResult base q d
  stat_elsewhere : ∀ q : RelativePath, q.Fits base → p.Apart q d root →
    (dates.date? d.clock).isSome = true → (statResult dates base q d).isSome →
      (statResult dates base q after).map NativeResult.timeless =
        (statResult dates base q d).map NativeResult.timeless

/-- A disk that became one with the file has the file written. -/
theorem written_of_becomes (hbase : d.HasBase base root) (hafter : after.HasBase base root)
    (hfits : p.Fits base) (hbecomes : d.Becomes (d.withFile (root ++ p.names) data) after)
    (hfile : after.get? (root ++ p.names) = some ⟨.file data, some d.clock⟩) :
    Written dates d base root p data after := by
  have hentry : after.entryOf root p = .ok ⟨.file data, some d.clock⟩ := by
    rw [Disk.entryOf, hfile]
  refine ⟨hbecomes, ?_, fun hdate => ?_, fun q hq hapart => ?_, fun q hq hapart hdate htold => ?_⟩
  · rw [readResult_eq hafter hfits, hentry]
    rfl
  · exact statResult_of_entry dates hafter hfits hentry (by simpa using hdate)
  · rw [readResult_eq hafter hq, readResult_eq hbase hq, content_of_apart hbecomes hapart]
  · exact stat_of_apart dates hbase hafter hq hbecomes hapart hdate htold

/-- A write completes either way. It succeeds if no regular file is above its place and no directory
in it, and makes nothing but the file and the directories above it; otherwise it changes nothing. -/
theorem write_all_or_nothing (hbase : d.HasBase base root) (hfits : p.Fits base) (data : Bytes) :
    ((writeResult base p data d).1 = some (.ok .done) ↔
      ¬ d.Obstructed root p.above ∧ d.hasDirectory (root ++ p.names) = false) ∧
    ((writeResult base p data d).1 = some (.ok .done) →
      Written dates d base root p data (writeResult base p data d).2) ∧
    ((writeResult base p data d).1 ≠ some (.ok .done) →
      ∃ error, writeResult base p data d = (some (.failed error), d)) := by
  by_cases hway : d.Obstructed root p.above
  · obtain ⟨error, hfailed⟩ := write_obstructed hbase hfits data hway
    simp [hfailed, hway]
  cases hthere : d.hasDirectory (root ++ p.names) with
  | true =>
    obtain ⟨error, hfailed⟩ := write_directory hbase hfits data hthere
    simp [hfailed]
  | false =>
    obtain ⟨after, hdone, hbecomes, hafter, hfile⟩ := write_free hbase hfits data hway hthere
    have hwritten := written_of_becomes dates hbase hafter hfits hbecomes hfile
    simp [hdone, hway, hwritten]

/-- A file in a directory that is missing, and one below a regular file. -/
theorem write_all_or_nothing_sampleDisk :
    (∃ after, writeResult ⟨["root"]⟩ ⟨["d"], "e.txt", by decide⟩ [1] sampleDisk =
        (some (.ok .done), after) ∧
      Written .calendar sampleDisk ⟨["root"]⟩ ["root"] ⟨["d"], "e.txt", by decide⟩ [1] after) ∧
    ∃ error, writeResult ⟨["root"]⟩ ⟨["a.txt"], "x", by decide⟩ [1] sampleDisk =
      (some (.failed error), sampleDisk) := by
  have hmade := write_all_or_nothing .calendar (p := ⟨["d"], "e.txt", by decide⟩)
    hasBase_sampleDisk (by decide) [1]
  have hfailed := write_all_or_nothing .calendar (p := ⟨["a.txt"], "x", by decide⟩)
    hasBase_sampleDisk (by decide) [1]
  have hdone := hmade.1.mpr ⟨by decide, by decide⟩
  refine ⟨⟨_, Prod.ext hdone rfl, hmade.2.1 hdone⟩, hfailed.2.2 fun hdone => ?_⟩
  exact (hfailed.1.mp hdone).1 (by decide)

end ScriptFiles.Desktop
