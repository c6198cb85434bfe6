import ScriptFiles.Desktop.Service
import ScriptFiles.Proofs.Desktop.Walks

/-!
# What is told about relative paths

Reading and asking for a status look at one entry, `Disk.entryOf`: the one that the names of a
relative path lead to from a base directory. A name that leads nowhere has a status as well, the one
of a missing path, as long as no regular file is in the way.
-/

namespace ScriptFiles.Desktop

/-- A tree with a base directory, given by its path. -/
structure Disk.HasBase (d : Disk) (base : Path) (root : Place) : Prop where
  tree : d.IsTree
  noNul : base.hasNul = false
  leads : d.LeadsTo base root

/-- A relative path that is short enough when it is read from the base directory. -/
def RelativePath.Fits (p : RelativePath) (base : Path) : Prop :=
  (base.resolve p.text).text.utf8ByteSize < pathLimit

instance (p : RelativePath) (base : Path) : Decidable (p.Fits base) :=
  inferInstanceAs (Decidable (_ < _))

/-- The entry of a relative path, or why there is none. -/
def Disk.entryOf (d : Disk) (root : Place) (p : RelativePath) : Except Errno Entry :=
  match d.get? (root ++ p.names) with
  | some entry => .ok entry
  | none => .error (if d.Obstructed root p.above then .notDirectory else .noEntry)

/-- What reading a relative path gives. -/
def readResult (base : Path) (p : RelativePath) (d : Disk) : Option NativeResult :=
  (Disk.system.serveRead base p.text d).1.result

/-- What asking about a relative path gives, with some library of dates. -/
def statResult {δ : Type} (dates : Dates δ) (base : Path) (p : RelativePath) (d : Disk) :
    Option NativeResult :=
  (Disk.system.serveStat dates base p.text d).1.result

variable {δ : Type} (dates : Dates δ) {d : Disk} {base : Path} {root : Place} {p : RelativePath}

/-- The system accepts a path that fits. -/
theorem RelativePath.Fits.passes (hfits : p.Fits base) (hbase : d.HasBase base root) :
    (base.resolve p.text).Passes := by
  unfold RelativePath.Fits at hfits
  rw [Path.resolve_text] at hfits ⊢
  exact Path.passes_below hbase.noNul p.ordinary hfits

/-- The entry that a path stands for lies at its place. -/
theorem get?_of_entryOf {entry : Entry} (h : d.entryOf root p = .ok entry) :
    d.get? (root ++ p.names) = some entry := by
  unfold Disk.entryOf at h
  split at h
  · next found hfound => rw [hfound, Except.ok.inj h]
  · contradiction

/-- The entry that a path names is the one its names lead to. -/
theorem Disk.HasBase.existing (hbase : d.HasBase base root) (hfits : p.Fits base) :
    d.existing (base.resolve p.text) =
      (d.entryOf root p).map fun entry => (root ++ p.names, entry) := by
  have hshort := (hfits.passes hbase).short
  rw [Path.resolve_text] at hshort ⊢
  rw [Disk.existing_below hbase.tree hbase.leads p.ordinary hshort, Disk.entryOf]
  cases d.get? (root ++ p.names) <;> rfl

/-- A question about a path without a NUL reaches the disk. -/
theorem Disk.query_of_passes {α : Type} {path : Path} (h : path.Passes)
    (ask : Disk → Except Errno α) :
    Disk.query [path] ask d = (Except.mapError IoCause.errno (ask d), d) := by
  rw [Disk.query, List.any_cons, h.noNul]
  rfl

/-- What a read answers depends on the content at the place of its path. -/
theorem readResult_eq (hbase : d.HasBase base root) (hfits : p.Fits base) :
    readResult base p d =
      some (match (d.entryOf root p).map Entry.content with
        | .ok (.file bytes) => .ok (.content bytes)
        | .ok .directory => .failed (.io p.text (.errno .isDirectory))
        | .error e => .failed (.io p.text (.errno e))) := by
  simp only [readResult, System.serveRead, Disk.system, Disk.query_of_passes (hfits.passes hbase),
    Disk.readFile, hbase.existing hfits]
  cases d.entryOf root p with
  | error e => rfl
  | ok entry =>
    simp only [Except.map, bind, Except.bind]
    cases entry.content <;> rfl

/-- What a request for a status answers depends on the entry at the place of its path. -/
theorem statResult_eq (hbase : d.HasBase base root) (hfits : p.Fits base) :
    statResult dates base p d =
      match d.entryOf root p with
      | .ok entry =>
        (System.statusOf? dates ⟨entry.isDirectory, !entry.isDirectory, entry.modified⟩).map
          fun status => .ok (.status status)
      | .error e =>
        if e = .noEntry then some (.ok (.status .missing))
        else some (.failed (.io p.text (.errno e))) := by
  simp only [statResult, System.serveStat, Disk.system, Disk.query_of_passes (hfits.passes hbase),
    Disk.metadata, hbase.existing hfits]
  cases d.entryOf root p with
  | error e =>
    by_cases hnone : e = .noEntry <;> simp [Except.map, bind, Except.bind, Except.mapError,
      System.statResult?, isNotFound, hnone]
  | ok entry =>
    simp only [Except.map, bind, Except.bind, pure, Except.pure, Except.mapError,
      System.statResult?]
    cases System.statusOf? dates ⟨entry.isDirectory, !entry.isDirectory, entry.modified⟩ <;> rfl

/-- Only for a modification time without a date there is no status. -/
theorem isSome_statusOf? (metadata : Metadata) :
    (System.statusOf? dates metadata).isSome = true ↔
      ∀ time ∈ metadata.modified, (dates.date? time).isSome = true := by
  unfold System.statusOf?
  cases metadata.modified with
  | none => simp
  | some time => simp [Dates.reported?]

/-- An entry with a status has no modification time without a date. -/
theorem isSome_date?_of_statResult {entry : Entry} (hbase : d.HasBase base root)
    (hfits : p.Fits base) (hentry : d.entryOf root p = .ok entry)
    (htold : (statResult dates base p d).isSome = true) :
    ∀ time ∈ entry.modified, (dates.date? time).isSome = true := by
  rw [statResult_eq dates hbase hfits, hentry, Option.isSome_map] at htold
  exact (isSome_statusOf? dates _).mp htold

/-- A status tells of an entry that it is there and of which kind. -/
theorem statResult_of_entry {entry : Entry} (hbase : d.HasBase base root) (hfits : p.Fits base)
    (hentry : d.entryOf root p = .ok entry)
    (hdate : ∀ time ∈ entry.modified, (dates.date? time).isSome = true) :
    ∃ milliseconds, statResult dates base p d =
      some (.ok (.status ⟨true, entry.isDirectory, !entry.isDirectory, milliseconds⟩)) := by
  obtain ⟨status, hstatus⟩ := Option.isSome_iff_exists.mp
    ((isSome_statusOf? dates ⟨entry.isDirectory, !entry.isDirectory, entry.modified⟩).mpr hdate)
  refine ⟨status.lastModified, ?_⟩
  rw [statResult_eq dates hbase hfits, hentry]
  simp only [hstatus, Option.map_some]
  unfold System.statusOf? at hstatus
  split at hstatus
  · rw [← Option.some.inj hstatus]
  · obtain ⟨milliseconds, -, rfl⟩ := Option.map_eq_some_iff.mp hstatus
    rfl

/-- Whatever the library of dates, every path gets a status, a missing one too, unless a regular
file is in its way. An entry is told to be a directory or a file, and not both. -/
theorem stat_unless_obstructed (hbase : d.HasBase base root) (hfits : p.Fits base) :
    (∀ entry, d.get? (root ++ p.names) = some entry →
      (∀ time ∈ entry.modified, (dates.date? time).isSome = true) →
      ∃ milliseconds, statResult dates base p d =
        some (.ok (.status ⟨true, entry.isDirectory, !entry.isDirectory, milliseconds⟩))) ∧
    (d.get? (root ++ p.names) = none → ¬ d.Obstructed root p.above →
      statResult dates base p d = some (.ok (.status .missing))) ∧
    (d.get? (root ++ p.names) = none → d.Obstructed root p.above →
      statResult dates base p d = some (.failed (.io p.text (.errno .notDirectory)))) := by
  refine ⟨fun entry hentry hdate => ?_, fun hnone hway => ?_, fun hnone hway => ?_⟩
  · exact statResult_of_entry dates hbase hfits (by rw [Disk.entryOf, hentry]) hdate
  · rw [statResult_eq dates hbase hfits]
    simp [Disk.entryOf, hnone, hway]
  · have hdiffer : Errno.notDirectory ≠ Errno.noEntry := by decide
    rw [statResult_eq dates hbase hfits]
    simp [Disk.entryOf, hnone, hway, hdiffer]

/-- A disk with one regular file, in the directory `/root`. -/
def sampleDisk : Disk :=
  ((Disk.empty ⟨0, 0⟩).put ["root"] ⟨.directory, some ⟨0, 0⟩⟩).put ["root", "a.txt"]
    ⟨.file [120], some ⟨0, 0⟩⟩

/-- The sample disk has its base directory. -/
theorem hasBase_sampleDisk : sampleDisk.HasBase ⟨["root"]⟩ ["root"] := by
  have htree : ((Disk.empty ⟨0, 0⟩).put ["root"] ⟨.directory, some ⟨0, 0⟩⟩).IsTree :=
    (Disk.isTree_empty ⟨0, 0⟩).put [] "root" ⟨.directory, some ⟨0, 0⟩⟩ rfl rfl
  exact ⟨htree.put ["root"] "a.txt" ⟨.file [120], some ⟨0, 0⟩⟩ rfl rfl, by decide, rfl⟩

/-- In the sample disk the file has a status, a name without a file has that of something missing,
and a path through the file has none. -/
theorem stat_unless_obstructed_sampleDisk :
    (∃ milliseconds, statResult .calendar ⟨["root"]⟩ ⟨[], "a.txt", by decide⟩ sampleDisk =
      some (.ok (.status ⟨true, false, true, milliseconds⟩))) ∧
    statResult .calendar ⟨["root"]⟩ ⟨[], "b.txt", by decide⟩ sampleDisk =
      some (.ok (.status .missing)) ∧
    statResult .calendar ⟨["root"]⟩ ⟨["a.txt"], "x", by decide⟩ sampleDisk =
      some (.failed (.io "a.txt/x" (.errno .notDirectory))) :=
  ⟨(stat_unless_obstructed .calendar hasBase_sampleDisk (by decide)).1
      ⟨.file [120], some ⟨0, 0⟩⟩ rfl (by decide),
    (stat_unless_obstructed .calendar hasBase_sampleDisk (by decide)).2.1 rfl (by decide),
    (stat_unless_obstructed .calendar hasBase_sampleDisk (by decide)).2.2 rfl (by decide)⟩

/-- Not every missing path has a status: below a regular file there is none. -/
theorem stat_below_file_fails :
    ¬ ∀ (d : Disk) (base : Path) (root : Place) (p : RelativePath), d.HasBase base root →
      p.Fits base → d.get? (root ++ p.names) = none →
        statResult .calendar base p d = some (.ok (.status .missing)) := by
  intro hall
  have hmissing := hall sampleDisk ⟨["root"]⟩ ["root"] ⟨["a.txt"], "x", by decide⟩
    hasBase_sampleDisk (by decide) rfl
  have hfailed : statResult .calendar ⟨["root"]⟩ ⟨["a.txt"], "x", by decide⟩ sampleDisk =
      some (.failed (.io "a.txt/x" (.errno .notDirectory))) := by decide
  rw [hfailed] at hmissing
  contradiction

end ScriptFiles.Desktop
