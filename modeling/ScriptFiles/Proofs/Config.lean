import ScriptFiles.Config
import Mathlib.Computability.RegularExpressions

/-!
# What a configuration accepts

The namespace is checked against a regular expression, `namespacePattern`, and the settings as a
whole against the rules that they break: `Violation.Breaks` says of each rule when it is broken, and
`FirstBroken` picks the one that is told. Building and later validation go by the same rules, so that
settings that were edited are accepted exactly if they could have been built.
-/

namespace ScriptFiles.Config

/-! ## The grammar of namespaces -/

/-- The words of one character out of a list. -/
def oneOf (characters : List Char) : RegularExpression Char :=
  (characters.map RegularExpression.char).sum

/-- `[A-Za-z_$]`. -/
def startCharacters : List Char :=
  "ABCDEFGHIJKLMNOPQRSTUVWXYZabcdefghijklmnopqrstuvwxyz_$".toList

/-- `[A-Za-z0-9_$]`. -/
def restCharacters : List Char :=
  startCharacters ++ "0123456789".toList

/-- `[A-Za-z_$][A-Za-z0-9_$]*`. -/
def namespacePattern : RegularExpression Char :=
  oneOf startCharacters * (oneOf restCharacters).star

/-- The words of a set of characters are its characters. -/
theorem mem_oneOf {characters word : List Char} :
    word ∈ (oneOf characters).matches' ↔ ∃ c ∈ characters, word = [c] := by
  induction characters with
  | nil => simp [oneOf]
  | cons c rest ih =>
    have hsum : oneOf (c :: rest) = RegularExpression.char c + oneOf rest := by simp [oneOf]
    have hone : word ∈ (RegularExpression.char c).matches' ↔ word = [c] := Iff.rfl
    rw [hsum, RegularExpression.matches'_add, Language.mem_add, ih, hone]
    simp

/-- A word of a repeated class has characters of the class only. -/
theorem mem_star_oneOf {characters word : List Char} :
    word ∈ (oneOf characters).star.matches' ↔ ∀ c ∈ word, c ∈ characters := by
  rw [RegularExpression.matches'_star, Language.mem_kstar]
  constructor
  · rintro ⟨words, rfl, hwords⟩ c hc
    obtain ⟨single, hsingle, hmem⟩ := List.mem_flatten.mp hc
    obtain ⟨d, hd, rfl⟩ := mem_oneOf.mp (hwords single hsingle)
    exact List.mem_singleton.mp hmem ▸ hd
  · intro hall
    refine ⟨word.map fun c => [c], ?_, fun single hsingle => ?_⟩
    · rw [← List.flatMap_def, List.flatMap_singleton']
    obtain ⟨c, hc, rfl⟩ := List.mem_map.mp hsingle
    exact mem_oneOf.mpr ⟨c, hall c hc, rfl⟩

/-- A test and a list of ASCII characters agree if they do on ASCII. -/
theorem mem_iff_of_ascii {p : Char → Bool} {characters : List Char}
    (hascii : ∀ n < 128, p (Char.ofNat n) = true ↔ Char.ofNat n ∈ characters)
    (hclass : ∀ c : Char, p c = true → c.toNat < 128)
    (hlist : (characters.all fun c => c.toNat < 128) = true) (c : Char) :
    p c = true ↔ c ∈ characters := by
  by_cases hsmall : c.toNat < 128
  · have hsame := hascii c.toNat hsmall
    rwa [Char.ofNat_toNat] at hsame
  · have hnot : c ∉ characters := fun hc =>
      hsmall (of_decide_eq_true (List.all_eq_true.mp hlist c hc))
    exact ⟨fun hp => absurd (hclass c hp) hsmall, fun hc => absurd hc hnot⟩

/-- The characters of identifiers are ASCII. -/
theorem toNat_lt_of_isIdentifierRest {c : Char} (hc : isIdentifierRest c = true) :
    c.toNat < 128 := by
  simp only [isIdentifierRest, isIdentifierStart, Bool.or_eq_true, beq_iff_eq] at hc
  rcases hc with ((halpha | rfl) | rfl) | hdigit
  · rcases Bool.or_eq_true_iff.mp halpha with hupper | hlower
    · have hrange : 'A'.val ≤ c.val ∧ c.val ≤ 'Z'.val := of_decide_eq_true hupper
      exact (UInt32.le_iff_toNat_le.mp hrange.2).trans_lt (by decide)
    · have hlast : c.val ≤ 'z'.val := of_decide_eq_true (Bool.and_eq_true_iff.mp hlower).2
      exact (UInt32.le_iff_toNat_le.mp hlast).trans_lt (by decide)
  · decide
  · decide
  · have hlast : c.val ≤ '9'.val := of_decide_eq_true (Bool.and_eq_true_iff.mp hdigit).2
    exact (UInt32.le_iff_toNat_le.mp hlast).trans_lt (by decide)

/-- The test for the first character of an identifier is that of the grammar. -/
theorem isIdentifierStart_iff (c : Char) : isIdentifierStart c = true ↔ c ∈ startCharacters :=
  mem_iff_of_ascii (by decide +kernel)
    (fun c hc => toNat_lt_of_isIdentifierRest (by rw [isIdentifierRest, hc, Bool.true_or]))
    (by decide) c

/-- The test for the other characters of an identifier is that of the grammar. -/
theorem isIdentifierRest_iff (c : Char) : isIdentifierRest c = true ↔ c ∈ restCharacters :=
  mem_iff_of_ascii (by decide +kernel) (fun _ => toNat_lt_of_isIdentifierRest) (by decide) c

/-- A namespace that is not empty breaks no rule exactly if it matches the pattern. -/
theorem mem_namespacePattern {first : Char} {rest : List Char} :
    first :: rest ∈ namespacePattern.matches' ↔
      (isIdentifierStart first && rest.all isIdentifierRest) = true := by
  rw [namespacePattern, RegularExpression.matches'_mul, Language.mem_mul, Bool.and_eq_true,
    isIdentifierStart_iff, List.all_eq_true]
  simp only [isIdentifierRest_iff]
  constructor
  · rintro ⟨front, hfront, back, hback, hword⟩
    obtain ⟨c, hc, rfl⟩ := mem_oneOf.mp hfront
    obtain ⟨rfl, rfl⟩ := List.cons.inj hword
    exact ⟨hc, mem_star_oneOf.mp hback⟩
  · rintro ⟨hfirst, hrest⟩
    exact ⟨[first], mem_oneOf.mpr ⟨first, hfirst, rfl⟩, rest, mem_star_oneOf.mpr hrest, rfl⟩

/-- The empty name is not in the grammar. -/
theorem nil_notMem_namespacePattern : [] ∉ namespacePattern.matches' := by
  rw [namespacePattern, RegularExpression.matches'_mul, Language.mem_mul]
  rintro ⟨front, hfront, back, -, hword⟩
  obtain ⟨c, -, rfl⟩ := mem_oneOf.mp hfront
  exact List.cons_ne_nil _ _ hword

/-! ## Broken rules -/

/-- When a rule is broken. -/
def Violation.Breaks (s : Settings) : Violation → Prop
  | emptyNamespace => s.namespaceName = ""
  | invalidNamespace name =>
    name = s.namespaceName ∧ name ≠ "" ∧ name.toList ∉ namespacePattern.matches'
  | emptyBaseDir => s.baseDir = ""
  | workerThreads count => count = s.workerThreads ∧ ¬(1 ≤ count ∧ count ≤ 64)

/-- Where a rule stands in the order of the checks; the rules of one setting share a place. -/
def Violation.place : Violation → ℕ
  | emptyNamespace | invalidNamespace _ => 1
  | emptyBaseDir => 2
  | workerThreads _ => 3

/-- A rule is broken and none before it is. -/
structure FirstBroken (s : Settings) (v : Violation) : Prop where
  breaks : v.Breaks s
  first : ∀ other : Violation, other.Breaks s → v.place ≤ other.place

/-- Settings that break no rule. -/
@[mk_iff]
structure Settings.Sound (s : Settings) : Prop where
  namespaceName : s.namespaceName.toList ∈ namespacePattern.matches'
  baseDir : s.baseDir ≠ ""
  workerThreads : 1 ≤ s.workerThreads ∧ s.workerThreads ≤ 64

/-- A name of the grammar passes its check. -/
theorem checkNamespace_of_mem {name : String} (h : name.toList ∈ namespacePattern.matches') :
    checkNamespace name = none := by
  unfold checkNamespace
  split
  · next hnil => exact absurd (hnil ▸ h) nil_notMem_namespacePattern
  · next first rest hcons =>
    rw [if_pos (mem_namespacePattern.mp (hcons ▸ h))]

/-- Any other name that is not empty is told by its check. -/
theorem checkNamespace_of_notMem {name : String} (hne : name ≠ "")
    (h : name.toList ∉ namespacePattern.matches') :
    checkNamespace name = some (.invalidNamespace name) := by
  unfold checkNamespace
  split
  · next hnil => exact absurd (String.toList_eq_nil_iff.mp hnil) hne
  · next first rest hcons =>
    rw [hcons, mem_namespacePattern] at h
    rw [if_neg h]

namespace Violation

variable {s : Settings} {v w : Violation}

/-- Rules are counted from one. -/
theorem one_le_place (v : Violation) : 1 ≤ v.place := by
  cases v <;> simp [place]

/-- With a good namespace, a broken rule is the second one or a later one. -/
theorem Breaks.two_le_place (hv : v.Breaks s)
    (hname : s.namespaceName.toList ∈ namespacePattern.matches') : 2 ≤ v.place := by
  cases v with
  | emptyNamespace =>
    rw [show s.namespaceName = "" from hv] at hname
    exact absurd hname nil_notMem_namespacePattern
  | invalidNamespace name =>
    obtain ⟨rfl, -, hnot⟩ := hv
    exact absurd hname hnot
  | emptyBaseDir => simp [place]
  | workerThreads count => simp [place]

/-- With a good namespace and a base directory, a broken rule is the third one or a later one. -/
theorem Breaks.three_le_place (hv : v.Breaks s)
    (hname : s.namespaceName.toList ∈ namespacePattern.matches') (hdir : s.baseDir ≠ "") :
    3 ≤ v.place := by
  have htwo := hv.two_le_place hname
  cases v with
  | emptyNamespace => exact absurd htwo (by decide)
  | invalidNamespace name => simp [place] at htwo
  | emptyBaseDir => exact absurd hv hdir
  | workerThreads count => simp [place]

/-- One place has one broken rule at most. -/
theorem Breaks.eq_of_place (hv : v.Breaks s) (hw : w.Breaks s) (hplace : v.place = w.place) :
    v = w := by
  cases v <;> cases w <;> grind [Breaks, place]

end Violation

/-- Only one rule is the first broken one. -/
theorem FirstBroken.unique {s : Settings} {v w : Violation} (hv : FirstBroken s v)
    (hw : FirstBroken s w) : v = w :=
  hv.breaks.eq_of_place hw.breaks
    (Nat.le_antisymm (hv.first w hw.breaks) (hw.first v hv.breaks))

namespace Settings

variable {s : Settings}

/-- The check finds the first broken rule, and nothing where none is broken. -/
theorem check_spec (s : Settings) :
    s.check = none ∧ s.Sound ∨ ∃ v, s.check = some v ∧ FirstBroken s v := by
  by_cases hname : s.namespaceName.toList ∈ namespacePattern.matches'
  · have hcheck := checkNamespace_of_mem hname
    by_cases hdir : s.baseDir = ""
    · refine .inr ⟨.emptyBaseDir, ?_, hdir, fun other hother => hother.two_le_place hname⟩
      simp [check, hcheck, hdir]
    by_cases hthreads : 1 ≤ s.workerThreads ∧ s.workerThreads ≤ 64
    · refine .inl ⟨?_, hname, hdir, hthreads⟩
      have hbound : ¬(s.workerThreads = 0 ∨ maxWorkerThreads < s.workerThreads) := by
        unfold maxWorkerThreads
        omega
      simp [check, hcheck, hdir, hbound]
    · refine .inr ⟨.workerThreads s.workerThreads, ?_, ⟨rfl, hthreads⟩,
        fun other hother => hother.three_le_place hname hdir⟩
      have hbound : s.workerThreads = 0 ∨ maxWorkerThreads < s.workerThreads := by
        unfold maxWorkerThreads
        omega
      simp [check, hcheck, hdir, hbound]
  · right
    by_cases hempty : s.namespaceName = ""
    · refine ⟨.emptyNamespace, ?_, hempty, fun other _ => other.one_le_place⟩
      rw [check, hempty]
      rfl
    · refine ⟨.invalidNamespace s.namespaceName, ?_, ⟨rfl, hempty, hname⟩,
        fun other _ => other.one_le_place⟩
      simp [check, checkNamespace_of_notMem hempty hname]

/-- Settings that break no rule break none first. -/
theorem Sound.not_firstBroken (hsound : s.Sound) (v : Violation) : ¬FirstBroken s v := by
  rintro ⟨hbreaks, -⟩
  have hplace := hbreaks.three_le_place hsound.namespaceName hsound.baseDir
  cases v with
  | workerThreads count =>
    obtain ⟨rfl, hbound⟩ := hbreaks
    exact hbound hsound.workerThreads
  | emptyNamespace | invalidNamespace _ | emptyBaseDir => simp [Violation.place] at hplace

/-- The check finds nothing exactly in sound settings. -/
theorem check_eq_none_iff : s.check = none ↔ s.Sound := by
  rcases s.check_spec with ⟨hnone, hsound⟩ | ⟨v, hsome, hfirst⟩
  · exact ⟨fun _ => hsound, fun _ => hnone⟩
  · refine ⟨fun hnone => ?_, fun hsound => absurd hfirst (hsound.not_firstBroken v)⟩
    rw [hsome] at hnone
    cases hnone

/-- The check finds exactly the first rule that is broken. -/
theorem check_eq_some_iff {v : Violation} : s.check = some v ↔ FirstBroken s v := by
  rcases s.check_spec with ⟨hnone, hsound⟩ | ⟨w, hsome, hfirst⟩
  · rw [hnone]
    exact ⟨nofun, fun hv => absurd hv (hsound.not_firstBroken v)⟩
  · rw [hsome, Option.some_inj]
    exact ⟨fun heq => heq ▸ hfirst, hfirst.unique⟩

/-- Sound settings are valid. -/
theorem validate_eq_ok_iff : s.validate = .ok () ↔ s.Sound := by
  rw [← check_eq_none_iff, validate]
  cases s.check <;> simp

/-- Other settings fail with the message about the first rule that is broken. -/
theorem validate_eq_error_iff {e : SetupError} :
    s.validate = .error e ↔ ∃ v, FirstBroken s v ∧ e = .config v.message := by
  simp only [← check_eq_some_iff, validate]
  cases s.check <;> simp [Violation.error, eq_comm]

end Settings

/-- With a file system of the host's own, building validates the settings and gives them back. -/
theorem Builder.build_eq_map {b : Builder} (hown : b.ownFileSystem = true) (dataDir : String) :
    b.build dataDir =
      (b.settings dataDir).validate.map fun _ => (b.settings dataDir, ([] : List Log.Event)) := by
  cases hcheck : (b.settings dataDir).check with
  | none => simp [build, Settings.validate, hcheck, hown, Except.map]
  | some v => simp [build, Settings.validate, hcheck, Except.map]

/-- A builder that gives all settings and a file system of the host's own. -/
def Settings.builder (s : Settings) : Builder :=
  ⟨some s.namespaceName, some s.baseDir, some s.workerThreads, true⟩

/-- Settings are validated as they would be built. -/
theorem Settings.validate_eq_map_build (s : Settings) (dataDir : String) :
    s.validate = (s.builder.build dataDir).map fun _ => () := by
  have hsame : s.builder.settings dataDir = s := rfl
  rw [Builder.build_eq_map rfl, hsame]
  cases s.validate <;> rfl

/-- A configuration accepts exactly its grammar. With a file system of the host's own, building
succeeds exactly if the namespace matches the pattern, the base directory is not empty and the
number of threads is from 1 to 64, and what is built has the settings given, defaults filled in.
Otherwise it fails with the first rule broken. Whatever is edited later, the settings are validated
as they would be built. -/
theorem settings_accepted_exactly (b : Builder) (dataDir : String)
    (hown : b.ownFileSystem = true) :
    ((∃ built, b.build dataDir = .ok built) ↔
      (b.namespaceName.getD "_fileSystem").toList ∈ namespacePattern.matches' ∧
        b.baseDir.getD dataDir ≠ "" ∧
        1 ≤ b.workerThreads.getD 2 ∧ b.workerThreads.getD 2 ≤ 64) ∧
    (∀ built events, b.build dataDir = .ok (built, events) →
      built.namespaceName = b.namespaceName.getD "_fileSystem" ∧
        built.baseDir = b.baseDir.getD dataDir ∧
        built.workerThreads = b.workerThreads.getD 2) ∧
    (∀ e, b.build dataDir = .error e ↔
      ∃ v, FirstBroken (b.settings dataDir) v ∧ e = .config v.message) ∧
    ∀ built events, b.build dataDir = .ok (built, events) →
      ∀ edits, ∀ edited ∈ built.revisions edits, ∀ otherDir,
        edited.validate = (edited.builder.build otherDir).map fun _ => () := by
  have hbuild := Builder.build_eq_map hown dataDir
  refine ⟨?_, ?_, ?_, fun _ _ _ _ edited _ => edited.validate_eq_map_build⟩
  · refine Iff.trans ?_ (Settings.sound_iff (b.settings dataDir))
    rw [← Settings.validate_eq_ok_iff, hbuild]
    cases (b.settings dataDir).validate <;> simp [Except.map]
  · intro built events hok
    rw [hbuild] at hok
    cases hvalidate : (b.settings dataDir).validate with
    | error e => simp [hvalidate, Except.map] at hok
    | ok =>
      simp only [hvalidate, Except.map, Except.ok.injEq, Prod.mk.injEq] at hok
      obtain ⟨rfl, -⟩ := hok
      exact ⟨rfl, rfl, rfl⟩
  · intro e
    rw [← Settings.validate_eq_error_iff, hbuild]
    cases (b.settings dataDir).validate <;> simp [Except.map]

/-- Settings at the last values that are accepted, then edited so that two rules are broken. -/
theorem settings_accepted_exactly_edited :
    (⟨some "$fs", some "/", some 64, true⟩ : Builder).ownFileSystem = true ∧
      "$fs".toList ∈ namespacePattern.matches' ∧
      (⟨some "$fs", some "/", some 64, true⟩ : Builder).build "" = .ok (⟨"$fs", "/", 64⟩, []) ∧
      (⟨"fs.read", "/", 0⟩ : Settings).validate =
        .error (.config "Namespace 'fs.read' is not a valid script identifier") := by
  have hbuild : (⟨some "$fs", some "/", some 64, true⟩ : Builder).build "" =
      .ok (⟨"$fs", "/", 64⟩, []) := by decide
  obtain ⟨haccepted, -, -, hedited⟩ :=
    settings_accepted_exactly ⟨some "$fs", some "/", some 64, true⟩ "" rfl
  refine ⟨rfl, (haccepted.mp ⟨_, hbuild⟩).1, hbuild, ?_⟩
  have hsame := hedited _ _ hbuild [⟨some "fs.read", none, some 0⟩] ⟨"fs.read", "/", 0⟩
    List.mem_cons_self ""
  rw [hsame]
  decide

end ScriptFiles.Config
