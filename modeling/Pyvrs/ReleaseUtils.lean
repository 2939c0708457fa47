import Pyvrs.Python.Str

/-!
# `release_utils.py`: the version file across releases

`version.txt` holds `major.minor.patch`. `get_next_version(release_type)` reads it
(`strip()`, `strip("'")`, `split(".")`, `int` of every part, then the first three parts),
bumps one part and returns the new tuple, its text and its tag; `update_version` writes the
text back; `main` checks the release type, runs both and prints `new_version new_tag`.

What `update_version` writes reads back as the tuple it was given, for every tuple whose parts
`str()` can print; for a part past CPython's digit limit it raises after `open(..., "w")` has
emptied the file (`version_file_round_trip`). Over any sequence of invocations of `main` the file
follows an abstract model on version tuples, whose versions never decrease
(`release_runs_refine_version_bumps`); a file that `get_next_version` cannot read is never
changed and makes every invocation fail (`unreadable_version_file_stays`).
-/

namespace Pyvrs

namespace ReleaseUtils

/-- A version `(major, minor, patch)`. -/
abbrev Version := Int × Int × Int

/-- What `get_next_version` reads before it looks at the release type:
`current_version = open("version.txt", "r").read().strip()`, then
`version_list = [int(x) for x in current_version.strip("'").split(".")]` and its items `0`, `1`
and `2`. -/
def readVersion (versionTxt : String) : Except PyError Version := do
  let currentVersion := pyStrip versionTxt
  let versionList ← (pySplit (pyStripChars currentVersion ['\x27']) '.').mapM pyInt
  let major ← pyIndex versionList 0
  let minor ← pyIndex versionList 1
  let patch ← pyIndex versionList 2
  pure (major, minor, patch)

/-- `get_next_version(release_type)` with `version.txt` holding `versionTxt`:
`(new_version_tuple, new_version_str, new_tag_str)`. -/
def getNextVersion (releaseType versionTxt : String) :
    Except PyError (Version × String × String) := do
  let (major, minor, patch) ← readVersion versionTxt
  let (major, minor, patch) ← (if releaseType = "patch" then pure (major, minor, patch + 1)
    else if releaseType = "minor" then pure (major, minor + 1, 0)
    else if releaseType = "major" then pure (major + 1, 0, 0)
    else throw (.valueError
      "Incorrect release type specified. Acceptable types are major, minor and patch.") :
    Except PyError Version)
  let newVersionStr := String.intercalate "." (← [major, minor, patch].mapM pyStr)
  pure ((major, minor, patch), newVersionStr, "v" ++ newVersionStr)

/-- `update_version(new_version_tuple)`: `open("version.txt", "w")` empties the file, then
`".".join([str(x) for x in new_version_tuple])` is written, unless a `str()` raises, which leaves
the file empty. What the call returns, and what `version.txt` holds afterwards. -/
def updateVersion (newVersionTuple : Version) : Except PyError Unit × String :=
  match [newVersionTuple.1, newVersionTuple.2.1, newVersionTuple.2.2].mapM pyStr with
  | .ok parts => (.ok (), String.intercalate "." parts)
  | .error e => (.error e, "")

/-- The parsed command line: `--release-type` and `--update-version`. -/
structure Args where
  releaseType : String
  updateVersion : Bool

/-- `main(args)` with `version.txt` holding `versionTxt`: the line `print(new_version, new_tag)`
writes, or the exception raised, and what `version.txt` holds afterwards. -/
def main (args : Args) (versionTxt : String) : Except PyError String × String :=
  if args.releaseType ∈ ["major", "minor", "patch"] then
    match getNextVersion args.releaseType versionTxt with
    | .ok (newVersionTuple, newVersion, newTag) =>
      if args.updateVersion then
        match updateVersion newVersionTuple with
        | (.ok _, written) => (.ok (newVersion ++ " " ++ newTag ++ "\n"), written)
        | (.error e, written) => (.error e, written)
      else (.ok (newVersion ++ " " ++ newTag ++ "\n"), versionTxt)
    | .error e => (.error e, versionTxt)
  else (.error (.valueError "Incorrect release type specified"), versionTxt)

/-- `version.txt` after `main` runs on each of `runs` in turn. -/
def versionAfter : String → List Args → String
  | versionTxt, [] => versionTxt
  | versionTxt, args :: runs => versionAfter (main args versionTxt).2 runs

/-- What the runs print or raise, in turn. -/
def printed : String → List Args → List (Except PyError String)
  | _, [] => []
  | versionTxt, args :: runs => (main args versionTxt).1 :: printed (main args versionTxt).2 runs

/-! ## The abstract model: version tuples -/

/-- A release on version tuples: `patch` bumps the patch; `minor` bumps the minor and resets the
patch; `major` bumps the major and resets both; any other type is no release. -/
def bump (releaseType : String) (v : Version) : Option Version :=
  if releaseType = "patch" then some (v.1, v.2.1, v.2.2 + 1)
  else if releaseType = "minor" then some (v.1, v.2.1 + 1, 0)
  else if releaseType = "major" then some (v.1 + 1, 0, 0)
  else none

/-- A version `str()` can print: no part has more than `maxStrDigits` digits. -/
def printable (v : Version) : Bool :=
  [v.1, v.2.1, v.2.2].all fun x => decide ((Nat.toDigits 10 x.natAbs).length ≤ maxStrDigits)

/-- The text of a version, `major.minor.patch`. -/
def versionText (v : Version) : String := String.intercalate "." ([v.1, v.2.1, v.2.2].map toString)

/-- One run in the abstract model: the version released or the error raised, and the version
kept, which is the released one exactly under `--update-version`. A release whose text has a part
past the digit limit raises instead. -/
def releaseStep (v : Version) (args : Args) : Except PyError Version × Version :=
  match bump args.releaseType v with
  | some w =>
    if printable w then (.ok w, if args.updateVersion then w else v) else (.error strDigitsError, v)
  | none => (.error (.valueError "Incorrect release type specified"), v)

/-- The version kept after the runs. -/
def releasedVersion (v : Version) : List Args → Version
  | [] => v
  | args :: runs => releasedVersion (releaseStep v args).2 runs

/-- What each run releases or raises. -/
def releases (v : Version) : List Args → List (Except PyError Version)
  | [] => []
  | args :: runs => (releaseStep v args).1 :: releases (releaseStep v args).2 runs

/-- The line `main` prints for a release of `w`. -/
def releaseLine (w : Version) : String := versionText w ++ " " ++ ("v" ++ versionText w) ++ "\n"

/-- What `main` prints or raises for a run that releases `w` or raises. -/
def mainResult (r : Except PyError Version) : Except PyError String := releaseLine <$> r

/-- Versions in release order: lexicographic on `(major, minor, patch)`. -/
def versionKey (v : Version) : Lex (Int × Lex (Int × Int)) := toLex (v.1, toLex v.2)

/-! ## The version file format -/

/-- `[str(x) for x in xs]` prints every part, or raises at the first past the digit limit. -/
theorem mapM_pyStr (xs : List Int) :
    xs.mapM pyStr = if xs.all fun x => decide ((Nat.toDigits 10 x.natAbs).length ≤ maxStrDigits)
      then .ok (xs.map toString) else .error strDigitsError := by
  induction xs with
  | nil => rfl
  | cons x xs ih =>
    rw [List.mapM_cons, pyStr_eq, ih]
    by_cases hx : (Nat.toDigits 10 x.natAbs).length ≤ maxStrDigits <;>
      by_cases hxs : (xs.all fun x => decide ((Nat.toDigits 10 x.natAbs).length ≤ maxStrDigits)) <;>
      simp [hx, hxs, ok_bind, error_bind]

/-- `update_version` writes the version's text, or raises and leaves the file empty when a part
is past the digit limit. -/
theorem updateVersion_eq (v : Version) :
    updateVersion v =
      if printable v then (.ok (), versionText v) else (.error strDigitsError, "") := by
  unfold updateVersion printable versionText
  rw [mapM_pyStr]
  split_ifs <;> rfl

theorem toList_versionText (v : Version) : (versionText v).toList =
    ['.'].intercalate [(toString v.1).toList, (toString v.2.1).toList, (toString v.2.2).toList] := by
  simp [versionText, String.intercalate, String.intercalate.go, List.intercalate]

/-- A version's text reads back as the version, for every version `str()` can print. -/
theorem readVersion_versionText {v : Version} (hp : printable v = true) :
    readVersion (versionText v) = .ok v := by
  have hd : (Nat.toDigits 10 v.1.natAbs).length ≤ maxStrDigits ∧
      (Nat.toDigits 10 v.2.1.natAbs).length ≤ maxStrDigits ∧
      (Nat.toDigits 10 v.2.2.natAbs).length ≤ maxStrDigits := by
    simpa [printable] using hp
  have hparts : ∀ l ∈ [(toString v.1).toList, (toString v.2.1).toList, (toString v.2.2).toList],
      ∀ c ∈ l, c ∈ '-' :: decimalDigits := by
    intro l hl c hc
    simp only [List.mem_cons, List.mem_singleton, List.not_mem_nil, or_false] at hl
    rcases hl with rfl | rfl | rfl <;> exact mem_toString hc
  have hchars : ∀ c ∈ (versionText v).toList, c ∈ '.' :: '-' :: decimalDigits := by
    intro c hc
    simp only [toList_versionText, List.intercalate, List.intersperse, List.flatten,
      List.mem_append, List.mem_singleton, List.append_nil] at hc
    rcases hc with h | rfl | h | rfl | h
    all_goals first
      | exact List.mem_cons_self _ _
      | exact List.mem_cons_of_mem _ (hparts _ (by simp) c h)
  have hkey : ∀ c ∈ '.' :: '-' :: decimalDigits, pyIsSpace c = false ∧ c ∉ ['\x27'] := by
    decide
  have hsplit : pySplit (versionText v) '.' = [toString v.1, toString v.2.1, toString v.2.2] := by
    rw [pySplit, toList_versionText, List.splitOn_intercalate]
    · rfl
    · intro l hl hdot
      have : '.' ∉ '-' :: decimalDigits := by decide
      exact this (hparts l hl '.' hdot)
    · simp
  rw [readVersion, pyStrip_of_forall fun c hc => (hkey c (hchars c hc)).1,
    pyStripChars_of_forall fun c hc => (hkey c (hchars c hc)).2, hsplit]
  simp only [List.mapM_cons, List.mapM_nil, pyInt_toString hd.1, pyInt_toString hd.2.1,
    pyInt_toString hd.2.2, ok_bind]
  rfl

/-! ## One run of `main` -/

theorem bump_eq_none_iff (releaseType : String) (v : Version) :
    bump releaseType v = none ↔ releaseType ∉ ["major", "minor", "patch"] := by
  unfold bump
  split_ifs <;> simp_all

/-- A release raises the version. -/
theorem versionKey_lt_of_bump {releaseType : String} {v w : Version}
    (h : bump releaseType v = some w) : versionKey v < versionKey w := by
  unfold bump at h
  split_ifs at h <;> cases h <;> simp [versionKey, Prod.Lex.lt_iff]

/-- A run keeps its version, or moves to a release it can print. -/
theorem releaseStep_cases (v : Version) (args : Args) :
    (releaseStep v args).2 = v ∨
      ∃ w, bump args.releaseType v = some w ∧ printable w = true ∧ (releaseStep v args).2 = w := by
  unfold releaseStep
  cases hb : bump args.releaseType v with
  | none => exact .inl rfl
  | some w =>
    by_cases hp : printable w = true
    · cases hu : args.updateVersion
      · exact .inl (by simp [hp, hu])
      · exact .inr ⟨w, rfl, hp, by simp [hp, hu]⟩
    · exact .inl (by simp [hp])

theorem versionKey_le_releaseStep (v : Version) (args : Args) :
    versionKey v ≤ versionKey (releaseStep v args).2 := by
  rcases releaseStep_cases v args with h | ⟨w, hb, -, h⟩
  · rw [h]
  · rw [h]
    exact (versionKey_lt_of_bump hb).le

/-- `get_next_version` on a file it can read makes the abstract release, with its text and tag,
or raises. -/
theorem getNextVersion_of_readVersion {releaseType versionTxt : String} {v : Version}
    (h : readVersion versionTxt = .ok v) :
    getNextVersion releaseType versionTxt = match bump releaseType v with
      | some w =>
        if printable w then .ok (w, versionText w, "v" ++ versionText w) else .error strDigitsError
      | none => .error (.valueError
          "Incorrect release type specified. Acceptable types are major, minor and patch.") := by
  rw [getNextVersion, h, ok_bind]
  unfold bump printable versionText
  split_ifs <;> first | rfl | (simp only [pure_bind, mapM_pyStr]; split_ifs <;> rfl)

/-- One run of `main` on a file it can read: the abstract run, printed, and written exactly when
it moves the version. -/
theorem main_of_readVersion {versionTxt : String} {v : Version}
    (h : readVersion versionTxt = .ok v) (args : Args) :
    main args versionTxt = (mainResult (releaseStep v args).1,
      if (releaseStep v args).2 = v then versionTxt else versionText (releaseStep v args).2) := by
  unfold main
  by_cases ht : args.releaseType ∈ ["major", "minor", "patch"]
  · rw [if_pos ht, getNextVersion_of_readVersion h]
    cases hb : bump args.releaseType v with
    | none => exact absurd ((bump_eq_none_iff _ _).mp hb) (not_not.mpr ht)
    | some w =>
      have hne : w ≠ v := fun hw => (versionKey_lt_of_bump hb).ne (hw ▸ rfl)
      by_cases hp : printable w = true
      · cases hu : args.updateVersion
        · simp [releaseStep, hb, hp, hu, mainResult, releaseLine]
        · simp [releaseStep, hb, hp, hu, mainResult, releaseLine, updateVersion_eq, hne]
      · simp [releaseStep, hb, hp, mainResult]
  · rw [if_neg ht, releaseStep, (bump_eq_none_iff _ _).mpr ht]
    simp [mainResult]

/-- One run keeps the file readable, as the abstract run's version. -/
theorem main_step {versionTxt : String} {v : Version} (h : readVersion versionTxt = .ok v)
    (args : Args) :
    readVersion (main args versionTxt).2 = .ok (releaseStep v args).2 ∧
      (main args versionTxt).1 = mainResult (releaseStep v args).1 := by
  rw [main_of_readVersion h]
  refine ⟨?_, rfl⟩
  by_cases hkeep : (releaseStep v args).2 = v
  · rw [if_pos hkeep, hkeep]
    exact h
  · obtain ⟨w, -, hp, hw⟩ := (releaseStep_cases v args).resolve_left hkeep
    rw [if_neg hkeep, hw]
    exact readVersion_versionText hp

/-! ## Runs of `main` -/

/-- Over any runs, a readable file follows the abstract model. -/
theorem versionAfter_of_readVersion {versionTxt : String} {v : Version}
    (h : readVersion versionTxt = .ok v) (runs : List Args) :
    readVersion (versionAfter versionTxt runs) = .ok (releasedVersion v runs) ∧
      printed versionTxt runs = (releases v runs).map mainResult := by
  induction runs generalizing versionTxt v with
  | nil => exact ⟨h, rfl⟩
  | cons args runs ih =>
    obtain ⟨hread, hout⟩ := main_step h args
    obtain ⟨ih1, ih2⟩ := ih hread
    exact ⟨ih1, by rw [printed, hout, ih2]; rfl⟩

/-- A file holding a version's text stays one: later runs write or keep such a file. -/
theorem versionAfter_versionText {v : Version} (hp : printable v = true) (runs : List Args) :
    versionAfter (versionText v) runs = versionText (releasedVersion v runs) := by
  induction runs generalizing v with
  | nil => rfl
  | cons args runs ih =>
    have hmain : (main args (versionText v)).2 = versionText (releaseStep v args).2 := by
      rw [main_of_readVersion (readVersion_versionText hp)]
      split
      · rename_i hv
        rw [hv]
      · rfl
    have hp' : printable (releaseStep v args).2 = true := by
      rcases releaseStep_cases v args with hv | ⟨w, -, hpw, hw⟩
      · rw [hv]; exact hp
      · rw [hw]; exact hpw
    rw [versionAfter, hmain, ih hp']
    rfl

theorem versionKey_le_releasedVersion (v : Version) (runs : List Args) :
    versionKey v ≤ versionKey (releasedVersion v runs) := by
  induction runs generalizing v with
  | nil => exact le_rfl
  | cons args runs ih => exact (versionKey_le_releaseStep v args).trans (ih _)

/-- Once the runs have moved the version, it is higher and the file holds exactly its text. -/
theorem releasedVersion_of_ne {versionTxt : String} {v : Version}
    (h : readVersion versionTxt = .ok v) {runs : List Args} (hne : releasedVersion v runs ≠ v) :
    versionKey v < versionKey (releasedVersion v runs) ∧
      versionAfter versionTxt runs = versionText (releasedVersion v runs) := by
  induction runs generalizing versionTxt v with
  | nil => exact absurd rfl hne
  | cons args runs ih =>
    by_cases hkeep : (releaseStep v args).2 = v
    · -- this run keeps the version and the file
      have hfile : (main args versionTxt).2 = versionTxt := by
        rw [main_of_readVersion h, if_pos hkeep]
      rw [releasedVersion, hkeep] at hne ⊢
      rw [versionAfter, hfile]
      exact ih h hne
    · -- this run writes its release
      obtain ⟨w, hb, hp, hw⟩ := (releaseStep_cases v args).resolve_left hkeep
      have hfile : (main args versionTxt).2 = versionText w := by
        rw [main_of_readVersion h, if_neg hkeep, hw]
      rw [releasedVersion, hw, versionAfter, hfile, versionAfter_versionText hp]
      exact ⟨(versionKey_lt_of_bump hb).trans_le (versionKey_le_releasedVersion w runs), rfl⟩

/-- Four invocations: `--release-type patch --update-version`, a misspelt `pach`,
`--release-type major` without writing, and `--release-type minor --update-version`. -/
def releaseRuns : List Args :=
  [⟨"patch", true⟩, ⟨"pach", true⟩, ⟨"major", false⟩, ⟨"minor", true⟩]

/-! ## The three results -/

/-- `update_version` writes what `get_next_version` reads: for every version `str()` can print,
the file holds its text, which reads back as that version, and the next `get_next_version` on it
makes the abstract release of that version, with its text and tag, or raises; for a version with
a part past the digit limit, `update_version` raises and leaves the file empty. -/
theorem version_file_round_trip (v : Version) (releaseType : String) :
    (printable v = true →
      updateVersion v = (.ok (), versionText v) ∧ readVersion (versionText v) = .ok v ∧
      getNextVersion releaseType (versionText v) = match bump releaseType v with
        | some w =>
          if printable w then .ok (w, versionText w, "v" ++ versionText w)
          else .error strDigitsError
        | none => .error (.valueError
            "Incorrect release type specified. Acceptable types are major, minor and patch.")) ∧
    (printable v = false → updateVersion v = (.error strDigitsError, "")) :=
  ⟨fun hp => ⟨by rw [updateVersion_eq, if_pos hp], readVersion_versionText hp,
      getNextVersion_of_readVersion (readVersion_versionText hp)⟩,
    fun hp => by rw [updateVersion_eq, hp]; rfl⟩

/-- From any `version.txt` that `get_next_version` can read, every sequence of invocations of
`main` follows the abstract model on version tuples: the file stays readable, holding the
model's version, and each invocation prints the model's release line or raises its
`ValueError`. The version never decreases; once it has moved it is higher, and the file holds
exactly `major.minor.patch`. -/
theorem release_runs_refine_version_bumps (versionTxt : String) (v : Version)
    (hv : readVersion versionTxt = .ok v) (runs : List Args) :
    readVersion (versionAfter versionTxt runs) = .ok (releasedVersion v runs) ∧
      printed versionTxt runs = (releases v runs).map mainResult ∧
      versionKey v ≤ versionKey (releasedVersion v runs) ∧
      (releasedVersion v runs ≠ v →
        versionKey v < versionKey (releasedVersion v runs) ∧
          versionAfter versionTxt runs = versionText (releasedVersion v runs)) :=
  ⟨(versionAfter_of_readVersion hv runs).1, (versionAfter_of_readVersion hv runs).2,
    versionKey_le_releasedVersion v runs, releasedVersion_of_ne hv⟩

/-- A quoted four-part version with a trailing newline, then a patch release, a run with a
misspelt type, a major release not written, and a minor release. -/
theorem release_runs_from_quoted_four_parts :
    readVersion "\x271.2.3.4\x27\n" = .ok (1, 2, 3) ∧
      (readVersion (versionAfter "\x271.2.3.4\x27\n" releaseRuns) =
          .ok (releasedVersion (1, 2, 3) releaseRuns) ∧
        printed "\x271.2.3.4\x27\n" releaseRuns = (releases (1, 2, 3) releaseRuns).map mainResult ∧
        versionKey (1, 2, 3) ≤ versionKey (releasedVersion (1, 2, 3) releaseRuns) ∧
        (releasedVersion (1, 2, 3) releaseRuns ≠ (1, 2, 3) →
          versionKey (1, 2, 3) < versionKey (releasedVersion (1, 2, 3) releaseRuns) ∧
            versionAfter "\x271.2.3.4\x27\n" releaseRuns =
              versionText (releasedVersion (1, 2, 3) releaseRuns))) :=
  ⟨rfl, release_runs_refine_version_bumps "\x271.2.3.4\x27\n" (1, 2, 3) rfl releaseRuns⟩

/-- A `version.txt` that `get_next_version` cannot read (an `int()` it rejects, or fewer than
three parts) is never changed: every invocation of `main` raises, the reading error for a valid
release type and the release-type `ValueError` otherwise. -/
theorem unreadable_version_file_stays (versionTxt : String) (e : PyError)
    (he : readVersion versionTxt = .error e) (runs : List Args) :
    versionAfter versionTxt runs = versionTxt ∧
      printed versionTxt runs = runs.map fun args =>
        if args.releaseType ∈ ["major", "minor", "patch"] then .error e
        else .error (.valueError "Incorrect release type specified") := by
  have hmain : ∀ args : Args, main args versionTxt = (if args.releaseType ∈ ["major", "minor", "patch"]
      then .error e else .error (.valueError "Incorrect release type specified"), versionTxt) := by
    intro args
    unfold main getNextVersion
    split_ifs <;> simp only [he, error_bind]
  induction runs with
  | nil => exact ⟨rfl, rfl⟩
  | cons args runs ih => simp only [versionAfter, printed, hmain, ih, List.map_cons, and_self]

/-- A two-part version raises `IndexError` on every run. -/
theorem two_part_version_stays :
    readVersion "1.2" = .error .indexError ∧
      (versionAfter "1.2" releaseRuns = "1.2" ∧
        printed "1.2" releaseRuns = releaseRuns.map fun args =>
          if args.releaseType ∈ ["major", "minor", "patch"] then .error .indexError
          else .error (.valueError "Incorrect release type specified")) :=
  ⟨rfl, unreadable_version_file_stays "1.2" .indexError rfl releaseRuns⟩

end ReleaseUtils

end Pyvrs
