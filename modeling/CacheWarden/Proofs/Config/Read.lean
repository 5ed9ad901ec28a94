import CacheWarden.Config.Read
import CacheWarden.Proofs.Text.Words
import Mathlib

/-!
# Configurations as they are read

What a configuration comes from, apart from what is logged about it, and what every configuration
that was read satisfies. Main statements: `value_ofProperties`, `normal_ofProperties`.
-/

namespace CacheWarden.Config

open Text

theorem value_readCacheDir (props : Properties) :
    (readCacheDir props).value =
      ((props.get? "cacheDir").map fun raw => String.ofList (trim raw.toList)).filter
        fun dir => dir != "" && dir != defaultLocation := by
  unfold readCacheDir
  dsimp only
  split
  · rename_i h
    exact h.symm
  · rename_i h
    exact h.symm

theorem value_readExpectedCount (props : Properties) :
    (readExpectedCount props).value =
      (props.get? "expectedCacheCount").bind fun raw => (Setting.readCount raw).toOption := by
  unfold readExpectedCount
  cases props.get? "expectedCacheCount" with
  | none => rfl
  | some raw =>
    simp only [Option.map_some, Option.bind_some]
    cases Setting.readCount raw <;> rfl

theorem value_readTimeout (props : Properties) :
    (readTimeout props).value =
      ((props.get? "storeTimeoutSecs").bind fun raw =>
        (Setting.readCount raw).toOption.filter (0 < ·)).getD 300 := by
  unfold readTimeout
  cases props.get? "storeTimeoutSecs" with
  | none => rfl
  | some raw =>
    simp only [Option.bind_some]
    cases (Setting.readCount raw).toOption.filter (0 < ·) <;> rfl

/-- The configuration of a set of settings, field by field. -/
theorem value_ofProperties (javaHome : Option String) (props : Properties) :
    (ofProperties javaHome props).value =
      { cacheDir := (readCacheDir props).value
        commandLineValues :=
          (Setting.lenientBool "commandLineValues" (props.get? "commandLineValues")).value
        delete := (Setting.lenientBool "delete" (props.get? "delete")).value
        expectedCacheCount := (readExpectedCount props).value
        cacheFiles :=
          ((props.get? "cacheFiles").map fun raw => (words raw.toList).map String.ofList).getD []
        strictCountCheck :=
          (Setting.lenientBool "strictCountCheck" (props.get? "strictCountCheck")).value
        reapMode := (readReapMode props).value
        recordsFile := filled? props "recordsFile"
        launcher :=
          { java := (filled? props "java").getD (defaultLauncher javaHome)
            timeoutSecs := (readTimeout props).value
            sharedClassesOption := filled? props "sharedClassesOption" } } := by
  -- Whether deletion and command line values are on decides what is logged, and nothing else.
  rw [ofProperties, Logged.value_bind, Logged.value_bind]
  split
  · rw [Logged.value_bind, Logged.value_bind]
    split <;> rfl
  · rw [Logged.value_bind, Logged.value_bind]
    split <;> rfl

/-- What every configuration that was read satisfies. -/
structure Normal (c : Config) : Prop where
  cacheDir : ∀ d ∈ c.cacheDir, trim d.toList = d.toList ∧ d ≠ "" ∧ d ≠ defaultLocation
  expectedCacheCount : ∀ n ∈ c.expectedCacheCount, n < bound32
  cacheFiles : ∀ f ∈ c.cacheFiles, IsWord f.toList
  recordsFile : ∀ f ∈ c.recordsFile, f ≠ ""
  java : c.launcher.java ≠ ""
  sharedClassesOption : ∀ o ∈ c.launcher.sharedClassesOption, o ≠ ""
  timeoutSecs : c.launcher.timeoutSecs < bound32

theorem ne_empty_of_filled? {props : Properties} {key v : String} (h : filled? props key = some v) :
    v ≠ "" := by
  simpa using (Option.filter_eq_some_iff.1 h).2

theorem filled?_of_get? {props : Properties} {key : String} {o : Option String}
    (hget : props.get? key = o) (hne : ∀ v ∈ o, v ≠ "") : filled? props key = o := by
  rw [filled?, hget]
  cases o with
  | none => rfl
  | some v => exact Option.filter_some_pos (by simpa using hne v rfl)

theorem defaultLauncher_ne_empty (javaHome : Option String) : defaultLauncher javaHome ≠ "" := by
  have hbelow (home : String) : FilePath.below home "java" ≠ "" := by
    rw [FilePath.below]
    split <;> simp
  cases javaHome with
  | none => decide
  | some home => exact hbelow _

theorem lt_of_readCount {raw : String} {n : Nat}
    (h : (Setting.readCount raw).toOption = some n) : n < bound32 := by
  unfold Setting.readCount at h
  split at h
  · rename_i m hm
    obtain rfl : m = n := Option.some.inj h
    exact readUnsigned?_lt hm
  · cases h

theorem normal_ofProperties (javaHome : Option String) (props : Properties) :
    Normal (ofProperties javaHome props).value := by
  rw [value_ofProperties]
  refine ⟨?_, ?_, ?_, ?_, ?_, ?_, ?_⟩
  · intro d hd
    rw [value_readCacheDir] at hd
    obtain ⟨hmap, hplace⟩ := Option.filter_eq_some_iff.1 hd
    obtain ⟨raw, -, rfl⟩ := Option.map_eq_some_iff.1 hmap
    rw [Bool.and_eq_true, bne_iff_ne, bne_iff_ne] at hplace
    refine ⟨?_, hplace⟩
    rw [String.toList_ofList, trim_trim]
  · intro n hn
    rw [value_readExpectedCount] at hn
    obtain ⟨raw, -, hraw⟩ := Option.bind_eq_some_iff.1 hn
    exact lt_of_readCount hraw
  · intro f hf
    cases hfiles : props.get? "cacheFiles" with
    | none =>
      simp only [hfiles] at hf
      cases hf
    | some raw =>
      simp only [hfiles, Option.map_some, Option.getD_some] at hf
      obtain ⟨w, hw, rfl⟩ := List.mem_map.1 hf
      rw [String.toList_ofList]
      exact isWord_of_mem_words hw
  · exact fun f hf => ne_empty_of_filled? hf
  · show (filled? props "java").getD (defaultLauncher javaHome) ≠ ""
    cases hjava : filled? props "java" with
    | none => exact defaultLauncher_ne_empty javaHome
    | some java => exact ne_empty_of_filled? hjava
  · exact fun o ho => ne_empty_of_filled? ho
  · show (readTimeout props).value < bound32
    rw [value_readTimeout]
    cases htime : (props.get? "storeTimeoutSecs").bind fun raw =>
        (Setting.readCount raw).toOption.filter (0 < ·) with
    | none => decide
    | some secs =>
      obtain ⟨raw, -, hraw⟩ := Option.bind_eq_some_iff.1 htime
      exact lt_of_readCount (Option.filter_eq_some_iff.1 hraw).1

end CacheWarden.Config
