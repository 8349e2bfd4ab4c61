import SnippetCheck.Proofs.Run.Phase
import SnippetCheck.Proofs.State.Baseline
import SnippetCheck.Proofs.State.Cache
import SnippetCheck.Proofs.Tandem

/-!
# Loading State That Cannot Be Used

The files of a task's state may hold anything. When they hold bytes that are no cache for its SDK
version, or no baseline (`Spoilt.Unusable`), what is loaded is the same as without these files. That
is noted unless the bytes hold the cache of another version (`SpoiltAt.load_baseline`,
`SpoiltAt.load_cache`).
-/

namespace SnippetCheck

open Action Files Workspace Phase

/-! ## Loading -/

/-- What is wrong with a file whose bytes hold no document. -/
def StateError.unread (path : String) (bytes : ByteArray) : StateError :=
  if (String.fromUTF8? bytes).isSome then .corrupt path else .unreadable path

namespace Workspace

variable {α : Type} {workspace other : Workspace} {path : String}
  {decode : Json.Value → Option α} {content : Option ByteArray}

/-- What is loaded from a file is what its bytes hold. -/
theorem loadDocument_of_readBytes {bytes : ByteArray}
    (h : workspace.files.readBytes workspace.cwd path = .ok bytes) :
    workspace.loadDocument path decode =
      ((String.fromUTF8? bytes).bind fun text => (Json.ofText? text).bind decode).elim
        (.error (.unread path bytes)) .ok := by
  have hread : workspace.readText path =
      (String.fromUTF8? bytes).elim (.error .notText) .ok := by
    rw [Workspace.readText, Tree.readText, h]
    dsimp only [bind, Except.bind]
    cases String.fromUTF8? bytes <;> rfl
  rw [loadDocument, hread, StateError.unread]
  cases String.fromUTF8? bytes with
  | none => rfl
  | some text =>
    rw [Option.bind_some, Option.elim_some]
    dsimp only
    cases (Json.ofText? text).bind decode <;> rfl

/-- Nothing is loaded from where a path leads to nothing. -/
theorem loadDocument_of_absent
    (hlocate : workspace.files.locate workspace.cwd path = .ok (target workspace.cwd path))
    (hnone : workspace.files.get? (target workspace.cwd path) = none) :
    workspace.loadDocument path decode = .error (.missing path) := by
  have hread : workspace.readText path = .error .notFound := by
    unfold Workspace.readText Files.Tree.readText Files.Tree.readBytes Files.Tree.node
    rw [hlocate]
    dsimp only [bind, Except.bind]
    rw [hnone]
    rfl
  rw [loadDocument, hread]

/-- A path leads to nothing in one workspace, and to a file of some bytes in the other; or, without
bytes, to the same text in both or in neither. -/
def SpoiltAt (path : String) (content : Option ByteArray) (workspace other : Workspace) : Prop :=
  match content with
  | none => other.readText path = workspace.readText path
  | some bytes =>
    (∀ (α : Type) (decode : Json.Value → Option α),
      workspace.loadDocument path decode = .error (.missing path)) ∧
    other.files.readBytes other.cwd path = .ok bytes

/-- In workspaces that are alike up to some files, bytes stand in the place of nothing if they are
read in one of them and there is no file in the other. -/
theorem Alike.spoiltAt {origin origin' : Workspace} {files : Set Location}
    (h : origin.Alike origin' files ∅ workspace other)
    (hway : ∀ stage ∈ (stages origin.cwd path).dropLast, stage ∉ files)
    (hplace : content = none → target origin.cwd path ∉ files)
    (hgone : content.isSome = true → workspace.files.fileAt? (target origin.cwd path) = none)
    (hbytes : ∀ bytes, content = some bytes → ReadsBytes origin.cwd path bytes other) :
    SpoiltAt path content workspace other := by
  have hsame {stage : Location} (hstage : stage ∉ files) :
      other.files.get? stage = workspace.files.get? stage :=
    (h.files stage).get?_eq hstage (Set.notMem_empty stage)
  cases content with
  | none =>
    show other.readText path = workspace.readText path
    rw [Workspace.readText, Workspace.readText, h.cwd, h.cwd']
    refine Tree.readText_congr fun stage hstage => hsame ?_
    rcases mem_stages_iff_dropLast.1 hstage with hbefore | rfl
    · exact hway stage hbefore
    · exact hplace rfl
  | some bytes =>
    obtain ⟨-, hread⟩ := hbytes bytes rfl
    obtain ⟨hlocate, hfile⟩ := Tree.readBytes_eq_ok.1 hread
    have hnone : workspace.files.get? (target origin.cwd path) = none := by
      have hmissing := hgone rfl
      cases hget : workspace.files.get? (target origin.cwd path) with
      | none => rfl
      | some node =>
        cases node with
        | file other =>
          rw [Tree.fileAt?_eq_some.2 hget] at hmissing
          cases hmissing
        | directory =>
          -- a directory may not differ, but a file stands in the other workspace
          rcases h.files (target origin.cwd path) with heq | ⟨-, hno, -⟩ | ⟨hdir, -⟩
          · rw [Tree.fileAt?_eq_some.1 hfile, hget] at heq
            cases heq
          · exact absurd hget hno
          · exact absurd hdir (Set.notMem_empty _)
    have hlocate' : workspace.files.locate origin.cwd path = .ok (target origin.cwd path) := by
      rw [← hlocate]
      exact Tree.locate_congr fun stage hstage => (hsame (hway stage hstage)).symm
    rw [← h.cwd] at hnone hlocate'
    rw [← h.cwd'] at hread
    exact ⟨fun _ _ => loadDocument_of_absent hlocate' hnone, hread⟩

end Workspace

/-! ## Spoilt state -/

/-- Bytes that stand in the place of the files of a task's state, if these are spoilt. -/
structure Spoilt where
  /-- The bytes in the place of the cache. -/
  cache : Option ByteArray
  /-- The bytes in the place of the baseline. -/
  baseline : Option ByteArray

namespace Spoilt

/-- Where the files stand that are spoilt. -/
def places (spoilt : Spoilt) (task : Task) (cwd : Location) : Set Location :=
  {location | spoilt.cache.isSome = true ∧ location = target cwd task.paths.cacheFile ∨
    spoilt.baseline.isSome = true ∧ location = target cwd task.paths.baselineFile}

instance (spoilt : Spoilt) (task : Task) (cwd location : Location) :
    Decidable (location ∈ spoilt.places task cwd) :=
  inferInstanceAs (Decidable (_ ∧ _ ∨ _ ∧ _))

/-- The bytes hold no cache for an SDK version, and no baseline. -/
structure Unusable (spoilt : Spoilt) (version : SdkVersion) : Prop where
  cache : ∀ bytes, spoilt.cache = some bytes →
    ∀ cache, Cache.ofBytes? bytes ≠ some (version.text, cache)
  baseline : ∀ bytes, spoilt.baseline = some bytes → Baseline.ofBytes? bytes = none

/-- The warning about a file of some bytes that hold no document. -/
def warning (phase path : String) (bytes : ByteArray) : Diagnostic where
  severity := .warning
  phase := phase
  message := (StateError.unread path bytes).message

/-- The warning about the baseline, if that is spoilt. -/
def baselineWarnings (spoilt : Spoilt) (task : Task) : List Diagnostic :=
  spoilt.baseline.toList.map (warning "baseline-filter" task.paths.baselineFile)

/-- The warning about the cache, if that is spoilt and not just one for another SDK version. -/
def cacheWarnings (spoilt : Spoilt) (task : Task) : List Diagnostic :=
  (spoilt.cache.toList.filter fun bytes => (Cache.ofBytes? bytes).isNone).map
    (warning "compile" task.paths.cacheFile)

end Spoilt

namespace Workspace.SpoiltAt

variable {spoilt : Spoilt} {task : Task} {workspace other : Workspace}

/-- A file of bytes that hold no document is noted. -/
private theorem noted_unread {α : Type} (phase path : String) (bytes : ByteArray) :
    noted (.error (.unread path bytes) : Except StateError α) phase =
      [Spoilt.warning phase path bytes] := by
  have hfault : (StateError.unread path bytes).isFault = true := by
    unfold StateError.unread
    split <;> rfl
  simp [noted, hfault, Spoilt.warning]

/-- Instead of a spoilt baseline the empty one is taken, as if there was none, and that is noted. -/
theorem load_baseline (h : SpoiltAt task.paths.baselineFile spoilt.baseline workspace other)
    {version : SdkVersion} (hunusable : spoilt.Unusable version) :
    let loaded := Baseline.load workspace task.paths.baselineFile
    let loaded' := Baseline.load other task.paths.baselineFile
    loaded'.toOption.getD .empty = loaded.toOption.getD .empty ∧
      noted loaded' "baseline-filter" =
        noted loaded "baseline-filter" ++ spoilt.baselineWarnings task := by
  have hbytes := hunusable.baseline
  unfold Baseline.load Spoilt.baselineWarnings
  cases hcontent : spoilt.baseline with
  | none =>
    rw [hcontent] at h
    have hread : other.readText task.paths.baselineFile =
        workspace.readText task.paths.baselineFile := h
    simp [loadDocument, hread]
  | some bytes =>
    rw [hcontent] at h
    obtain ⟨hmissing, hread⟩ := h
    have hnone : ((String.fromUTF8? bytes).bind fun text =>
        (Json.ofText? text).bind Baseline.ofJson?) = none := hbytes bytes hcontent
    rw [hmissing, loadDocument_of_readBytes hread, hnone]
    refine ⟨rfl, ?_⟩
    dsimp only [Option.elim]
    rw [noted_unread]
    rfl

/-- Instead of a spoilt cache the empty one is taken, as if there was none, and that is noted unless
it is one for another SDK version. -/
theorem load_cache (h : SpoiltAt task.paths.cacheFile spoilt.cache workspace other)
    (hunusable : spoilt.Unusable task.version) :
    let loaded := Cache.load workspace task.paths.cacheFile task.version
    let loaded' := Cache.load other task.paths.cacheFile task.version
    loaded'.toOption.getD .empty = loaded.toOption.getD .empty ∧
      noted loaded' "compile" = noted loaded "compile" ++ spoilt.cacheWarnings task := by
  intro loaded loaded'
  unfold Spoilt.cacheWarnings
  cases hcontent : spoilt.cache with
  | none =>
    rw [hcontent] at h
    have hread : other.readText task.paths.cacheFile = workspace.readText task.paths.cacheFile := h
    have hsame : loaded' = loaded := by
      simp only [loaded, loaded', Cache.load, loadDocument, hread]
    simp [hsame]
  | some bytes =>
    rw [hcontent] at h
    obtain ⟨hmissing, hread⟩ := h
    have hload : loaded = .error (.missing task.paths.cacheFile) := by
      simp only [loaded, Cache.load, hmissing]
    have hdocument : other.loadDocument task.paths.cacheFile Cache.ofJson? =
        (Cache.ofBytes? bytes).elim (.error (.unread task.paths.cacheFile bytes)) .ok :=
      loadDocument_of_readBytes hread
    cases hstored : Cache.ofBytes? bytes with
    | none =>
      have hload' : loaded' = .error (.unread task.paths.cacheFile bytes) := by
        simp only [loaded', Cache.load, hdocument, hstored, Option.elim]
      rw [hload, hload', noted_unread]
      simp [Except.toOption, noted, StateError.isFault, hstored]
    | some stored =>
      -- the cache of another SDK version is not worth a warning
      have hversion : stored.1 ≠ task.version.text := by
        intro heq
        refine hunusable.cache bytes hcontent stored.2 ?_
        rw [hstored, ← heq]
      have hload' : loaded' =
          .error (.otherVersion task.paths.cacheFile stored.1 task.version.text) := by
        simp only [loaded', Cache.load, hdocument, hstored, Option.elim, if_neg hversion]
      rw [hload, hload']
      simp [Except.toOption, noted, StateError.isFault, hstored]

end Workspace.SpoiltAt

end SnippetCheck
