import Mathlib.Data.Set.Function
import SnippetCheck.Proofs.Run.Fair

/-!
# Sound Caches

Let the right errors for a content under an SDK version be given by `verdict`. A cache file is sound
when all it holds on the contents in question is right, for the SDK version that it belongs to
(`SoundBytes`). If a session finds what `verdict` says and hashes do not collide, every unit is
settled with the right errors (`settle_eq_rightOutcome`), and a compile phase leaves the cache file
sound wherever it stops (`sound_exec_compile`).
-/

namespace SnippetCheck

open Action Files Workspace

namespace Cache

variable (contents : Set String) (verdict : SdkVersion → String → List String)

/-- Whatever a cache file holds on one of the contents is right for its SDK version. -/
def SoundBytes (content? : Option ByteArray) : Prop :=
  ∀ bytes version cache, content? = some bytes → ofBytes? bytes = some (version.text, cache) →
    ∀ content ∈ contents, ∀ errors, cache.get? (.of content) = some errors →
      errors = verdict version content

/-- The cache file at a location is sound. -/
def SoundAt (cwd location : Location) (workspace : Workspace) : Prop :=
  workspace.cwd = cwd ∧ SoundBytes contents verdict (workspace.files.fileAt? location)

variable {contents verdict}

/-- No cache file is a sound one. -/
theorem soundBytes_none : SoundBytes contents verdict none :=
  fun _ _ _ hnone => nomatch hnone

/-- What is known to a cache that a sound cache file holds is right. -/
theorem eq_verdict_of_held {content? : Option ByteArray} {version : SdkVersion} {cache : Cache}
    {content : String} {errors : List String} (hsound : SoundBytes contents verdict content?)
    (hheld : Held content? version cache) (hcontent : content ∈ contents)
    (hget : cache.get? (.of content) = some errors) : errors = verdict version content := by
  rcases hheld with rfl | ⟨bytes, hfile, hbytes⟩
  · cases hget
  · exact hsound bytes version cache hfile hbytes content hcontent errors hget

/-- An action that leaves a cache file alone, whatever it holds, keeps it sound. -/
theorem keeps_soundAt {ε α : Type} {action : Action ε α} {cwd location : Location}
    (h : ∀ content, action.Keeps (HoldsAt cwd location content)) :
    action.Keeps (SoundAt contents verdict cwd location) :=
  Keeps.of_holdsAt h (SoundBytes contents verdict)

/-- A version is determined by its text. -/
private theorem version_eq_of_text_eq {version other : SdkVersion}
    (h : version.text = other.text) : version = other := by
  cases version
  cases other
  cases h
  rfl

/-- When hashes do not collide, the cache of right outcomes is sound. -/
theorem soundBytes_cacheOf (hinj : Set.InjOn ContentHash.of contents) {version : SdkVersion}
    {outcomes : List Outcome}
    (h : ∀ outcome ∈ outcomes, ∃ content ∈ contents,
      outcome.hash = .of content ∧ outcome.errors = verdict version content) :
    SoundBytes contents verdict
      (some ((Phase.cacheOf outcomes).toText version).toUTF8) := by
  intro bytes stored cache hbytes hcache content hcontent errors hget
  obtain rfl := Option.some.inj hbytes
  rw [ofBytes?_toText (Phase.canonical_cacheOf _), Option.some.injEq, Prod.mk.injEq] at hcache
  obtain ⟨htext, rfl⟩ := hcache
  obtain rfl := version_eq_of_text_eq htext
  obtain ⟨outcome, hmem, heq⟩ := List.mem_map.1 (mem_of_get?_ofList hget)
  obtain ⟨hhash, rfl⟩ := Prod.mk.inj heq
  obtain ⟨other, hother, hof, herrors⟩ := h outcome hmem
  rw [herrors, hinj hcontent hother (hhash.symm.trans hof)]

end Cache

namespace Phase

open Cache

variable {machine : Machine} {contents : Set String} {verdict : SdkVersion → String → List String}
  {cwd location : Location} {run : Run} {start : Workspace}

/-- The outcome for a unit that `verdict` gives errors for. -/
def rightOutcome (cache : Cache) (verdict : String → List String) (sourceUnit : SourceUnit) :
    Outcome :=
  outcomeOf sourceUnit (verdict sourceUnit.snippet.content)
    (cache.get? sourceUnit.snippet.hash).isSome

/-- With a cache that a sound cache file holds, a unit is given the right errors, whether these are
cached or not. -/
theorem settle_eq_rightOutcome {content? : Option ByteArray} {version : SdkVersion} {cache : Cache}
    {sourceUnit : SourceUnit} (hsound : SoundBytes contents verdict content?)
    (hheld : Held content? version cache) (hmem : sourceUnit.snippet.content ∈ contents) :
    settle cache (fun sourceUnit => verdict version sourceUnit.snippet.content) sourceUnit =
      rightOutcome cache (verdict version) sourceUnit := by
  unfold settle rightOutcome
  split
  next errors hget =>
    rw [hget, eq_verdict_of_held hsound hheld hmem hget]
    rfl
  next hget =>
    rw [hget]
    rfl

/-- Forgetting the cache leaves a sound cache file or none. -/
theorem keeps_forgetCache_soundAt (task : Task) :
    (forgetCache task).Keeps (SoundAt contents verdict cwd location) :=
  .forgetCache fun _ => keeps_removeFileIfPresent_of_none _ soundBytes_none

/-- Storing right outcomes leaves a sound cache file, and so does failing to store them. -/
theorem keeps_save_soundAt (hinj : Set.InjOn ContentHash.of contents) {version : SdkVersion}
    {outcomes : List Outcome} {path : String} (hpath : target cwd path = location)
    (h : ∀ outcome ∈ outcomes, ∃ content ∈ contents,
      outcome.hash = .of content ∧ outcome.errors = verdict version content) :
    ((cacheOf outcomes).save path version).Keeps (SoundAt contents verdict cwd location) := by
  refine Keeps.bind (keeps_soundAt fun content => Keeps.holdsAt fun origin _ =>
    keeps_makeParents path) fun _ => Keeps.replaceFiles fun start files hstart hwrite => ?_
  refine ⟨hstart.1, ?_⟩
  have hfile := Tree.fileAt?_target_of_write hwrite
  rw [hstart.1, hpath] at hfile
  rw [hfile]
  exact soundBytes_cacheOf hinj h

/-- A compile phase that is ready leaves a sound cache file, whether it succeeds or not. -/
theorem sound_exec_compile (hspares : machine.Spares location)
    (hinj : Set.InjOn ContentHash.of contents)
    (hready : Ready machine location
      (fun sourceUnit => verdict run.task.version sourceUnit.snippet.content) run start)
    (hmem : ∀ sourceUnit ∈ run.units, sourceUnit.snippet.content ∈ contents)
    (hsound : SoundBytes contents verdict (start.files.fileAt? location)) :
    SoundAt contents verdict start.cwd location (((compile machine).perform run).exec start).2 := by
  -- the cache to go by is the empty one or what the file holds at the start
  have hheld := held_loadedCache run.task start
  rw [hready.cache] at hheld
  refine holds_exec_bind (Keeps.describing _ (keeps_forgetCache_soundAt run.task)) ⟨rfl, hsound⟩
    fun _ forgotten hforget hsoundForgotten => ?_
  rw [yields_describing] at hforget
  rw [exec_get_bind]
  dsimp only
  rw [orWarn_eq, getD_load_of_forgetCache hforget]
  -- the processes leave the cache file alone
  refine holds_exec_bind (Keeps.describing _ (keeps_soundAt fun content =>
    Compiler.Session.keeps_compile_holdsAt hspares _ _ _ content)) hsoundForgotten
    fun fresh compiled hcompile hsoundCompiled => ?_
  rw [yields_describing] at hcompile
  dsimp only
  rw [outcomes_of_ready hready hforget hcompile]
  -- what is stored are the right outcomes of all units
  refine holds_exec_bind (Keeps.describing _ (keeps_save_soundAt hinj hready.cache ?_))
    hsoundCompiled fun _ _ _ hsoundStored => hsoundStored
  intro outcome houtcome
  obtain ⟨sourceUnit, hunit, rfl⟩ := List.mem_map.1 houtcome
  rw [settle_eq_rightOutcome hsound hheld (hmem sourceUnit hunit)]
  exact ⟨_, hmem sourceUnit hunit, rfl, rfl⟩

end Phase

end SnippetCheck
