/-
# Suites by name

Registering a suite adds its benchmarks at the end of a registry, and the events suite puts
an emitter for them on the shelf; nothing else of the surroundings changes. A list of names
is read from the left and each suite is registered where it is first named, so the whole
reading is the registration of the names without their later repetitions, one by one. What
it comes to is said on these names: the benchmarks of their suites, and one diagnostic for
each name with the number of benchmarks up to there. A name that no suite has ends the
reading where it stands.
-/

import CallBench.Library.Suite
import CallBench.Proofs.Registry.InPlace
import Mathlib.Data.List.Induction
import Mathlib.Data.List.Nodup

namespace CallBench.Suite

variable {α ν σ : Type}

theorem ofName?_eq_some_iff {text : String} {suite : Suite} :
    ofName? text = some suite ↔ suite.name = text := by
  constructor
  · intro hfound
    simpa using List.find?_some hfound
  · rintro rfl
    cases suite <;> decide

theorem ofName?_eq_none_iff {text : String} : ofName? text = none ↔ text ∉ names := by
  rw [ofName?, List.find?_eq_none, names, List.mem_map, not_exists]
  simp

/-- Names that are all known are the names of suites. -/
theorem exists_suites {texts : List String} (known : ∀ text ∈ texts, text ∈ names) :
    ∃ suites : List Suite, suites.map name = texts := by
  induction texts with
  | nil => exact ⟨[], rfl⟩
  | cons text texts ih =>
      obtain ⟨hfirst, hrest⟩ := List.forall_mem_cons.mp known
      obtain ⟨suite, -, hsuite⟩ := List.mem_map.mp hfirst
      obtain ⟨suites, hsuites⟩ := ih hrest
      exact ⟨suite :: suites, by rw [List.map_cons, hsuite, hsuites]⟩

/-- One name more is a first mention, unless it has been mentioned before. -/
theorem eraseDups_concat (texts : List String) (text : String) :
    (texts ++ [text]).eraseDups =
      if text ∈ texts then texts.eraseDups else texts.eraseDups ++ [text] := by
  rw [List.eraseDups_append]
  split_ifs with hmem
  · simp [List.removeAll, hmem]
  · simp [List.removeAll, hmem, List.eraseDups_cons]

theorem nodup_eraseDups (texts : List String) : texts.eraseDups.Nodup := by
  induction texts using List.reverseRecOn with
  | nil => exact List.nodup_nil
  | append_singleton texts text ih =>
      rw [eraseDups_concat]
      split_ifs with hmem
      · exact ih
      · exact List.concat_eq_append ▸ ih.concat (mt List.mem_eraseDups.mp hmem)

/-- A new name is mentioned first right behind the first mentions before it. -/
theorem exists_eraseDups_split (before : List String) {text : String} (new : text ∉ before)
    (after : List String) :
    ∃ rest, (before ++ text :: after).eraseDups = before.eraseDups ++ text :: rest := by
  rw [List.eraseDups_append]
  have hremove : (text :: after).removeAll before = text :: after.removeAll before := by
    simp [List.removeAll, new]
  rw [hremove, List.eraseDups_cons]
  exact ⟨_, rfl⟩

section

variable {m : Type → Type} [Monad m] [MonadStateOf (Shelf Unit) m] [MonadDiagnostics m]
  [MonadExceptOf Stop m]

/-- The names that are passed over are those that have been seen and the repetitions of
others. -/
theorem registerEach_eq_foldlM (seen : List String) (registry : Registry (Job α))
    (texts : List String) :
    (registerEach seen registry texts : m (Registry (Job α))) =
      (texts.filter (· ∉ seen)).eraseDups.foldlM
        (fun registry text => registerNamed text registry) registry := by
  induction texts generalizing seen registry with
  | nil => rfl
  | cons text rest ih =>
      rw [registerEach]
      by_cases hseen : text ∈ seen
      · rw [if_pos hseen, List.filter_cons_of_neg (by simpa using hseen)]
        exact ih seen registry
      · have hrest : rest.filter (· ∉ seen ++ [text]) =
            (rest.filter (· ∉ seen)).filter (fun later => !later == text) := by
          rw [List.filter_filter]
          apply List.filter_congr
          intro later _
          simp [Bool.and_comm, beq_eq_decide]
        rw [if_neg hseen, List.filter_cons_of_pos (by simpa using hseen),
          List.eraseDups_cons, List.foldlM_cons]
        apply bind_congr
        intro later
        rw [ih, hrest]

/-- A list of names is read by registering each suite where it is first named. -/
theorem registryOf_eq_foldlM {texts : List String} (hnames : texts ≠ []) :
    (registryOf texts : m (Registry (Job α))) =
      texts.eraseDups.foldlM (fun registry text => registerNamed text registry) {} := by
  rw [registryOf, if_neg hnames, registerEach_eq_foldlM, List.filter_eq_self.mpr (by simp)]

end

/-- The benchmarks of a suite. `place` is where the emitter of this registration stands. -/
def benchmarks (place : Nat) (suite : Suite) : List (Entry (Job α)) :=
  (suite.calls place).map fun (title, call) => ⟨suite.name, title, .library call⟩

/-- How many benchmarks a suite has. -/
def size (suite : Suite) : Nat :=
  (suite.calls 0).length

/-- The shelf after a registration of a suite. -/
def stock (shelf : Shelf Unit) : Suite → Shelf Unit
  | .events => (shelf.add dummyEmitter).2
  | _ => shelf

theorem entries_addTo (suite : Suite) (place : Nat) (registry : Registry (Job α)) :
    suite.addTo place registry = ⟨registry.entries ++ suite.benchmarks place⟩ := by
  rw [addTo, benchmarks]
  induction suite.calls place generalizing registry with
  | nil => simp
  | cons call calls ih =>
      rw [List.foldl_cons, ih, List.map_cons]
      simp [Registry.register]

/-- Only the benchmarks of the events suite have to do with a place. -/
theorem benchmarks_of_ne_events {suite : Suite} (hsuite : suite ≠ .events) (place other : Nat) :
    (suite.benchmarks place : List (Entry (Job α))) = suite.benchmarks other := by
  cases suite with
  | events => exact absurd rfl hsuite
  | os | path | process => rfl

theorem length_benchmarks (suite : Suite) (place : Nat) :
    (suite.benchmarks place : List (Entry (Job α))).length = suite.size := by
  cases suite <;> simp [benchmarks, size, calls]

theorem category_of_mem_benchmarks {suite : Suite} {place : Nat} {entry : Entry (Job α)}
    (hmem : entry ∈ suite.benchmarks place) : entry.category = suite.name := by
  obtain ⟨call, -, rfl⟩ := List.mem_map.mp hmem
  rfl

theorem benchmarks_ne_nil (suite : Suite) (place : Nat) :
    (suite.benchmarks place : List (Entry (Job α))) ≠ [] := by
  cases suite <;> simp [benchmarks, calls, emitLevels]

theorem size_append_benchmarks (registry : Registry (Job α)) (suite : Suite) (place : Nat) :
    (⟨registry.entries ++ suite.benchmarks place⟩ : Registry (Job α)).size =
      registry.size + suite.size := by
  rw [Registry.size, List.length_append, length_benchmarks, Registry.size]

theorem runFrom_register (suite : Suite) (registry : Registry (Job α))
    (surroundings : Surroundings) (recording : Recording ν σ) :
    (suite.register registry : Recorded ν σ _).runFrom surroundings recording =
      (.ok ⟨registry.entries ++ suite.benchmarks recording.shelf.emitters.length⟩,
        { recording with shelf := suite.stock recording.shelf }) := by
  rw [← entries_addTo]
  cases suite <;> rfl

/-- A name that no suite has is refused. Nothing has happened by then, and nothing has been
done to the registry. -/
theorem runFrom_enroll_of_unknown {text : String} (unknown : text ∉ names)
    (registry : Registry (Job α)) (surroundings : Surroundings) (recording : Recording ν σ) :
    ((enroll text : Registry.InPlace (Job α) (Recorded ν σ) Unit).on registry).runFrom surroundings
        recording =
      (.ok (.error (.ofCause (.unknownSuite text names)), registry), recording) := by
  rw [enroll, ofName?_eq_none_iff.mpr unknown]
  exact Registry.InPlace.runFrom_on_throw _ _ _ _

theorem runFrom_enroll (suite : Suite) (registry : Registry (Job α))
    (surroundings : Surroundings) (recording : Recording ν σ) :
    ((enroll suite.name : Registry.InPlace (Job α) (Recorded ν σ) Unit).on registry).runFrom
        surroundings recording =
      (.ok (.ok (), ⟨registry.entries ++ suite.benchmarks recording.shelf.emitters.length⟩),
        ({ recording with shelf := suite.stock recording.shelf } : Recording ν σ).push
          (.diagnostic (.suiteRegistered suite.name (registry.size + suite.size)))) := by
  rw [enroll, ofName?_eq_some_iff.mpr rfl,
    ← size_append_benchmarks registry suite recording.shelf.emitters.length]
  dsimp only
  rw [Registry.InPlace.runFrom_on_bind, Registry.InPlace.runFrom_on_update, runFrom_register]
  rfl

theorem runFrom_registerNamed_of_unknown {text : String} (unknown : text ∉ names)
    (registry : Registry (Job α)) (surroundings : Surroundings) (recording : Recording ν σ) :
    (registerNamed text registry : Recorded ν σ _).runFrom surroundings recording =
      (.error (.ofCause (.unknownSuite text names)), recording) := by
  rw [registerNamed, Registry.InPlace.runFrom_orDrop, runFrom_enroll_of_unknown unknown]
  rfl

theorem runFrom_registerNamed (suite : Suite) (registry : Registry (Job α))
    (surroundings : Surroundings) (recording : Recording ν σ) :
    (registerNamed suite.name registry : Recorded ν σ _).runFrom surroundings recording =
      (.ok ⟨registry.entries ++ suite.benchmarks recording.shelf.emitters.length⟩,
        ({ recording with shelf := suite.stock recording.shelf } : Recording ν σ).push
          (.diagnostic (.suiteRegistered suite.name (registry.size + suite.size)))) := by
  rw [registerNamed, Registry.InPlace.runFrom_orDrop, runFrom_enroll]
  rfl

/-- All suites are registered without a diagnostic, with one emitter for the events. -/
theorem runFrom_registerAll (registry : Registry (Job α)) (surroundings : Surroundings)
    (recording : Recording ν σ) :
    (registerAll registry : Recorded ν σ _).runFrom surroundings recording =
      (.ok ⟨registry.entries ++ all.flatMap (benchmarks recording.shelf.emitters.length)⟩,
        { recording with shelf := (recording.shelf.add dummyEmitter).2 }) := by
  simp only [registerAll, all, List.foldlM_cons, List.foldlM_nil, Recorded.runFrom_bind,
    runFrom_register]
  simp [stock]
  rfl

/-- The diagnostics of a registration of suites, given how many benchmarks there were before
it: each tells how many there are up to its suite. -/
def announcements (before : Nat) (suites : List Suite) : List (Signal ν) :=
  suites.mapIdx fun index suite =>
    .diagnostic (.suiteRegistered suite.name
      (before + ((suites.take (index + 1)).flatMap (calls 0)).length))

/-- The recording after a registration of suites. Nothing is touched but the journal and the
shelf. -/
def announced (before : Nat) (suites : List Suite) (recording : Recording ν σ) : Recording ν σ :=
  (announcements before suites).foldl Recording.push
    { recording with shelf := suites.foldl stock recording.shelf }

theorem announcements_cons (before : Nat) (suite : Suite) (rest : List Suite) :
    (announcements before (suite :: rest) : List (Signal ν)) =
      .diagnostic (.suiteRegistered suite.name (before + suite.size)) ::
        announcements (before + suite.size) rest := by
  simp [announcements, List.mapIdx_cons, size, Nat.add_assoc]

/-- A suite that is not registered again later has the only emitter that is put on the shelf,
or none is. -/
theorem flatMap_benchmarks_stock {suite : Suite} {rest : List Suite} (once : suite ∉ rest)
    (shelf : Shelf Unit) :
    (rest.flatMap (benchmarks (suite.stock shelf).emitters.length) : List (Entry (Job α))) =
      rest.flatMap (benchmarks shelf.emitters.length) := by
  cases suite with
  | events =>
      apply List.flatMap_congr
      intro later hmem
      exact benchmarks_of_ne_events (fun hevents => once (hevents ▸ hmem)) _ _
  | os | path | process => rfl

theorem runFrom_registerSuites {suites : List Suite} (once : suites.Nodup)
    (registry : Registry (Job α)) (surroundings : Surroundings) (recording : Recording ν σ) :
    ((suites.map name).foldlM (fun registry text => registerNamed text registry) registry :
        Recorded ν σ _).runFrom surroundings recording =
      (.ok ⟨registry.entries ++ suites.flatMap (benchmarks recording.shelf.emitters.length)⟩,
        announced registry.size suites recording) := by
  induction suites generalizing registry recording with
  | nil => simp [announced, announcements]; rfl
  | cons suite rest ih =>
      obtain ⟨hsuite, hrest⟩ := List.nodup_cons.mp once
      rw [List.map_cons, List.foldlM_cons, Recorded.runFrom_bind, runFrom_registerNamed]
      dsimp only
      rw [ih hrest, size_append_benchmarks]
      have hplace := flatMap_benchmarks_stock (α := α) hsuite recording.shelf
      simp only [Recording.push, hplace, List.flatMap_cons, List.append_assoc, announced,
        announcements_cons, List.foldl_cons]

/-- The registry for names that are all known. -/
theorem runFrom_registryOf {texts : List String} (hnames : texts ≠ []) {suites : List Suite}
    (hsuites : suites.map name = texts.eraseDups) (surroundings : Surroundings)
    (recording : Recording ν σ) :
    (registryOf texts : Recorded ν σ (Registry (Job α))).runFrom surroundings recording =
      (.ok ⟨suites.flatMap (benchmarks recording.shelf.emitters.length)⟩,
        announced 0 suites recording) := by
  have once : suites.Nodup := List.Nodup.of_map name (hsuites ▸ nodup_eraseDups texts)
  rw [registryOf_eq_foldlM hnames, ← hsuites, runFrom_registerSuites once]
  rfl

/-- A name that no suite has ends the registration, after the suites named before it. -/
theorem runFrom_registryOf_of_unknown {before after : List String} {unknown : String}
    (hunknown : unknown ∉ names) {suites : List Suite}
    (hsuites : suites.map name = before.eraseDups) (surroundings : Surroundings)
    (recording : Recording ν σ) :
    (registryOf (before ++ unknown :: after) : Recorded ν σ (Registry (Job α))).runFrom
        surroundings recording =
      (.error (.ofCause (.unknownSuite unknown names)), announced 0 suites recording) := by
  have once : suites.Nodup := List.Nodup.of_map name (hsuites ▸ nodup_eraseDups before)
  have new : unknown ∉ before := by
    intro hmem
    have hname : unknown ∈ suites.map name := hsuites ▸ List.mem_eraseDups.mpr hmem
    obtain ⟨suite, -, rfl⟩ := List.mem_map.mp hname
    exact hunknown (List.mem_map.mpr ⟨suite, by cases suite <;> decide, rfl⟩)
  obtain ⟨rest, hsplit⟩ := exists_eraseDups_split before new after
  rw [registryOf_eq_foldlM (by simp), hsplit, ← hsuites, List.foldlM_append,
    Recorded.runFrom_bind, runFrom_registerSuites once]
  dsimp only
  rw [List.foldlM_cons, Recorded.runFrom_bind, runFrom_registerNamed_of_unknown hunknown]
  rfl

theorem foldl_noteCategory_of_mem {entries : List (Entry α)} {seen : List String}
    (known : ∀ entry ∈ entries, entry.category ∈ seen) :
    entries.foldl Registry.noteCategory seen = seen := by
  induction entries with
  | nil => rfl
  | cons entry entries ih =>
      obtain ⟨hfirst, hrest⟩ := List.forall_mem_cons.mp known
      rw [List.foldl_cons, Registry.noteCategory, if_pos hfirst, ih hrest]

/-- The benchmarks of a suite bring its name among the categories. -/
theorem foldl_noteCategory_benchmarks {suite : Suite} {seen : List String}
    (new : suite.name ∉ seen) (place : Nat) :
    (suite.benchmarks place : List (Entry (Job α))).foldl Registry.noteCategory seen =
      seen ++ [suite.name] := by
  obtain ⟨first, rest, hbenchmarks⟩ :=
    List.exists_cons_of_ne_nil (suite.benchmarks_ne_nil (α := α) place)
  have hcategory : ∀ entry ∈ first :: rest, entry.category = suite.name :=
    fun entry hmem => category_of_mem_benchmarks (hbenchmarks ▸ hmem)
  obtain ⟨hfirst, hrest⟩ := List.forall_mem_cons.mp hcategory
  rw [hbenchmarks, List.foldl_cons, Registry.noteCategory, hfirst, if_neg new]
  apply foldl_noteCategory_of_mem
  intro entry hmem
  simp [hrest entry hmem]

theorem categories_flatMap_benchmarks {suites : List Suite} (once : (suites.map name).Nodup)
    (place : Nat) :
    (⟨suites.flatMap (benchmarks place)⟩ : Registry (Job α)).categories = suites.map name := by
  rw [Registry.categories]
  induction suites using List.reverseRecOn with
  | nil => rfl
  | append_singleton suites suite ih =>
      rw [List.map_append, List.nodup_append] at once
      have new : suite.name ∉ suites.map name :=
        fun hmem => once.2.2 _ hmem suite.name (by simp) rfl
      rw [List.flatMap_append, List.foldl_append, ih once.1, List.flatMap_singleton,
        foldl_noteCategory_benchmarks new, List.map_append, List.map_singleton]

theorem journal_announced (before : Nat) (suites : List Suite) (recording : Recording ν σ) :
    (announced before suites recording).journal.toList =
      recording.journal.toList ++ announcements before suites := by
  rw [announced, Recording.journal_foldl_push]

/-- **Each suite is registered once, where it is first named.** Without names there are the
benchmarks of all suites, as for the names of all suites in their order. Names that are all
known give the benchmarks of the suites that are first named, in that order, and so do the
categories; for each of these suites one diagnostic tells how many benchmarks there are up to
it. Otherwise the first unknown name ends the registration, after the diagnostics for the
suites that are named before it. -/
theorem registryOf_first_mentions (texts : List String) (surroundings : Surroundings)
    (recording : Recording ν σ) :
    let run (texts : List String) :=
      (registryOf texts : Recorded ν σ (Registry (Job α))).runFrom surroundings recording
    let place := recording.shelf.emitters.length
    (texts = [] →
      (run texts).1 = .ok ⟨all.flatMap (benchmarks place)⟩ ∧
      (run names).1 = (run texts).1 ∧
      (run texts).2.journal = recording.journal) ∧
    (texts ≠ [] → (∀ text ∈ texts, text ∈ names) →
      ∃ (suites : List Suite) (registry : Registry (Job α)),
        suites.map name = texts.eraseDups ∧
        (run texts).1 = .ok registry ∧
        registry.entries = suites.flatMap (benchmarks place) ∧
        registry.categories = texts.eraseDups ∧
        (run texts).2.journal.toList = recording.journal.toList ++ announcements 0 suites) ∧
    ∀ before unknown after, texts = before ++ unknown :: after →
      (∀ text ∈ before, text ∈ names) → unknown ∉ names →
      ∃ suites : List Suite,
        suites.map name = before.eraseDups ∧
        (run texts).1 = .error (.ofCause (.unknownSuite unknown names)) ∧
        (run texts).2.journal.toList = recording.journal.toList ++ announcements 0 suites := by
  intro run place
  have hsuites {mentioned : List String} (known : ∀ text ∈ mentioned, text ∈ names) :
      ∃ suites : List Suite, suites.map name = mentioned.eraseDups :=
    exists_suites fun text hmem => known text (List.mem_eraseDups.mp hmem)
  refine ⟨?_, ?_, ?_⟩
  · rintro rfl
    have hall : run [] = (.ok ⟨all.flatMap (benchmarks place)⟩,
        { recording with shelf := (recording.shelf.add dummyEmitter).2 }) :=
      runFrom_registerAll {} surroundings recording
    have hnames : run names = (.ok ⟨all.flatMap (benchmarks place)⟩, announced 0 all recording) :=
      runFrom_registryOf (by decide) (by decide) surroundings recording
    rw [hall, hnames]
    exact ⟨rfl, rfl, rfl⟩
  · intro hnames known
    obtain ⟨suites, hmentions⟩ := hsuites known
    have hrun : run texts = (.ok ⟨suites.flatMap (benchmarks place)⟩,
        announced 0 suites recording) :=
      runFrom_registryOf hnames hmentions surroundings recording
    refine ⟨suites, _, hmentions, congrArg Prod.fst hrun, rfl, ?_, ?_⟩
    · rw [categories_flatMap_benchmarks (hmentions ▸ nodup_eraseDups texts), hmentions]
    · rw [hrun, journal_announced]
  · rintro before unknown after rfl known hunknown
    obtain ⟨suites, hmentions⟩ := hsuites known
    have hrun : run (before ++ unknown :: after) =
        (.error (.ofCause (.unknownSuite unknown names)), announced 0 suites recording) :=
      runFrom_registryOf_of_unknown hunknown hmentions surroundings recording
    exact ⟨suites, hmentions, congrArg Prod.fst hrun, by rw [hrun, journal_announced]⟩

/-- A name is repeated, and a name is unknown with a known one behind it. -/
theorem registryOf_of_repeated_and_unknown :
    (["process", "os", "process"] ≠ [] ∧ ∀ text ∈ ["process", "os", "process"], text ∈ names) ∧
    (∃ registry : Registry (Job Unit),
      ((registryOf ["process", "os", "process"] : Recorded Unit Unit _).runFrom
        ⟨.error .notFound, fun _ => none, .error .notFound, fun _ => .ofNanos 0⟩
        { state := () }).1 = .ok registry ∧
      registry.categories = ["process", "os"]) ∧
    ((registryOf ["os", "net", "path"] : Recorded Unit Unit (Registry (Job Unit))).runFrom
      ⟨.error .notFound, fun _ => none, .error .notFound, fun _ => .ofNanos 0⟩
      { state := () }).1 = .error (.ofCause (.unknownSuite "net" names)) := by
  obtain ⟨-, hknown, -⟩ := registryOf_first_mentions (α := Unit) ["process", "os", "process"]
    ⟨.error .notFound, fun _ => none, .error .notFound, fun _ => .ofNanos 0⟩
    ({ state := () } : Recording Unit Unit)
  obtain ⟨-, -, hunknown⟩ := registryOf_first_mentions (α := Unit) ["os", "net", "path"]
    ⟨.error .notFound, fun _ => none, .error .notFound, fun _ => .ofNanos 0⟩
    ({ state := () } : Recording Unit Unit)
  have known : ∀ text ∈ ["process", "os", "process"], text ∈ names := by decide
  obtain ⟨suites, registry, -, hrun, -, hcategories, -⟩ := hknown (by decide) known
  obtain ⟨-, -, herror, -⟩ := hunknown ["os"] "net" ["path"] rfl (by decide) (by decide)
  refine ⟨⟨by decide, known⟩, ⟨registry, hrun, ?_⟩, herror⟩
  rw [hcategories]
  decide

end CallBench.Suite
