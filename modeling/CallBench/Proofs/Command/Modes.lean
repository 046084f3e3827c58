/-
# The two modes of the program

The program registers the suites it is asked for and then either lists their benchmarks or
runs them. A name that no suite has ends it before that, so nothing is called and nothing is
written; a list calls nothing either, which shows in that its run does not depend on what a
call would do. A run announces the benchmarks of the list in its order: all of them, or those
up to the first that reads the current directory where this is refused.
-/

import CallBench.Command.Transcript
import CallBench.Proofs.Library.Benchmarks
import CallBench.Proofs.Registry.Lines

namespace CallBench.Command

open Recorded

/-- Every list of names and both modes can be asked for. -/
theorem exists_read (names : List String) (list : Bool) :
    ∃ texts, Arguments.read texts = .ok ⟨names, list⟩ := by
  have hend (arguments : Arguments) (texts : List String) :
      arguments.takeAll ("--" :: texts) =
        .ok { arguments with suites := arguments.suites ++ texts } := rfl
  have hlist (texts : List String) :
      Arguments.read ("--list" :: texts) = Arguments.takeAll { list := true } texts := rfl
  cases list with
  | false => exact ⟨"--" :: names, hend {} names⟩
  | true => exact ⟨"--list" :: "--" :: names, by rw [hlist, hend]; rfl⟩

section

variable {m : Type → Type} [Monad m] [MonadClock m] [MonadDiagnostics m] [MonadHost m]
  [MonadExceptOf Stop m] [MonadStateOf (Shelf Unit) m]

/-- The program, given what it does in the place of a job. -/
def programCalling (read : List String → Except Interruption Arguments) (line : String → m Unit)
    (call : Job Empty → m Unit) (texts : List String) : m Ending := do
  CurrentProcess.startClock
  match read texts with
  | .error interruption => pure (.interrupted interruption)
  | .ok arguments => do
      work line call arguments
      pure .finished

theorem programCalling_performJob (read : List String → Except Interruption Arguments)
    (line : String → m Unit) (texts : List String) :
    programCalling read line performJob texts = program read line texts :=
  rfl

omit [MonadHost m] in
theorem programCalling_of_read {read : List String → Except Interruption Arguments}
    (line : String → m Unit) (call : Job Empty → m Unit) {texts : List String}
    {arguments : Arguments} (hread : read texts = .ok arguments) :
    programCalling read line call texts = (do
      CurrentProcess.startClock
      work line call arguments
      pure .finished) := by
  rw [programCalling, hread]

end

variable {ν σ : Type} {surroundings : Surroundings} {texts : List String} {arguments : Arguments}
  {read : List String → Except Interruption Arguments}

/-- The program writes the lines of its work and ends as that does. -/
theorem adds_program {call : Job Empty → Recorded ν σ Unit} {recording : Recording ν σ}
    (hread : read texts = .ok arguments) {outcome : Except Stop Unit}
    {lines : List String}
    (works : Adds Signal.line? (work Recorded.line call arguments) surroundings
      (recording.push (.diagnostic .clockStarted)) outcome lines) :
    Adds Signal.line? (programCalling read Recorded.line call texts) surroundings recording
      (outcome.map fun _ => Ending.finished) lines := by
  have hdone := works.map fun _ => Ending.finished
  rw [← bind_pure_comp] at hdone
  rw [programCalling_of_read _ _ hread]
  exact (adds_report _ _).bind hdone

/-- Calls that the work does not make are not made by the program. -/
theorem runFrom_programCalling_congr {first second : Job Empty → Recorded ν σ Unit}
    (hread : read texts = .ok arguments)
    (same : ∀ recording, (work Recorded.line first arguments).runFrom surroundings recording =
      (work Recorded.line second arguments).runFrom surroundings recording)
    (recording : Recording ν σ) :
    (programCalling read Recorded.line first texts).runFrom surroundings recording =
      (programCalling read Recorded.line second texts).runFrom surroundings recording := by
  have hstart : (CurrentProcess.startClock : Recorded ν σ Unit).runFrom surroundings recording =
      (.ok (), recording.push (.diagnostic .clockStarted)) := rfl
  rw [programCalling_of_read _ _ hread, programCalling_of_read _ _ hread, runFrom_bind,
    runFrom_bind, hstart]
  dsimp only
  rw [runFrom_bind, runFrom_bind, same]

theorem adds_work_of_unknown {before after : List String} {unknown : String}
    (known : ∀ name ∈ before, name ∈ Suite.names) (hunknown : unknown ∉ Suite.names)
    (list : Bool) (call : Job Empty → Recorded ν σ Unit) (recording : Recording ν σ) :
    Adds Signal.line? (work Recorded.line call ⟨before ++ unknown :: after, list⟩) surroundings
      recording (.error (.ofCause (.unknownSuite unknown Suite.names))) [] :=
  (Suite.adds_registryOf_of_unknown known hunknown surroundings recording).bind_error _

/-- A name that no suite has ends the work before any call. -/
theorem runFrom_work_of_unknown {before after : List String} {unknown : String}
    (known : ∀ name ∈ before, name ∈ Suite.names) (hunknown : unknown ∉ Suite.names)
    (list : Bool) (first second : Job Empty → Recorded ν σ Unit) (recording : Recording ν σ) :
    (work Recorded.line first ⟨before ++ unknown :: after, list⟩).runFrom surroundings recording =
      (work Recorded.line second ⟨before ++ unknown :: after, list⟩).runFrom surroundings
        recording := by
  have hregistry : ((Suite.registryOf (before ++ unknown :: after) :
      Recorded ν σ (Registry (Job Empty))).runFrom surroundings recording).1 = .error _ :=
    (Suite.adds_registryOf_of_unknown known hunknown surroundings recording).outcome_eq
  rw [work, work, runFrom_bind_of_error hregistry, runFrom_bind_of_error hregistry]

variable {names : List String}

/-- When all names are known, the work comes to their benchmarks and has written nothing. -/
theorem exists_work_of_known (known : ∀ name ∈ names, name ∈ Suite.names) (list : Bool)
    (call : Job Empty → Recorded ν σ Unit) (surroundings : Surroundings)
    (recording : Recording ν σ) :
    ∃ (registry : Registry (Job Empty)) (place : Nat) (later : Recording ν σ),
      registry.entries = (Suite.requested names).flatMap (Suite.benchmarks place) ∧
      ∀ outcome lines,
        Adds Signal.line? (if list then registry.listing.forM Recorded.line
          else registry.runAll Recorded.line call) surroundings later outcome lines →
        Adds Signal.line? (work Recorded.line call ⟨names, list⟩) surroundings recording outcome
          lines := by
  obtain ⟨place, hregistry⟩ := Suite.adds_registryOf known surroundings recording
  exact ⟨_, place, _, rfl, fun outcome lines hrest =>
    hregistry.bind ((adds_report _ _).bind hrest)⟩

theorem titles_of_requested {registry : Registry (Job Empty)} {place : Nat}
    (hentries : registry.entries = (Suite.requested names).flatMap (Suite.benchmarks place)) :
    registry.titles = Suite.listed names := by
  rw [← Suite.titles_requested (α := Empty) names place, ← hentries]

/-- To list is to make no call. -/
theorem work_list_eq (names : List String) (first second : Job Empty → Recorded ν σ Unit) :
    work Recorded.line first ⟨names, true⟩ = work Recorded.line second ⟨names, true⟩ := by
  simp only [work, if_true]

theorem adds_work_list (known : ∀ name ∈ names, name ∈ Suite.names)
    (call : Job Empty → Recorded ν σ Unit) (recording : Recording ν σ) :
    Adds Signal.line? (work Recorded.line call ⟨names, true⟩) surroundings recording (.ok ())
      ((Suite.listed names).map fun (category, title) => category ++ "\t" ++ title) := by
  obtain ⟨registry, place, later, hentries, hwork⟩ :=
    exists_work_of_known known true call surroundings recording
  rw [← titles_of_requested hentries]
  exact hwork _ _ (adds_forM_line registry.listing later)

/-- Every benchmark that is asked for makes a call, which ends as its title says. -/
theorem adds_performJob {kernel : Kernel} (answers : surroundings.kernel = .ok kernel)
    {suites : List Suite} {place : Nat} {entry : Entry (Job Empty)}
    (hmem : entry ∈ suites.flatMap (Suite.benchmarks place)) (recording : Recording ν σ) :
    Adds Signal.line? (performJob entry.action) surroundings recording
      (directoryOutcome surroundings.directory (Suite.directoryContext? entry.title)) [] := by
  obtain ⟨suite, -, hentry⟩ := List.mem_flatMap.mp hmem
  obtain ⟨call, hcall, hcontext⟩ := Suite.exists_call_of_mem_benchmarks hentry
  rw [hcall, hcontext]
  exact LibraryCall.adds_perform answers call recording

/-- A run that nothing refuses announces all benchmarks and sums them up. -/
theorem adds_work_run (known : ∀ name ∈ names, name ∈ Suite.names) {kernel : Kernel}
    (answers : surroundings.kernel = .ok kernel)
    (granted : (∃ bytes, surroundings.directory = .ok bytes) ∨
      ∀ pair ∈ Suite.listed names, Suite.directoryContext? pair.2 = none)
    (recording : Recording ν σ) :
    ∃ lines,
      lines.filter Registry.announces = (Suite.listed names).map
        (fun (category, title) => Report.running category title) ∧
      lines.length = 3 * (Suite.listed names).length + 2 ∧
      Adds Signal.line? (work Recorded.line performJob ⟨names, false⟩) surroundings recording
        (.ok ()) lines := by
  obtain ⟨registry, place, later, hentries, hwork⟩ :=
    exists_work_of_known known false performJob surroundings recording
  have htitles := titles_of_requested hentries
  have returns : ∀ entry ∈ registry.entries, ∀ recording : Recording ν σ,
      Adds Signal.line? (performJob entry.action) surroundings recording (.ok ()) [] := by
    intro entry hmem recording
    have hcall := adds_performJob answers (hentries ▸ hmem) recording
    rcases granted with ⟨bytes, readable⟩ | hnone
    · rwa [directoryOutcome_of_ok readable] at hcall
    · rwa [hnone (entry.category, entry.title) (htitles ▸ List.mem_map_of_mem hmem)] at hcall
  obtain ⟨timings, total, htimings, hrun⟩ := Registry.adds_runAll_of_ok returns later
  refine ⟨_, ?_, ?_, hwork _ _ hrun⟩
  · rw [List.filter_append, Registry.filter_announces_told, htimings, ← htitles, Registry.titles,
      List.map_map]
    simp [Report.tookBatch, Registry.announces_took, Registry.announces_empty]
  · rw [List.length_append, Registry.length_told, ← htitles, Registry.titles, List.length_map,
      ← htimings, List.length_map]
    rfl

/-- Where the current directory is refused, a run ends at the first benchmark that reads it. -/
theorem adds_work_run_of_refused (known : ∀ name ∈ names, name ∈ Suite.names) {kernel : Kernel}
    (answers : surroundings.kernel = .ok kernel) {error : SystemError}
    (refused : surroundings.directory = .error error)
    {before after : List (String × String)} {category title context : String}
    (hlisted : Suite.listed names = before ++ (category, title) :: after)
    (hbefore : ∀ pair ∈ before, Suite.directoryContext? pair.2 = none)
    (hcontext : Suite.directoryContext? title = some context) (recording : Recording ν σ) :
    ∃ done,
      (done ++ [Report.running category title]).filter Registry.announces =
        (before ++ [(category, title)]).map
          (fun (category, title) => Report.running category title) ∧
      (∀ total, Report.tookBatch total ∉ done ++ [Report.running category title]) ∧
      done.length = 3 * before.length ∧
      Adds Signal.line? (work Recorded.line performJob ⟨names, false⟩) surroundings recording
        (.error (.failed ⟨.system error, [context]⟩))
        (done ++ [Report.running category title]) := by
  obtain ⟨registry, place, later, hentries, hwork⟩ :=
    exists_work_of_known known false performJob surroundings recording
  have htitles := titles_of_requested hentries
  rw [hlisted] at htitles
  -- The benchmarks are split where their titles are.
  obtain ⟨earlier, rest, hsplit, rfl, hrest⟩ := List.map_eq_append_iff.mp htitles
  obtain ⟨entry, others, rfl, hentry, -⟩ := List.map_eq_cons_iff.mp hrest
  obtain ⟨rfl, rfl⟩ := Prod.mk.inj hentry
  have hcall (entry : Entry (Job Empty)) (hmem : entry ∈ registry.entries) :=
    adds_performJob (ν := ν) (σ := σ) answers (hentries ▸ hmem)
  have returns : ∀ entry ∈ earlier, ∀ recording : Recording ν σ,
      Adds Signal.line? (performJob entry.action) surroundings recording (.ok ()) [] := by
    intro entry hmem recording
    have hreturns := hcall entry (hsplit ▸ List.mem_append_left _ hmem) recording
    rwa [hbefore _ (List.mem_map_of_mem hmem)] at hreturns
  have stops : ∀ recording : Recording ν σ,
      Adds Signal.line? (performJob entry.action) surroundings recording
        (.error (.failed ⟨.system error, [context]⟩)) [] := by
    intro recording
    have hstops := hcall entry (hsplit ▸ List.mem_append_right _ List.mem_cons_self) recording
    rwa [hcontext, refused] at hstops
  obtain ⟨timings, rfl, hrun⟩ := Registry.adds_runAll_of_error hsplit returns stops later
  refine ⟨_, ?_, Registry.tookBatch_notMem timings _ _, ?_, hwork _ _ hrun⟩
  · rw [List.filter_append, Registry.filter_announces_told, List.map_append, List.map_map]
    simp [Registry.announces_running]
  · rw [Registry.length_told, List.length_map, List.length_map]

theorem rehearse_of_adds (placeholders : Placeholders) {outcome : Except Stop Ending}
    {lines : List String}
    (ends : Adds Signal.line? (ν := Empty) (σ := Unit)
      (programCalling read Recorded.line performJob texts) surroundings { state := () } outcome
        lines) :
    let transcript := rehearseReading read placeholders surroundings texts
    transcript.status = (farewell outcome).status ∧
    transcript.output = lines ++ (farewell outcome).output ∧
    transcript.errors = (farewell outcome).errors := by
  rw [programCalling_performJob] at ends
  obtain ⟨houtcome, hlines⟩ := ends
  revert houtcome hlines
  unfold rehearseReading
  dsimp only
  generalize (program read Recorded.line texts : Recorded Empty Unit Ending).runFrom surroundings
    { state := () } = run
  -- What is logged is settled by the environment and is not looked at here.
  generalize (filterOfEnvironment : Recorded Empty Unit _).runFrom surroundings
    { state := () } = setting
  rcases run with ⟨ending, recording⟩
  rcases setting with ⟨filter, -⟩
  rintro rfl hlines
  exact ⟨rfl, congrArg (· ++ _) hlines, rfl⟩

theorem errors_unknownSuite (unknown : String) :
    (farewell (.error (.ofCause (.unknownSuite unknown Suite.names)))).errors =
      ["Error: unknown suite '" ++ unknown ++ "' (available: events, os, path, process)"] := by
  have herrors : (farewell (.error (.ofCause (.unknownSuite unknown Suite.names)))).errors =
      ["Error: " ++ ("unknown suite '" ++ unknown ++ "' (available: " ++
        ", ".intercalate Suite.names ++ ")")] := rfl
  have hnames : ", ".intercalate Suite.names = "events, os, path, process" := by decide +kernel
  have hstart : "Error: unknown suite '" = "Error: " ++ "unknown suite '" := by decide +kernel
  have hend : "' (available: events, os, path, process)" =
      "' (available: " ++ ("events, os, path, process" ++ ")") := by decide +kernel
  rw [herrors, hnames]
  simp only [hstart, hend, String.append_assoc]

/-- Whether a run of the program makes no call: it is the same whatever a call would do. -/
def MakesNoCall (read : List String → Except Interruption Arguments) (surroundings : Surroundings)
    (texts : List String) : Prop :=
  let run (call : Job Empty → Recorded Empty Unit Unit) :=
    (programCalling read Recorded.line call texts).runFrom surroundings { state := () }
  ∀ call, run call = run performJob

namespace Transcript

/-- Nothing is written, and the error names the unknown suite. -/
structure Rejects (transcript : Transcript) (unknown : String) : Prop where
  status_eq : transcript.status = 1
  output_eq : transcript.output = []
  errors_eq : transcript.errors =
    ["Error: unknown suite '" ++ unknown ++ "' (available: events, os, path, process)"]

/-- There is a line for each benchmark. -/
structure Lists (transcript : Transcript) (listed : List (String × String)) : Prop where
  status_eq : transcript.status = 0
  output_eq : transcript.output = listed.map fun (category, title) => category ++ "\t" ++ title
  errors_eq : transcript.errors = []

/-- All benchmarks are announced and summed up. -/
structure Completes (transcript : Transcript) (listed : List (String × String)) : Prop where
  status_eq : transcript.status = 0
  errors_eq : transcript.errors = []
  announced : transcript.output.filter Registry.announces = listed.map fun (category, title) =>
    "Running " ++ title ++ " of " ++ category ++ " benchmarks.."
  length_output : transcript.output.length = 3 * listed.length + 2

/-- The benchmarks up to the one that fails are announced, the others have been done, and there
is no summary. -/
structure Breaks (transcript : Transcript) (before : List (String × String))
    (failing : String × String) (context : String) (error : SystemError) : Prop where
  status_eq : transcript.status = 1
  errors_eq : transcript.errors = ["Error: " ++ context, "", "Caused by:", "    " ++ error.text]
  announced : transcript.output.filter Registry.announces =
    (before ++ [failing]).map fun (category, title) =>
      "Running " ++ title ++ " of " ++ category ++ " benchmarks.."
  unsummed : ∀ total, Report.tookBatch total ∉ transcript.output
  output_eq : ∃ done, done.length = 3 * before.length ∧ transcript.output =
    done ++ ["Running " ++ failing.2 ++ " of " ++ failing.1 ++ " benchmarks.."]

end Transcript

/-- What the program does when it is asked for suites by their names, and for a list or a run. -/
structure AllOrNothing (read : List String → Except Interruption Arguments)
    (placeholders : Placeholders) (surroundings : Surroundings) (texts names : List String)
    (list : Bool) : Prop where
  /-- If a name is unknown, wherever it stands, there is only an error that names the first. -/
  rejects : ∀ before unknown after, names = before ++ unknown :: after →
    (∀ name ∈ before, name ∈ Suite.names) → unknown ∉ Suite.names →
      MakesNoCall read surroundings texts ∧
      (rehearseReading read placeholders surroundings texts).Rejects unknown
  lists : (∀ name ∈ names, name ∈ Suite.names) → list = true →
    MakesNoCall read surroundings texts ∧
    (rehearseReading read placeholders surroundings texts).Lists (Suite.listed names)
  /-- A run does all benchmarks when the directory can be read or is not asked for. -/
  completes : (∀ name ∈ names, name ∈ Suite.names) → list = false →
    ∀ kernel, surroundings.kernel = .ok kernel →
      (∃ bytes, surroundings.directory = .ok bytes) ∨
          (∀ pair ∈ Suite.listed names, Suite.directoryContext? pair.2 = none) →
        (rehearseReading read placeholders surroundings texts).Completes (Suite.listed names)
  /-- Otherwise it ends with the first benchmark that asks for it. -/
  breaks : (∀ name ∈ names, name ∈ Suite.names) → list = false →
    ∀ kernel, surroundings.kernel = .ok kernel →
      ∀ error before category title after context, surroundings.directory = .error error →
        Suite.listed names = before ++ (category, title) :: after →
        (∀ pair ∈ before, Suite.directoryContext? pair.2 = none) →
        Suite.directoryContext? title = some context →
          (rehearseReading read placeholders surroundings texts).Breaks before (category, title)
            context error

/-- **The program does all or nothing, and its modes agree.** Every list of names and either
mode can be asked for, and however arguments are read, only these two matter. If a name is
unknown, wherever it stands, no call is made, nothing is written, and the program fails with an
error that names the first such name. Otherwise, to list is to write a line for each benchmark,
without a call. A run announces the same benchmarks in the same order, where the kernel answers:
all of them when the current directory can be read or is not asked for, and else those up to the
first that asks for it, whose error ends the program without a summary. -/
theorem rehearse_all_or_nothing (names : List String) (list : Bool) :
    (∃ texts, Arguments.read texts = .ok ⟨names, list⟩) ∧
    ∀ (read : List String → Except Interruption Arguments) (texts : List String)
      (placeholders : Placeholders) (surroundings : Surroundings),
      read texts = .ok ⟨names, list⟩ →
        AllOrNothing read placeholders surroundings texts names list := by
  refine ⟨exists_read names list, fun read texts placeholders surroundings hread => ?_⟩
  refine ⟨?rejects, ?lists, ?completes, ?breaks⟩
  case rejects =>
    rintro before unknown after rfl known hunknown
    obtain ⟨hstatus, houtput, herrors⟩ := rehearse_of_adds placeholders
      (adds_program hread (adds_work_of_unknown known hunknown list performJob _))
    refine ⟨fun call => ?_, hstatus, houtput, herrors.trans (errors_unknownSuite unknown)⟩
    exact runFrom_programCalling_congr hread
      (runFrom_work_of_unknown known hunknown list call performJob) _
  case lists =>
    rintro known rfl
    obtain ⟨hstatus, houtput, herrors⟩ := rehearse_of_adds placeholders
      (adds_program hread (adds_work_list known performJob _))
    refine ⟨fun call => ?_, hstatus, houtput.trans (List.append_nil _), herrors⟩
    exact runFrom_programCalling_congr hread
      (fun recording => by rw [work_list_eq names call performJob]) _
  case completes =>
    rintro known rfl kernel answers granted
    obtain ⟨lines, hannounced, hlength, hwork⟩ := adds_work_run known answers granted _
    obtain ⟨hstatus, houtput, herrors⟩ := rehearse_of_adds placeholders (adds_program hread hwork)
    replace houtput := houtput.trans (List.append_nil _)
    exact ⟨hstatus, herrors, houtput ▸ hannounced, houtput ▸ hlength⟩
  case breaks =>
    rintro known rfl kernel answers error before category title after context refused hlisted
      hbefore hcontext
    obtain ⟨done, hannounced, hsummary, hlength, hwork⟩ :=
      adds_work_run_of_refused known answers refused hlisted hbefore hcontext _
    obtain ⟨hstatus, houtput, herrors⟩ := rehearse_of_adds placeholders (adds_program hread hwork)
    replace houtput := houtput.trans (List.append_nil _)
    exact ⟨hstatus, herrors, houtput ▸ hannounced, houtput ▸ hsummary, done, hlength, houtput⟩

/-- Without a current directory a run of two suites ends at the first benchmark of the second;
a known name does not help an unknown one, and a list needs no directory. -/
theorem rehearse_without_directory :
    let placeholders : Placeholders := ⟨"<moment>", fun _ => "<ms>"⟩
    let surroundings : Surroundings :=
      ⟨.error .notFound, fun _ => none, .ok ⟨[], []⟩, fun _ => .ofNanos 0⟩
    (Arguments.read ["os", "process"] = .ok ⟨["os", "process"], false⟩ ∧
      (rehearse placeholders surroundings ["os", "process"]).errors =
        ["Error: " ++ "read current directory", "", "Caused by:",
          "    " ++ SystemError.notFound.text] ∧
      (rehearse placeholders surroundings ["os", "process"]).output.length = 16) ∧
    (Arguments.read ["path", "net"] = .ok ⟨["path", "net"], false⟩ ∧
      (rehearse placeholders surroundings ["path", "net"]).output = []) ∧
    Arguments.read ["--list", "process"] = .ok ⟨["process"], true⟩ ∧
      (rehearse placeholders surroundings ["--list", "process"]).output =
        ["process\tprocess.cwd()", "process\tprocess.hrtime()",
          "process\tprocess.hrtime.bigint()"] := by
  intro placeholders surroundings
  have hrun : Arguments.read ["os", "process"] = .ok ⟨["os", "process"], false⟩ := rfl
  have hunknown : Arguments.read ["path", "net"] = .ok ⟨["path", "net"], false⟩ := rfl
  have hlist : Arguments.read ["--list", "process"] = .ok ⟨["process"], true⟩ := rfl
  have run := (rehearse_all_or_nothing ["os", "process"] false).2 _ _ placeholders
    surroundings hrun
  have unknown := (rehearse_all_or_nothing ["path", "net"] false).2 _ _ placeholders
    surroundings hunknown
  have list := (rehearse_all_or_nothing ["process"] true).2 _ _ placeholders surroundings hlist
  have broken := run.breaks (by decide) rfl ⟨[], []⟩ rfl .notFound (Suite.listed ["os"]) "process"
    "process.cwd()" [("process", "process.hrtime()"), ("process", "process.hrtime.bigint()")]
    "read current directory" rfl (by decide) (by decide) (by decide)
  obtain ⟨done, hlength, houtput⟩ := broken.output_eq
  have rejected := (unknown.rejects ["path"] "net" [] rfl (by decide) (by decide)).2
  have listed := (list.lists (by decide) rfl).2
  refine ⟨⟨hrun, broken.errors_eq, ?_⟩, ⟨hunknown, rejected.output_eq⟩, hlist,
    listed.output_eq.trans ?_⟩
  · rw [rehearse, houtput, List.length_append, hlength]
    rfl
  · decide

end CallBench.Command
