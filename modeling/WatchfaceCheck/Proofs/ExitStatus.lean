import WatchfaceCheck.Proofs.Course
import WatchfaceCheck.Proofs.Verdict
namespace WatchfaceCheck

namespace Run

def settingsOf (files : Files) (directory : Path) (arguments : Arguments) : Settings :=
  arguments.settings (Config.orDefault (arguments.loadConfig files directory)).check directory

variable (host : Host) (directory : Path) (arguments : Arguments)

def Misused : Prop := host.reach directory = .ok ()
  ∧ Refused host (settingsOf host.files directory arguments) arguments.files

inductive Broken : Prop
  | lost {e : FileError} (gone : host.reach directory = .error e)
  | later (there : host.reach directory = .ok ())
      (breaks : Breaks host (settingsOf host.files directory arguments) arguments.files)

def Answered (workspace : Workspace) (program : Snapshot) : Prop := host.reach directory = .ok ()
  ∧ Answers host (settingsOf host.files directory arguments) arguments.files workspace program

def Judged (workspace : Workspace) (program : Snapshot) : Prop :=
  Answered host directory arguments workspace program
    ∧ (settingsOf host.files directory arguments).check.report.suppression.Shallow program.findings

def BrokenOff (workspace : Workspace) (program : Snapshot) : Prop :=
  Answered host directory arguments workspace program
    ∧ ¬ (settingsOf host.files directory arguments).check.report.suppression.Shallow
      program.findings

-- The exit code of a run and what is on its standard output, told by the course that it took.
structure Accounted (run : Run) : Prop where
  misused : run.code = 3 ↔ Misused host directory arguments
  broken : run.code = 4 ↔ Broken host directory arguments
  judged : run.code ≤ 2 ↔ ∃ workspace program, Judged host directory arguments workspace program
  brokenOff : run.code = 101 ↔
    ∃ workspace program, BrokenOff host directory arguments workspace program
  help : Misused host directory arguments → run.output = "\n" ++ CommandLine.helpText
  silent : Broken host directory arguments → run.output = ""
  reported : ∀ workspace program, Answered host directory arguments workspace program →
    let settings := settingsOf host.files directory arguments
    run.output = (Outcome.ofProgram settings.check workspace.names program).report.render
      settings.palette
  verdict : ∀ workspace program, Judged host directory arguments workspace program →
    let settings := settingsOf host.files directory arguments
    ∃ judgement, (Outcome.ofProgram settings.check workspace.names program).judgement
        = some judgement
      ∧ run.status = some judgement.verdict.exitStatus

section

variable {host directory arguments} {words : List String} (elapsed : String)

theorem account_ofWords (accepted : CommandLine.read words = .ok (.check arguments)) :
    (ofWords host directory elapsed words).2.account
      = (ofArguments host directory elapsed arguments).2.account := by
  unfold ofWords
  rw [accepted]
  exact account_heard arguments.verbosity _

theorem account_ofArguments (there : host.reach directory = .ok ()) :
    (ofArguments host directory elapsed arguments).2.account
      = (ofSettings host elapsed arguments.files
        (settingsOf host.files directory arguments)).2.account := by
  unfold ofArguments
  rw [there]
  exact (account_after _ _).trans (account_logging _ _)

theorem account_of_misused (misused : Misused host directory arguments) :
    (ofArguments host directory elapsed arguments).2.account
      = (some .usage, "\n" ++ CommandLine.helpText) :=
  (account_ofArguments elapsed misused.1).trans (account_of_refused elapsed misused.2)

theorem account_of_broken (broken : Broken host directory arguments) :
    (ofArguments host directory elapsed arguments).2.account = (some .fault, "") := by
  cases broken with
  | lost gone =>
    unfold ofArguments
    rw [gone]
    exact account_failed_io _ _
  | later there breaks => rw [account_ofArguments elapsed there, account_of_breaks elapsed breaks]

theorem account_of_answered {workspace : Workspace} {program : Snapshot}
    (answered : Answered host directory arguments workspace program) :
    (ofArguments host directory elapsed arguments).2.account
      = ((Outcome.ofProgram (settingsOf host.files directory arguments).check workspace.names
          program).judgement.map fun judgement => judgement.verdict.exitStatus,
        (Outcome.ofProgram (settingsOf host.files directory arguments).check workspace.names
          program).report.render (settingsOf host.files directory arguments).palette) :=
  (account_ofArguments elapsed answered.1).trans (account_of_answers elapsed answered.2)

end

theorem misused_or_broken_or_answered : Misused host directory arguments
    ∨ Broken host directory arguments
    ∨ ∃ workspace program, Answered host directory arguments workspace program := by
  cases there : host.reach directory with
  | error e => exact .inr (.inl (.lost there))
  | ok _ =>
    rcases ends host (settingsOf host.files directory arguments) arguments.files with
      refused | breaks | ⟨workspace, program, answers⟩
    · exact .inl ⟨there, refused⟩
    · exact .inr (.inl (.later there breaks))
    · exact .inr (.inr ⟨workspace, program, there, answers⟩)

theorem code_verdict_le (verdict : Verdict) : verdict.exitStatus.code ≤ 2 := by
  cases verdict <;> simp [Verdict.exitStatus, ExitStatus.code]

-- The exit codes of the four ways to end are apart, and so each of them tells its way.
theorem told_by_code {code : Nat} {misused broken judged brokenOff : Prop}
    (way : misused ∧ code = 3 ∨ broken ∧ code = 4 ∨ judged ∧ code ≤ 2 ∨ brokenOff ∧ code = 101) :
    (code = 3 → misused) ∧ (code = 4 → broken) ∧ (code ≤ 2 → judged)
      ∧ (code = 101 → brokenOff) := by
  rcases way with ⟨way, code⟩ | ⟨way, code⟩ | ⟨way, code⟩ | ⟨way, code⟩
  · exact ⟨fun _ => way, fun _ => by omega, fun _ => by omega, fun _ => by omega⟩
  · exact ⟨fun _ => by omega, fun _ => way, fun _ => by omega, fun _ => by omega⟩
  · exact ⟨fun _ => by omega, fun _ => by omega, fun _ => way, fun _ => by omega⟩
  · exact ⟨fun _ => by omega, fun _ => by omega, fun _ => by omega, fun _ => way⟩

section

variable {host directory arguments} {run : Run} {workspace : Workspace} {program : Snapshot}
  {elapsed : String}
  (same : run.account = (ofArguments host directory elapsed arguments).2.account)

include same

theorem code_of_misused (misused : Misused host directory arguments) : run.code = 3 := by
  have status : run.status = _ :=
    congrArg Prod.fst (same.trans (account_of_misused elapsed misused))
  rw [code, status]
  rfl

theorem code_of_broken (broken : Broken host directory arguments) : run.code = 4 := by
  have status : run.status = _ := congrArg Prod.fst (same.trans (account_of_broken elapsed broken))
  rw [code, status]
  rfl

theorem status_of_judged (judged : Judged host directory arguments workspace program) :
    ∃ judgement, (Outcome.ofProgram (settingsOf host.files directory arguments).check
        workspace.names program).judgement = some judgement
      ∧ run.status = some judgement.verdict.exitStatus := by
  have status : run.status = _ :=
    congrArg Prod.fst (same.trans (account_of_answered elapsed judged.1))
  have told := Outcome.judgement_ofProgram _ workspace.names program judged.2
  rw [told] at status
  exact ⟨_, told, status⟩

theorem code_of_judged (judged : Judged host directory arguments workspace program) :
    run.code ≤ 2 := by
  obtain ⟨judgement, -, status⟩ := status_of_judged same judged
  rw [code, status]
  exact code_verdict_le judgement.verdict

theorem code_of_brokenOff (deep : BrokenOff host directory arguments workspace program) :
    run.code = 101 := by
  have status : run.status = _ :=
    congrArg Prod.fst (same.trans (account_of_answered elapsed deep.1))
  rw [Outcome.unjudged_ofProgram _ workspace.names program deep.2] at status
  rw [code, status]
  rfl

theorem ways_of_account : Misused host directory arguments ∧ run.code = 3
    ∨ Broken host directory arguments ∧ run.code = 4
    ∨ (∃ workspace program, Judged host directory arguments workspace program) ∧ run.code ≤ 2
    ∨ (∃ workspace program, BrokenOff host directory arguments workspace program)
      ∧ run.code = 101 := by
  rcases misused_or_broken_or_answered host directory arguments with
    misused | broken | ⟨workspace, program, answered⟩
  · exact .inl ⟨misused, code_of_misused same misused⟩
  · exact .inr (.inl ⟨broken, code_of_broken same broken⟩)
  · refine .inr (.inr ?_)
    by_cases shallow :
        (settingsOf host.files directory arguments).check.report.suppression.Shallow
          program.findings
    · have judged : Judged host directory arguments workspace program := ⟨answered, shallow⟩
      exact .inl ⟨⟨workspace, program, judged⟩, code_of_judged same judged⟩
    · have deep : BrokenOff host directory arguments workspace program := ⟨answered, shallow⟩
      exact .inr ⟨⟨workspace, program, deep⟩, code_of_brokenOff same deep⟩

theorem accounted_of_account : Accounted host directory arguments run := by
  obtain ⟨misused, broken, judged, brokenOff⟩ := told_by_code (ways_of_account same)
  exact {
    misused := ⟨misused, code_of_misused same⟩
    broken := ⟨broken, code_of_broken same⟩
    judged := ⟨judged, fun ⟨_, _, judged⟩ => code_of_judged same judged⟩
    brokenOff := ⟨brokenOff, fun ⟨_, _, deep⟩ => code_of_brokenOff same deep⟩
    help := fun misused => congrArg Prod.snd (same.trans (account_of_misused elapsed misused))
    silent := fun broken => congrArg Prod.snd (same.trans (account_of_broken elapsed broken))
    reported := fun _ _ answered =>
      congrArg Prod.snd (same.trans (account_of_answered elapsed answered))
    verdict := fun _ _ judged => status_of_judged same judged }

end

section

variable {host directory arguments} {other : Host} {words : List String} (elapsed : String)

-- What is told to whoever called the tool the wrong way hangs on the files alone.
def refusal (files : Files) (directory : Path) (arguments : Arguments) (e : CheckError) : Run :=
  let loaded := arguments.loadConfig files directory
  ((failed (settingsOf files directory arguments).palette e).logging
    (Config.log files arguments.config directory loaded)).after (warnings arguments.palette loaded)

theorem ofArguments_refused {e : CheckError} (there : host.reach directory = .ok ())
    (unplanned : Workspace.plan host.files arguments.files
      (settingsOf host.files directory arguments).definitions = .error e) :
    ofArguments host directory elapsed arguments
      = (host, refusal host.files directory arguments e) := by
  have refused := ofSettings_unplanned elapsed unplanned
  unfold ofArguments
  rw [there]
  dsimp only
  unfold ofConfig
  dsimp only
  unfold settingsOf at refused
  rw [refused]
  rfl

theorem ofWords_misused (accepted : CommandLine.read words = .ok (.check arguments))
    (misused : Misused host directory arguments) (same : other.files = host.files)
    (there : other.reach directory = .ok ()) :
    ofWords other directory elapsed words
      = (other, (ofWords host directory elapsed words).2) := by
  obtain ⟨reached, e, blame, refused⟩ := misused
  rcases Workspace.stage_error refused with ⟨unplanned, -⟩ | ⟨cause, rfl⟩
  · have here := ofArguments_refused elapsed reached unplanned
    rw [← same] at unplanned here
    have elsewhere := ofArguments_refused elapsed there unplanned
    unfold ofWords
    rw [accepted]
    simp only [ofCommandLine, here, elsewhere]
    rfl
  · cases blame

end

def bareHost : Host where
  State := Unit
  state := ()
  filesIn := fun _ => ⟨fun _ => .error .notFound⟩
  environment := {}
  scratch := .error .permissionDenied
  reachIn := fun _ _ => .ok ()
  storeIn := fun _ _ => .error .permissionDenied
  launchIn := fun state _ => (state, .error .notFound)

def answeringHost (answer : String) : Host where
  State := Unit
  state := ()
  filesIn := fun _ => ⟨fun p => if p.text = "face.js" then .ok (.file ⟨[], false⟩)
    else .error .notFound⟩
  environment := { node := some "/bin/node", typescript := some "/opt/typescript" }
  scratch := .ok ⟨"/tmp/rocky-lint-1"⟩
  reachIn := fun _ _ => .ok ()
  storeIn := fun state _ => .ok state
  launchIn := fun state _ => (state, .ok { ending := .exited 0, output := Text.bytesOf answer })

def oneScript : Arguments := { files := [⟨"face.js"⟩] }

def deepAnswer : String :=
  "\x7b\"syntactic\":[\x7b\"category\":1,\"code\":1005,\"chain\":[\x7b\"code\":1005,"
    ++ "\"text\":\"?\",\"category\":1,\"depth\":4611686018427387904\x7d]\x7d]\x7d"

end Run

end WatchfaceCheck
