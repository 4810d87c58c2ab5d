import WatchfaceCheck.Proofs.Staging.Errors
import WatchfaceCheck.Run
namespace WatchfaceCheck

theorem Ending.isSuccess_iff (ending : Ending) : ending.isSuccess = true ↔ ending = .exited 0 :=
  beq_iff_eq

namespace Bridge

variable {host left ready : Host} {tools : Toolchain} {question : Question} {e : FileError}
  {done : Completed} {program : Snapshot}

theorem ask_uninstalled (refused : prepare host question = .error e) :
    ask host tools question = (host, .error (.io e)) := by
  unfold ask
  rw [refused]

theorem ask_unstarted (installed : prepare host question = .ok ready)
    (refused : ready.start (invocation tools question) = (left, .error e)) :
    ask host tools question = (left, .error (.io e)) := by
  unfold ask
  rw [installed]
  dsimp only
  rw [refused]

theorem ask_ended (installed : prepare host question = .ok ready)
    (started : ready.start (invocation tools question) = (left, .ok done)) :
    ask host tools question = (left, answer done) := by
  unfold ask
  rw [installed]
  dsimp only
  rw [started]

theorem answer_unsuccessful (other : done.ending ≠ .exited 0) :
    ∃ code complaint, answer done = .error (.checkerFailed code complaint) := by
  unfold answer
  rw [if_neg fun success => other (done.ending.isSuccess_iff.mp success)]
  exact ⟨_, _, rfl⟩

theorem answer_unreadable (success : done.ending = .exited 0)
    (garbled : Snapshot.read? (Text.Utf8.symbols done.output) = none) :
    answer done = .error .unreadableAnswer := by
  unfold answer
  rw [if_pos (done.ending.isSuccess_iff.mpr success), garbled]

theorem answer_readable (success : done.ending = .exited 0)
    (answered : Snapshot.read? (Text.Utf8.symbols done.output) = some program) :
    answer done = .ok program := by
  unfold answer
  rw [if_pos (done.ending.isSuccess_iff.mpr success), answered]

end Bridge

namespace Run

-- What a run tells whoever does not look at the standard error.
def account (run : Run) : Option ExitStatus × String := (run.status, run.output)

@[simp] theorem account_after (notices : List Notice) (run : Run) :
    (run.after notices).account = run.account := rfl

@[simp] theorem account_logging (log : List LogEntry) (run : Run) :
    (run.logging log).account = run.account := rfl

@[simp] theorem account_heard (verbosity : Nat) (run : Run) :
    (run.heard verbosity).account = run.account := rfl

theorem account_failed_of_blames {e : CheckError} (palette : Palette) (blame : e.BlamesCall) :
    (failed palette e).account = (some .usage, "\n" ++ CommandLine.helpText) := by
  unfold failed
  rw [if_pos (e.isUsage_iff.mpr blame)]
  rfl

theorem account_failed {e : CheckError} (palette : Palette) (blameless : ¬ e.BlamesCall) :
    (failed palette e).account = (some .fault, "") := by
  unfold failed
  rw [if_neg fun usage => blameless (e.isUsage_iff.mp usage)]
  split <;> rfl

theorem account_failed_io (palette : Palette) (cause : FileError) :
    (failed palette (.io cause)).account = (some .fault, "") :=
  account_failed palette (by rintro ⟨⟩)

theorem account_ofProgram (elapsed : String) (settings : Settings) (names : NameMap)
    (program : Snapshot) : (ofProgram elapsed settings names program).account
      = ((Outcome.ofProgram settings.check names program).judgement.map fun judgement =>
          judgement.verdict.exitStatus,
        (Outcome.ofProgram settings.check names program).report.render settings.palette) := rfl

inductive Stage where
  | staged (workspace : Workspace) (left : Host)
  | equipped (workspace : Workspace) (tools : Toolchain) (left : Host)
  | ready (workspace : Workspace) (tools : Toolchain) (left : Host)
  | ended (workspace : Workspace) (done : Completed)

variable (host : Host) (settings : Settings) (inputs : List Path)

inductive Reaches : Stage → Prop
  | staged {workspace : Workspace} {left : Host}
      (filled : settings.stage host inputs = .ok workspace)
      (stored : host.store workspace.directory = .ok left) : Reaches (.staged workspace left)
  | equipped {workspace : Workspace} {tools : Toolchain} {before left : Host}
      (earlier : Reaches (.staged workspace before))
      (located : settings.tools.locate before = (left, .ok tools)) :
      Reaches (.equipped workspace tools left)
  | ready {workspace : Workspace} {tools : Toolchain} {before left : Host}
      (earlier : Reaches (.equipped workspace tools before))
      (moved : before.reach workspace.directory.path = .ok ())
      (installed : Bridge.prepare before (workspace.question settings.check.compiler) = .ok left) :
      Reaches (.ready workspace tools left)
  | ended {workspace : Workspace} {tools : Toolchain} {before left : Host} {done : Completed}
      (earlier : Reaches (.ready workspace tools before))
      (started : before.start (Bridge.invocation tools (workspace.question settings.check.compiler))
        = (left, .ok done)) : Reaches (.ended workspace done)

def Refused : Prop := ∃ e, e.BlamesCall ∧ settings.stage host inputs = .error e

inductive Breaks : Prop
  | unstaged {e : FileError} (unread : settings.stage host inputs = .error (.io e))
  | unstored {workspace : Workspace} {e : FileError}
      (filled : settings.stage host inputs = .ok workspace)
      (refused : host.store workspace.directory = .error e)
  | unequipped {workspace : Workspace} {before left : Host} {missing : MissingTool}
      (earlier : Reaches host settings inputs (.staged workspace before))
      (sought : settings.tools.locate before = (left, .error missing))
  | unmoved {workspace : Workspace} {tools : Toolchain} {before : Host} {e : FileError}
      (earlier : Reaches host settings inputs (.equipped workspace tools before))
      (gone : before.reach workspace.directory.path = .error e)
  | uninstalled {workspace : Workspace} {tools : Toolchain} {before : Host} {e : FileError}
      (earlier : Reaches host settings inputs (.equipped workspace tools before))
      (moved : before.reach workspace.directory.path = .ok ())
      (refused : Bridge.prepare before (workspace.question settings.check.compiler) = .error e)
  | unstarted {workspace : Workspace} {tools : Toolchain} {before left : Host} {e : FileError}
      (earlier : Reaches host settings inputs (.ready workspace tools before))
      (refused : before.start (Bridge.invocation tools (workspace.question settings.check.compiler))
        = (left, .error e))
  | unsuccessful {workspace : Workspace} {done : Completed}
      (earlier : Reaches host settings inputs (.ended workspace done))
      (other : done.ending ≠ .exited 0)
  | unreadable {workspace : Workspace} {done : Completed}
      (earlier : Reaches host settings inputs (.ended workspace done))
      (success : done.ending = .exited 0)
      (garbled : Snapshot.read? (Text.Utf8.symbols done.output) = none)

inductive Answers : Workspace → Snapshot → Prop
  | intro {workspace : Workspace} {program : Snapshot} {done : Completed}
      (earlier : Reaches host settings inputs (.ended workspace done))
      (success : done.ending = .exited 0)
      (answered : Snapshot.read? (Text.Utf8.symbols done.output) = some program) :
      Answers workspace program

def concluded (elapsed : String) (workspace : Workspace) : Except CheckError Snapshot → Run
  | .error e => failed settings.palette e
  | .ok program => ofProgram elapsed settings workspace.names program

theorem account_ofQuestion (elapsed : String) (workspace : Workspace) (tools : Toolchain) :
    (ofQuestion host elapsed settings workspace tools).2.account
      = (concluded settings elapsed workspace
        (Bridge.ask host tools (workspace.question settings.check.compiler)).2).account := by
  unfold ofQuestion
  rw [account_logging]
  rfl

section

variable {host settings inputs} {workspace : Workspace} {tools : Toolchain} {before : Host}
  (elapsed : String)

-- Where the paths do not pass, nothing but the files is looked at, and nothing is noted.
theorem ofSettings_unplanned {e : CheckError}
    (unplanned : Workspace.plan host.files inputs settings.definitions = .error e) :
    ofSettings host elapsed inputs settings = (host, failed settings.palette e) := by
  have unstaged : settings.stage host inputs = .error e := by
    unfold Settings.stage Workspace.stage
    rw [unplanned]
  have unlogged : Workspace.stagingLog host.files host.scratch inputs settings.definitions = [] := by
    unfold Workspace.stagingLog
    rw [unplanned]
  unfold ofSettings
  rw [unstaged, unlogged]
  rfl

theorem account_unstaged {e : CheckError} (unstaged : settings.stage host inputs = .error e) :
    (ofSettings host elapsed inputs settings).2.account = (failed settings.palette e).account := by
  unfold ofSettings
  rw [unstaged]
  rfl

theorem account_staged (reached : Reaches host settings inputs (.staged workspace before)) :
    (ofSettings host elapsed inputs settings).2.account
      = (ofWorkspace before elapsed settings workspace).2.account := by
  cases reached with
  | staged filled stored =>
    unfold ofSettings
    rw [filled]
    dsimp only
    rw [stored]
    rfl

theorem account_equipped
    (reached : Reaches host settings inputs (.equipped workspace tools before)) :
    (ofSettings host elapsed inputs settings).2.account
      = (ofToolchain before elapsed settings workspace tools).2.account := by
  cases reached with
  | equipped earlier located =>
    rw [account_staged elapsed earlier]
    unfold ofWorkspace
    rw [located]
    rfl

theorem account_moved (reached : Reaches host settings inputs (.equipped workspace tools before))
    (moved : before.reach workspace.directory.path = .ok ()) :
    (ofSettings host elapsed inputs settings).2.account
      = (concluded settings elapsed workspace
        (Bridge.ask before tools (workspace.question settings.check.compiler)).2).account := by
  rw [account_equipped elapsed reached, ← account_ofQuestion]
  unfold ofToolchain
  rw [moved]
  rfl

theorem account_ended {done : Completed}
    (reached : Reaches host settings inputs (.ended workspace done)) :
    (ofSettings host elapsed inputs settings).2.account
      = (concluded settings elapsed workspace (Bridge.answer done)).account := by
  cases reached with
  | ended earlier started =>
    cases earlier with
    | ready earlier moved installed =>
      rw [account_moved elapsed earlier moved, Bridge.ask_ended installed started]

theorem account_of_refused (refused : Refused host settings inputs) :
    (ofSettings host elapsed inputs settings).2.account
      = (some .usage, "\n" ++ CommandLine.helpText) := by
  obtain ⟨e, blame, unstaged⟩ := refused
  rw [account_unstaged elapsed unstaged, account_failed_of_blames _ blame]

theorem account_of_breaks (breaks : Breaks host settings inputs) :
    (ofSettings host elapsed inputs settings).2.account = (some .fault, "") := by
  cases breaks with
  | unstaged unread => rw [account_unstaged elapsed unread, account_failed_io]
  | @unstored workspace e filled refused =>
    unfold ofSettings
    rw [filled]
    dsimp only
    rw [refused]
    exact account_failed_io settings.palette e
  | unequipped earlier sought =>
    rw [account_staged elapsed earlier]
    unfold ofWorkspace
    rw [sought]
    exact account_failed _ (by rintro ⟨⟩)
  | @unmoved workspace tools before e earlier gone =>
    rw [account_equipped elapsed earlier]
    unfold ofToolchain
    rw [gone]
    exact account_failed_io settings.palette e
  | uninstalled earlier moved refused =>
    rw [account_moved elapsed earlier moved, Bridge.ask_uninstalled refused]
    exact account_failed_io _ _
  | unstarted earlier refused =>
    cases earlier with
    | ready earlier moved installed =>
      rw [account_moved elapsed earlier moved, Bridge.ask_unstarted installed refused]
      exact account_failed_io _ _
  | unsuccessful earlier other =>
    obtain ⟨code, complaint, failed⟩ := Bridge.answer_unsuccessful other
    rw [account_ended elapsed earlier, failed]
    exact account_failed _ (by rintro ⟨⟩)
  | unreadable earlier success garbled =>
    rw [account_ended elapsed earlier, Bridge.answer_unreadable success garbled]
    exact account_failed _ (by rintro ⟨⟩)

theorem account_of_answers {program : Snapshot}
    (answers : Answers host settings inputs workspace program) :
    (ofSettings host elapsed inputs settings).2.account
      = ((Outcome.ofProgram settings.check workspace.names program).judgement.map fun judgement =>
          judgement.verdict.exitStatus,
        (Outcome.ofProgram settings.check workspace.names program).report.render
          settings.palette) := by
  cases answers with
  | intro earlier success answered =>
    rw [account_ended elapsed earlier, Bridge.answer_readable success answered]
    exact account_ofProgram elapsed settings workspace.names program

-- Every run ends in one of the three ways. The cases follow the stages, the last ones first.
theorem ends_of_ended {done : Completed}
    (reached : Reaches host settings inputs (.ended workspace done)) :
    Breaks host settings inputs
      ∨ ∃ workspace program, Answers host settings inputs workspace program := by
  by_cases success : done.ending = .exited 0
  · cases answered : Snapshot.read? (Text.Utf8.symbols done.output) with
    | none => exact .inl (.unreadable reached success answered)
    | some program => exact .inr ⟨workspace, program, .intro reached success answered⟩
  · exact .inl (.unsuccessful reached success)

theorem ends_of_equipped
    (reached : Reaches host settings inputs (.equipped workspace tools before)) :
    Breaks host settings inputs
      ∨ ∃ workspace program, Answers host settings inputs workspace program := by
  cases moved : before.reach workspace.directory.path with
  | error e => exact .inl (.unmoved reached moved)
  | ok _ =>
    cases installed : Bridge.prepare before (workspace.question settings.check.compiler) with
    | error e => exact .inl (.uninstalled reached moved installed)
    | ok ready =>
      have prepared := Reaches.ready reached moved installed
      cases started : ready.start
        (Bridge.invocation tools (workspace.question settings.check.compiler)) with
      | mk left result =>
        cases result with
        | error e => exact .inl (.unstarted prepared started)
        | ok done => exact ends_of_ended (.ended prepared started)

theorem ends_of_staged (reached : Reaches host settings inputs (.staged workspace before)) :
    Breaks host settings inputs
      ∨ ∃ workspace program, Answers host settings inputs workspace program := by
  cases located : settings.tools.locate before with
  | mk left result =>
    cases result with
    | error missing => exact .inl (.unequipped reached located)
    | ok tools => exact ends_of_equipped (.equipped reached located)

end

theorem ends : Refused host settings inputs ∨ Breaks host settings inputs
    ∨ ∃ workspace program, Answers host settings inputs workspace program := by
  cases staged : settings.stage host inputs with
  | error e =>
    rcases Workspace.stage_error staged with ⟨-, blame⟩ | ⟨cause, rfl⟩
    · exact .inl ⟨e, blame, staged⟩
    · exact .inr (.inl (.unstaged staged))
  | ok workspace =>
    cases stored : host.store workspace.directory with
    | error e => exact .inr (.inl (.unstored staged stored))
    | ok left => exact .inr (ends_of_staged (.staged staged stored))

end Run

end WatchfaceCheck
