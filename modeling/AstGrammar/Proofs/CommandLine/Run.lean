import AstGrammar.Proofs.Files.Tree
import AstGrammar.Proofs.Session.Report

/-!
# Runs of the program

A run agrees with the library: it finds the settings, opens a session on the
files with them, reports the edited session and delivers the text.  Up to the
delivery it only reads, so a run that fails before leaves the machine as it was.
-/

namespace AstGrammar

section Reading

variable {σ α β : Type}

/-- The action leaves every state as it is. -/
def ReadsOnly (action : StateM σ α) : Prop := ∀ state, (action.run state).2 = state

namespace ReadsOnly

theorem pure (value : α) : ReadsOnly (Pure.pure value : StateM σ α) := fun _ => rfl

theorem bind {action : StateM σ α} {next : α → StateM σ β} (first : ReadsOnly action)
    (others : ∀ value, ReadsOnly (next value)) : ReadsOnly (action >>= next) := fun state =>
  (others (action.run state).1 (action.run state).2).trans (first state)

theorem exists_run {action : StateM σ α} (reads : ReadsOnly action) (state : σ) :
    ∃ value, action.run state = (value, state) :=
  ⟨(action.run state).1, Prod.ext rfl (reads state)⟩

end ReadsOnly

/-- A sequence goes on with what its first part gives. -/
theorem run_bind_of_run {action : StateM σ α} {next : α → StateM σ β} {state after : σ}
    {value : α} (ran : action.run state = (value, after)) :
    (action >>= next).run state = (next value).run after := by
  rw [StateT.run_bind, ran]
  rfl

end Reading

namespace ProgramAccess

/-- Writes a text to the output file, or shows it when there is none. -/
def deliver {m : Type → Type} [Monad m] (access : ProgramAccess m) (output : Option String)
    (text : String) : m (Except RunError Unit) := do
  let delivered ←
    match output with
    | some path => access.write path text
    | none => access.print text
  return delivered.mapError fun error => .session (.file error)

end ProgramAccess

namespace Arguments

section Library

variable {m : Type → Type} [Monad m]

/-- The text that arguments ask for, from a session that is opened on the files. -/
def report (arguments : Arguments) (files : FileAccess m) (directory : Option String) :
    m (Except RunError String) := do
  match ← Configuration.load files arguments.config directory with
  | .error error => return .error (.configuration error)
  | .ok settings =>
      match ← Session.ofFiles files (arguments.override settings) arguments.grammar with
      | .error error => return .error (.session error)
      | .ok session =>
          return (session.report (arguments.assignments.map Assignment.edit)
            arguments.names).mapError fun error => .session (.entry error)

/-- Reading the grammar and the hints one after the other and loading them comes
to the same as opening a session, whatever the files do. -/
theorem text_eq_ofFiles [LawfulMonad m] (arguments : Arguments) (files : FileAccess m)
    (settings : Settings) :
    arguments.text files settings = (do
      match ← Session.ofFiles files (arguments.override settings) arguments.grammar with
      | .error error => return .error error
      | .ok session =>
          return (session.report (arguments.assignments.map Assignment.edit)
            arguments.names).mapError .entry) := by
  simp only [text, Session.ofFiles, Session.readSource, bind_assoc]
  congr 1
  funext grammar
  cases grammar with
  | error error => simp only [pure_bind]
  | ok grammar =>
      simp only [readHints]
      cases (arguments.override settings).source.attributeOrder with
      | none =>
          cases loaded : Session.load (arguments.override settings) ⟨grammar, none⟩ with
          | error error => simp only [pure_bind, loaded]
          | ok session => simp only [pure_bind, loaded]
      | some path =>
          simp only [bind_assoc]
          congr 1
          funext hints
          cases hints with
          | error error => simp [Except.map]
          | ok hints =>
              cases loaded : Session.load (arguments.override settings) ⟨grammar, some hints⟩ with
              | error error => simp only [pure_bind, Except.map, loaded]
              | ok session => simp only [pure_bind, Except.map, loaded]

end Library

end Arguments

/-- The program reports as the library does, and then delivers the text. -/
theorem program_eq_report {m : Type → Type} [Monad m] [LawfulMonad m] (access : ProgramAccess m)
    (directory : Option String) (arguments : Arguments) :
    program access directory arguments = (do
      match ← arguments.report access.toFileAccess directory with
      | .error error => return .error error
      | .ok text => access.deliver arguments.output text) := by
  simp only [program, run, Arguments.report, Arguments.text_eq_ofFiles, bind_assoc]
  congr 1
  funext settings
  cases settings with
  | error error => simp only [pure_bind]
  | ok settings =>
      simp only [bind_assoc]
      congr 1
      funext session
      cases session with
      | error error => simp only [pure_bind]
      | ok session =>
          simp only [pure_bind]
          cases session.report (arguments.assignments.map Assignment.edit) arguments.names with
          | error error => simp only [Except.mapError, pure_bind]
          | ok text =>
              simp only [Except.mapError, ProgramAccess.deliver]
              cases arguments.output with
              | none =>
                  simp only [pure_bind]
                  congr 1
                  funext delivered
                  cases delivered <;> rfl
              | some path =>
                  simp only [bind_assoc]
                  congr 1
                  funext delivered
                  cases delivered <;> simp only [pure_bind]

/-- A machine with files and an output, by its states. Reading leaves a state as
it is; writing and showing may change it in any way, also when they fail. -/
structure Machine (σ : Type) where
  isFile : (state : σ) → (path : String) → Bool
  read : (state : σ) → (path : String) → Except FileError String
  write : (path content : String) → (state : σ) → Except FileError Unit × σ
  print : (text : String) → (state : σ) → Except FileError Unit × σ

namespace Machine

variable {σ : Type}

def access (machine : Machine σ) : ProgramAccess (StateM σ) where
  isFile path := do return machine.isFile (← get) path
  read path := do return machine.read (← get) path
  write := machine.write
  print := machine.print

def files (machine : Machine σ) : FileAccess (StateM σ) := machine.access.toFileAccess

section Reading

variable (machine : Machine σ)

theorem readsOnly_isFile (path : String) : ReadsOnly (machine.files.isFile path) := fun _ => rfl

theorem readsOnly_read (path : String) : ReadsOnly (machine.files.read path) := fun _ => rfl

theorem readsOnly_firstFile (paths : List String) :
    ReadsOnly (Configuration.firstFile machine.files paths) := by
  induction paths with
  | nil => exact .pure none
  | cons path rest ih =>
      refine .bind (machine.readsOnly_isFile path) fun found => ?_
      cases found with
      | false => exact ih
      | true => exact .pure (some path)

theorem readsOnly_readFile (path : String) :
    ReadsOnly (Configuration.readFile machine.files path) := by
  refine .bind (machine.readsOnly_read path) fun text => ?_
  cases text with
  | error error => exact .pure _
  | ok text => exact .pure _

theorem readsOnly_configuration (explicit directory : Option String) :
    ReadsOnly (Configuration.load machine.files explicit directory) := by
  cases explicit with
  | none =>
      refine .bind (machine.readsOnly_firstFile _) fun path => ?_
      cases path with
      | none => exact .pure _
      | some path => exact machine.readsOnly_readFile path
  | some path =>
      refine .bind (machine.readsOnly_isFile path) fun found => ?_
      cases found with
      | false => exact .pure _
      | true => exact machine.readsOnly_readFile path

theorem readsOnly_readSource (settings : Settings) (path : String) :
    ReadsOnly (Session.readSource machine.files settings path) := by
  refine .bind (machine.readsOnly_read path) fun grammar => ?_
  cases grammar with
  | error error => exact .pure _
  | ok grammar =>
      cases settings.source.attributeOrder with
      | none => exact .pure _
      | some hintsPath =>
          refine .bind (machine.readsOnly_read hintsPath) fun hints => ?_
          cases hints with
          | error error => exact .pure _
          | ok hints => exact .pure _

theorem readsOnly_ofFiles (settings : Settings) (path : String) :
    ReadsOnly (Session.ofFiles machine.files settings path) := by
  refine .bind (machine.readsOnly_readSource settings path) fun source => ?_
  cases source with
  | error error => exact .pure _
  | ok source => exact .pure _

end Reading

variable {machine : Machine σ} {directory : Option String} {arguments : Arguments} {state : σ}

/-- The configuration is found and gives settings. -/
def Configures (machine : Machine σ) (directory : Option String) (arguments : Arguments)
    (state : σ) (settings : Settings) : Prop :=
  (Configuration.load machine.files arguments.config directory).run state = (.ok settings, state)

/-- The configuration is found, and with the hints of the arguments, if they
name any, it opens a session on the grammar. -/
def Opens (machine : Machine σ) (directory : Option String) (arguments : Arguments)
    (state : σ) (session : Session) : Prop :=
  ∃ settings, machine.Configures directory arguments state settings ∧
    (Session.ofFiles machine.files (arguments.override settings) arguments.grammar).run state =
      (.ok session, state)

/-- A session is opened, accepts all edits and has the text that the names ask
for. -/
def Yields (machine : Machine σ) (directory : Option String) (arguments : Arguments)
    (state : σ) (text : String) : Prop :=
  ∃ session edited, machine.Opens directory arguments state session ∧
    session.Accepts (arguments.assignments.map Assignment.edit) edited ∧
    edited.Prints arguments.names text

/-- The first step to a text that does not succeed has an error. -/
inductive FailsWith (machine : Machine σ) (directory : Option String) (arguments : Arguments)
    (state : σ) : RunError → Prop
  | configuration {error : ConfigurationError}
      (fails : (Configuration.load machine.files arguments.config directory).run state =
        (.error error, state)) :
      FailsWith machine directory arguments state (.configuration error)
  | opening {settings : Settings} {error : SessionError}
      (configures : machine.Configures directory arguments state settings)
      (fails : (Session.ofFiles machine.files (arguments.override settings)
        arguments.grammar).run state = (.error error, state)) :
      FailsWith machine directory arguments state (.session error)
  | editing {session : Session} {error : EntryError}
      (opens : machine.Opens directory arguments state session)
      (refuses : session.Refuses (arguments.assignments.map Assignment.edit) error) :
      FailsWith machine directory arguments state (.session (.entry error))
  | printing {session edited : Session} {error : EntryError}
      (opens : machine.Opens directory arguments state session)
      (accepts : session.Accepts (arguments.assignments.map Assignment.edit) edited)
      (fails : edited.PrintFails arguments.names error) :
      FailsWith machine directory arguments state (.session (.entry error))

/-- With an open session, the report of its edits decides. -/
theorem report_run_of_opens {session : Session}
    (opens : machine.Opens directory arguments state session) :
    (arguments.report machine.files directory).run state =
      ((session.report (arguments.assignments.map Assignment.edit) arguments.names).mapError
        fun error => .session (.entry error), state) := by
  obtain ⟨settings, configures, opened⟩ := opens
  rw [Arguments.report, run_bind_of_run configures]
  exact run_bind_of_run opened

theorem Yields.report_run {text : String}
    (yields : machine.Yields directory arguments state text) :
    (arguments.report machine.files directory).run state = (.ok text, state) := by
  obtain ⟨session, edited, opens, accepts, prints⟩ := yields
  rw [report_run_of_opens opens, Session.report_eq_ok_iff.2 ⟨edited, accepts, prints⟩]
  rfl

theorem FailsWith.report_run {error : RunError}
    (fails : machine.FailsWith directory arguments state error) :
    (arguments.report machine.files directory).run state = (.error error, state) := by
  cases fails with
  | configuration fails =>
      rw [Arguments.report, run_bind_of_run fails]
      rfl
  | opening configures fails =>
      rw [Arguments.report, run_bind_of_run configures]
      exact run_bind_of_run fails
  | editing opens refuses =>
      rw [report_run_of_opens opens, Session.report_eq_error_iff.2 (.inl refuses)]
      rfl
  | printing opens accepts fails =>
      rw [report_run_of_opens opens, Session.report_eq_error_iff.2 (.inr ⟨_, accepts, fails⟩)]
      rfl

/-- Either all steps succeed and there is a text, or there is a first one that
fails. -/
theorem yields_or_failsWith (machine : Machine σ) (directory : Option String)
    (arguments : Arguments) (state : σ) :
    (∃ text, machine.Yields directory arguments state text) ∨
      ∃ error, machine.FailsWith directory arguments state error := by
  obtain ⟨found, configured⟩ :=
    (machine.readsOnly_configuration arguments.config directory).exists_run state
  cases found with
  | error error => exact .inr ⟨_, .configuration configured⟩
  | ok settings =>
      obtain ⟨found, opened⟩ :=
        (machine.readsOnly_ofFiles (arguments.override settings) arguments.grammar).exists_run state
      cases found with
      | error error => exact .inr ⟨_, .opening configured opened⟩
      | ok session =>
          have opens : machine.Opens directory arguments state session :=
            ⟨settings, configured, opened⟩
          cases reported : session.report (arguments.assignments.map Assignment.edit)
              arguments.names with
          | ok text =>
              obtain ⟨edited, accepts, prints⟩ := Session.report_eq_ok_iff.1 reported
              exact .inl ⟨text, session, edited, opens, accepts, prints⟩
          | error error =>
              rcases Session.report_eq_error_iff.1 reported with refuses | ⟨edited, accepts, fails⟩
              · exact .inr ⟨_, .editing opens refuses⟩
              · exact .inr ⟨_, .printing opens accepts fails⟩

theorem program_run_of_yields {text : String}
    (yields : machine.Yields directory arguments state text) :
    (program machine.access directory arguments).run state =
      (machine.access.deliver arguments.output text).run state := by
  rw [program_eq_report]
  exact run_bind_of_run yields.report_run

theorem program_run_of_failsWith {error : RunError}
    (fails : machine.FailsWith directory arguments state error) :
    (program machine.access directory arguments).run state = (.error error, state) := by
  rw [program_eq_report]
  exact run_bind_of_run fails.report_run

/-- On every machine and from every state, the program succeeds exactly when all
steps to a text do and the text can be delivered; it then does nothing but
deliver this one text. When a step fails, the first one that does decides the
error, and the machine is as it was. -/
theorem program_succeeds_iff_delivers (machine : Machine σ) (directory : Option String)
    (arguments : Arguments) (state : σ) :
    let result := (program machine.access directory arguments).run state
    let delivery := fun text => (machine.access.deliver arguments.output text).run state
    (result.1 = .ok () ↔
      ∃ text, machine.Yields directory arguments state text ∧ (delivery text).1 = .ok ()) ∧
    (∀ text, machine.Yields directory arguments state text → result = delivery text) ∧
    (∀ error, machine.FailsWith directory arguments state error →
      result = (.error error, state)) ∧
    ((∃ text, machine.Yields directory arguments state text) ∨
      ∃ error, machine.FailsWith directory arguments state error) := by
  intro result delivery
  have delivers : ∀ text, machine.Yields directory arguments state text →
      result = delivery text := fun text => program_run_of_yields
  have fails : ∀ error, machine.FailsWith directory arguments state error →
      result = (.error error, state) := fun error => program_run_of_failsWith
  have decided := machine.yields_or_failsWith directory arguments state
  refine ⟨⟨fun succeeds => ?_, ?_⟩, delivers, fails, decided⟩
  · rcases decided with ⟨text, yields⟩ | ⟨error, failsWith⟩
    · rw [delivers text yields] at succeeds
      exact ⟨text, yields, succeeds⟩
    · rw [fails error failsWith] at succeeds
      cases succeeds
  · rintro ⟨text, yields, delivered⟩
    rw [delivers text yields]
    exact delivered

end Machine

namespace FileTree

/-- A tree of files, with the text that was shown so far, is a machine. -/
def machine : Machine (FileTree × String) where
  isFile state path := ((access.isFile path).run state.1).1
  read state path := ((access.read path).run state.1).1
  write path content state :=
    let (result, tree) := (access.write path content).run state.1
    (result, tree, state.2)
  print text state := (.ok (), state.1, state.2 ++ text)

theorem machine_write (tree : FileTree) (shown path content : String) :
    machine.write path content (tree, shown) =
      match tree.write path content with
      | .ok written => (.ok (), written, shown)
      | .error error => (.error error, tree, shown) := by
  change (
    let (result, next) := (match tree.write path content with
      | .ok written => do
          set written
          return .ok ()
      | .error error => return .error error : StateM FileTree (Except FileError Unit)).run tree
    (result, next, shown)) = _
  cases tree.write path content <;> rfl

/-- What a run leaves behind when there is a text. Without an output file the
text is shown behind what was shown before. Otherwise the output file holds the
text and nothing else changes, or nothing changes at all when it cannot be
written. -/
theorem program_run_of_yields {directory : Option String} {arguments : Arguments}
    {tree : FileTree} {shown text : String}
    (yields : machine.Yields directory arguments (tree, shown) text) :
    let result := (program machine.access directory arguments).run (tree, shown)
    (arguments.output = none → result = (.ok (), tree, shown ++ text)) ∧
    ∀ path, arguments.output = some path →
      (∀ written, tree.write path text = .ok written →
        result = (.ok (), written, shown) ∧ written.read path = .ok text) ∧
      ∀ error, tree.write path text = .error error →
        result = (.error (.session (.file error)), tree, shown) := by
  intro result
  have delivers : result = (machine.access.deliver arguments.output text).run (tree, shown) :=
    Machine.program_run_of_yields yields
  constructor
  · intro noOutput
    rw [delivers, noOutput]
    rfl
  · intro path output
    rw [output] at delivers
    have writes := machine_write tree shown path text
    constructor
    · intro written writesOk
      rw [writesOk] at writes
      exact ⟨delivers.trans (run_bind_of_run writes), read_of_write writesOk⟩
    · intro error writeFails
      rw [writeFails] at writes
      exact delivers.trans (run_bind_of_run writes)

end FileTree

end AstGrammar
