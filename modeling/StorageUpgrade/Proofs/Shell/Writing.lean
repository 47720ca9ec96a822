import StorageUpgrade.Shell.Run

/-!
# What a run writes

From the reading of the layouts on, a run only adds to the log and to what it has written, and what
it adds does not depend on what stands there.  Of the settings it asks only whether the switches of
the check are on.  So two runs that show their logs in the same way and have the same switches on
add the same and come to the same result (`steady_comparison`).

## Strategy

* `Steady x`: from any two sessions that agree, `x` comes to one result and adds the same to both.
  The single steps are steady, and steadiness goes through sequences of steps.
* `compare` is the same function for settings with the same switches on (`compare_congr`), so it
  does not matter that two runs read different settings in front of it.
-/

namespace StorageUpgrade

/-- The switches that a comparison asks for. -/
def Attribute.checks : List Attribute :=
  [noColor, summary, allowCustomTypes, allowRenames, skipCheck]

/-- The session with more records in its log and more text written. -/
def Session.adding (s : Session) (records : List Log.Record) (text : String) : Session :=
  { s with log := s.log ++ records, output := s.output ++ text }

/-- Two sessions that show their logs in the same way and have the same switches on. -/
structure Session.Agree (s s' : Session) : Prop where
  view : s.view = s'.view
  checks : ∀ a ∈ Attribute.checks, s.settings.isOn a = s'.settings.isOn a

namespace Session

variable {s s' : Session}

theorem adding_adding (s : Session) (log log' : List Log.Record) (text text' : String) :
    (s.adding log text).adding log' text' = s.adding (log ++ log') (text ++ text') := by
  unfold adding
  simp only [List.append_assoc, String.append_assoc]

@[simp] theorem adding_nil (s : Session) : s.adding [] "" = s := by
  unfold adding
  rw [List.append_nil, String.append_empty]

theorem Agree.adding (h : s.Agree s') (log : List Log.Record) (text : String) :
    (s.adding log text).Agree (s'.adding log text) :=
  ⟨h.view, h.checks⟩

end Session

namespace SessionM

variable {α β : Type} {s s' : Session} {x : SessionM α} {f : α → SessionM β}

/-! ### Outcomes of the single steps -/

/-- The outcome of a run, and the session that it leaves behind. -/
def outcome (x : SessionM α) (s : Session) : Except Error α × Session := x.run.run s

@[simp] theorem outcome_pure (a : α) (s : Session) :
    outcome (pure a : SessionM α) s = (.ok a, s) := rfl

@[simp] theorem outcome_throw (e : Error) (s : Session) :
    outcome (throw e : SessionM α) s = (.error e, s) := rfl

@[simp] theorem outcome_modify (f : Session → Session) (s : Session) :
    outcome (modify f : SessionM Unit) s = (.ok (), f s) := rfl

@[simp] theorem outcome_lift (x : Except Error α) (s : Session) :
    outcome (x : SessionM α) s = (x, s) := by
  cases x <;> rfl

@[simp] theorem outcome_settings (s : Session) : outcome settings s = (.ok s.settings, s) := rfl

@[simp] theorem outcome_valueOf (a : Attribute) (s : Session) :
    outcome (valueOf a) s = (.ok (s.settings.value a), s) := rfl

theorem outcome_record (records : List Log.Record) (s : Session) :
    outcome (record records) s = (.ok (), s.adding records (s.view.write records)) := rfl

theorem outcome_bind (x : SessionM α) (f : α → SessionM β) (s : Session) :
    outcome (x >>= f) s = match outcome x s with
      | (.ok a, t) => outcome (f a) t
      | (.error e, t) => (.error e, t) := by
  simp only [outcome, ExceptT.run_bind, StateT.run_bind]
  rcases x.run.run s with ⟨_ | _, _⟩ <;> rfl

theorem outcome_bind_of_ok {t : Session} {a : α} (f : α → SessionM β)
    (h : outcome x s = (.ok a, t)) : outcome (x >>= f) s = outcome (f a) t := by
  rw [outcome_bind, h]

theorem outcome_bind_of_error {t : Session} {e : Error} (f : α → SessionM β)
    (h : outcome x s = (.error e, t)) : outcome (x >>= f) s = (.error e, t) := by
  rw [outcome_bind, h]

theorem outcome_tryCatch_of_ok {t : Session} {a : α} (handle : Error → SessionM α)
    (h : outcome x s = (.ok a, t)) : outcome (tryCatch x handle) s = (.ok a, t) := by
  have hrun : StateT.run x s = (.ok a, t) := h
  unfold outcome
  simp only [tryCatch, tryCatchThe, MonadExceptOf.tryCatch, ExceptT.tryCatch, ExceptT.run_mk,
    StateT.run_bind, hrun]
  rfl

theorem outcome_tryCatch_of_error {t : Session} {e : Error} (handle : Error → SessionM α)
    (h : outcome x s = (.error e, t)) : outcome (tryCatch x handle) s = outcome (handle e) t := by
  have hrun : StateT.run x s = (.error e, t) := h
  unfold outcome
  simp only [tryCatch, tryCatchThe, MonadExceptOf.tryCatch, ExceptT.tryCatch, ExceptT.run_mk,
    StateT.run_bind, hrun]
  rfl

/-! ### Steady runs -/

/-- From any two sessions that agree, a run comes to one result, and it adds the same to both. -/
def Steady (x : SessionM α) : Prop :=
  ∀ ⦃s s' : Session⦄, s.Agree s' → ∃ r log text,
    outcome x s = (r, s.adding log text) ∧ outcome x s' = (r, s'.adding log text)

theorem steady_of_same {r : Except Error α} (h : ∀ s, outcome x s = (r, s)) : Steady x := by
  intro s s' _
  refine ⟨r, [], "", ?_, ?_⟩
  · rw [h, Session.adding_nil]
  · rw [h, Session.adding_nil]

theorem steady_pure (a : α) : Steady (pure a) := steady_of_same (outcome_pure a)

theorem steady_throw (e : Error) : Steady (throw e : SessionM α) := steady_of_same (outcome_throw e)

theorem steady_lift (r : Except Error α) : Steady (r : SessionM α) :=
  steady_of_same (outcome_lift r)

theorem Steady.bind (hx : Steady x) (hf : ∀ a, Steady (f a)) : Steady (x >>= f) := by
  intro s s' hs
  obtain ⟨r, log, text, h, h'⟩ := hx hs
  cases r with
  | error e => exact ⟨.error e, log, text, outcome_bind_of_error f h, outcome_bind_of_error f h'⟩
  | ok a =>
      obtain ⟨r, log', text', hfa, hfa'⟩ := hf a (hs.adding log text)
      rw [Session.adding_adding] at hfa hfa'
      exact ⟨r, _, _, (outcome_bind_of_ok f h).trans hfa, (outcome_bind_of_ok f h').trans hfa'⟩

theorem Steady.ite {c : Prop} [Decidable c] {x y : SessionM α} (hx : Steady x) (hy : Steady y) :
    Steady (if c then x else y) := by
  split
  · exact hx
  · exact hy

/-- Settings may be read where only the switches of the check matter. -/
theorem Steady.settings_bind {f : Settings → SessionM β} (hf : ∀ settings, Steady (f settings))
    (hsame : ∀ settings settings' : Settings,
      (∀ a ∈ Attribute.checks, settings.isOn a = settings'.isOn a) → f settings = f settings') :
    Steady (settings >>= f) := by
  intro s s' hs
  rw [outcome_bind_of_ok f (outcome_settings s), outcome_bind_of_ok f (outcome_settings s'),
    hsame _ _ hs.checks]
  exact hf _ hs

theorem steady_write (text : String) : Steady (write text) := by
  intro s s' _
  refine ⟨.ok (), [], text, ?_, ?_⟩ <;>
    simp [write, Session.adding]

theorem steady_writeLine (text : String) : Steady (writeLine text) := steady_write _

theorem steady_record (records : List Log.Record) : Steady (record records) := by
  intro s s' hs
  refine ⟨.ok (), records, s.view.write records, outcome_record records s, ?_⟩
  rw [outcome_record, hs.view]

theorem steady_say (topic : String) (level : Log.Level) (message : String) :
    Steady (say topic level message) := steady_record _

theorem steady_logged (x : LoggedM α) : Steady (logged x) :=
  (steady_record _).bind fun _ => steady_lift _

theorem steady_readFile (files : Files) (name : String) : Steady (readFile files name) := by
  unfold readFile
  split
  · exact steady_pure _
  all_goals exact steady_throw _

end SessionM

namespace Shell

open SessionM

variable {platform : Platform} {files : Files} {colors : Bool}

theorem steady_alert (message : String) : Steady (alert platform message) := by
  unfold alert display
  split
  · exact steady_write _
  · exact steady_throw _

theorem steady_readLayout (name : String) : Steady (readLayout platform files name) := by
  unfold readLayout
  refine (steady_say _ _ _).bind fun _ => ?_
  refine Steady.ite ((steady_throw _).bind fun _ => ?_) ?_
  all_goals
    refine (steady_readFile files name).bind fun text => ?_
    split
    · exact steady_throw _
    · split
      · exact steady_pure _
      · exact (steady_throw _).ite (steady_throw _)

/-- What a comparison does once its summary is written. -/
def verdict (platform : Platform) (colors : Bool) (settings : Settings) (names : String × String)
    (old updated : Layout) : SessionM ExitCode := do
  match ← logged (Upgrade.check settings.options.withDefaults old updated) with
  | some report =>
    if !report.passes then
      alert platform (Upgrade.incompatibleTitle ++ "\n")
      writeLine (← (report.explain (colors && !settings.isOn .noColor) : Except Error _))
      return incompatible
  | none => pure ()
  writeLine (Style.green.apply (names.2 ++ " is compatible with " ++ names.1))
  return compatible

theorem steady_verdict (settings : Settings) (names : String × String) (old updated : Layout) :
    Steady (verdict platform colors settings names old updated) := by
  have hcompatible : Steady (do
      writeLine (Style.green.apply (names.2 ++ " is compatible with " ++ names.1))
      return compatible) := (steady_writeLine _).bind fun _ => steady_pure _
  refine (steady_logged _).bind fun report => ?_
  cases report with
  | none => exact hcompatible
  | some report =>
      refine Steady.ite ?_ hcompatible
      exact (steady_alert _).bind fun _ => (steady_lift _).bind fun _ =>
        (steady_writeLine _).bind fun _ => steady_pure _

theorem steady_compare (settings : Settings) (names : String × String) (old updated : Layout) :
    Steady (compare platform colors settings names old updated) := by
  have hverdict : Steady (verdict platform colors settings names old updated) :=
    steady_verdict settings names old updated
  unfold compare
  refine Steady.ite ?_ hverdict
  exact (steady_logged _).bind fun _ => (steady_lift _).bind fun _ =>
    (steady_writeLine _).bind fun _ => hverdict

/-- Settings with the same switches on ask for the same comparison. -/
theorem compare_congr {settings settings' : Settings}
    (h : ∀ a ∈ Attribute.checks, settings.isOn a = settings'.isOn a) (names : String × String)
    (old updated : Layout) :
    compare platform colors settings names old updated =
      compare platform colors settings' names old updated := by
  have hoptions : settings.options.withDefaults = settings'.options.withDefaults := by
    have hcustom := h .allowCustomTypes (by decide)
    have hrenames := h .allowRenames (by decide)
    have hskip := h .skipCheck (by decide)
    unfold Settings.isOn at hcustom hrenames hskip
    unfold Settings.options GivenOptions.withDefaults
    rw [hcustom, hrenames, hskip]
  unfold compare
  rw [hoptions, h .summary (by decide), h .noColor (by decide)]

/-- What a run does once it knows the two files. -/
def comparison (platform : Platform) (files : Files) (colors : Bool) (names : String × String) :
    SessionM ExitCode := do
  SessionM.say "run" Log.debug ("Comparing " ++ names.1 ++ " to " ++ names.2)
  let before ← readLayout platform files names.1
  let after ← readLayout platform files names.2
  compare platform colors (← SessionM.settings) names before after

theorem run_eq (args : List String) :
    run platform files colors args = (do
      if !(← readArguments platform files args) then return compatible
      modify fun s => { s with view := viewOf s.settings }
      comparison platform files colors (← chooseFiles platform files)) := rfl

/-- Sessions that agree go on in the same way once the two files are known. -/
theorem steady_comparison (names : String × String) :
    Steady (comparison platform files colors names) :=
  (steady_say _ _ _).bind fun _ => (steady_readLayout _).bind fun before =>
    (steady_readLayout _).bind fun after =>
      Steady.settings_bind (fun settings => steady_compare settings names before after)
        fun _ _ h => compare_congr h names before after

end Shell
end StorageUpgrade
