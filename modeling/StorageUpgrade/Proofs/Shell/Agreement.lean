import StorageUpgrade.Proofs.Compare.Outcome
import StorageUpgrade.Proofs.Shell.Conf
import StorageUpgrade.Proofs.Shell.Flags
import StorageUpgrade.Standard

/-!
# Configurations and command lines

A run with a configuration comes to the same as a run on the two layouts that the configuration
names, with the switches on that are on in the one place or the other: the result is the same, and
so is all that is written behind the notes on the configuration (`run_conf_of_switches`).

How the log is shown is settled before the configuration is read, so only the command line has a
say in it (`run_conf_shows_as_given`).  Both hold on every platform.

## Strategy

* Both runs settle what to compare: the one from its arguments and the configuration
  (`settles_chooseFiles`), the other from its arguments alone (`outcome_chooseFiles`).
* From there on they go on alike (`steady_comparison`), since they have the same switches on and
  show their logs in the same way.
-/

namespace StorageUpgrade

/-- A run has come to what another one has come to, but has made some notes on the configuration
before: the result is the same, and behind the notes so are the log and what is written. -/
structure SameButNotes (view : Log.View) (x y : Except Error Shell.ExitCode × Session) : Prop where
  result : x.1 = y.1
  notes : ∃ notes : List Log.Record, (∀ r ∈ notes, r.topic = "config") ∧
    x.2.log = notes ++ y.2.log ∧ x.2.output = view.write notes ++ y.2.output

theorem Attribute.of_mem_checks {a : Attribute} (ha : a ∈ checks) :
    a.definition.kind = .switch ∧ a ≠ .files := by
  revert a
  decide

/-- The attributes that say how the log is shown. -/
def Attribute.logging : List Attribute := [debug, debugTopics, showDebugTopics]

/-- A configuration at hand names two layouts at hand. -/
structure Conf.Names (platform : Platform) (files : Files) (conf : String)
    (entries : List (String × Json)) (old updated : String) : Prop where
  file : Conf.IsFile platform files conf entries
  names : Json.find? Attribute.files.key entries = some (Arguments.textList [old, updated])
  old : Shell.IsLayoutFile files old
  updated : Shell.IsLayoutFile files updated

namespace Shell

open SessionM

variable {platform : Platform} {files : Files} {colors : Bool} {args args' : List String}
  {given plain : Settings} {conf old updated : String} {entries : List (String × Json)}
  {asked all : List Attribute}

/-- A run reads its arguments, and then settles what to compare. -/
theorem outcome_run (hread : Arguments.read args = .ok (.run given))
    (hcheck : given.check files true = .ok ()) :
    outcome (run platform files colors args) {} =
      outcome (chooseFiles platform files >>= comparison platform files colors)
        { settings := given, view := viewOf given } := by
  have harguments : outcome (readArguments platform files args) {} = (.ok true, { settings := given }) := by
    unfold readArguments
    rw [hread]
    dsimp only
    rw [outcome_bind_of_ok _ (outcome_modify _ _), hcheck]
    rfl
  rw [run_eq, outcome_bind_of_ok _ harguments]
  rfl

/-- A run with a configuration comes to the same as a run without one that has the same switches on
and shows its log in the same way. -/
theorem sameButNotes_run (hconf : Conf.Names platform files conf entries old updated)
    (hentries : ∀ e ∈ entries, Conf.AcceptsEntry e)
    (hread : Arguments.read args = .ok (.run given)) (hgiven : given.Accepted)
    (hname : given.value .files = Arguments.textList [conf])
    (hread' : Arguments.read args' = .ok (.run plain)) (hplain : plain.Accepted)
    (hnames : plain.value .files = Arguments.textList [old, updated])
    (hon : ∀ a ∈ Attribute.checks, plain.isOn a = true ↔
      given.isOn a = true ∨ (a.key, Json.bool true) ∈ entries)
    (hview : viewOf plain = viewOf given) :
    SameButNotes (viewOf given) (outcome (run platform files colors args) {})
      (outcome (run platform files colors args') {}) := by
  have hconfFile : Attribute.files.check files true (Arguments.textList [conf]) = .ok () :=
    check_files true (List.forall_mem_singleton.2
      ⟨hconf.file.allowed, hconf.file.content.imp fun _ h => h.1⟩)
  have hcheck := Settings.check_of_accepted hgiven (hname ▸ hconfFile)
  have hcheck' := Settings.check_of_accepted hplain
    (hnames ▸ check_layouts true hconf.old hconf.updated)
  -- the sessions in which the two runs start, and the settings that the configuration leaves
  let start : Session := { settings := given, view := viewOf given }
  let start' : Session := { settings := plain, view := viewOf plain }
  let result : Settings :=
    { (given.merged entries).set .files (Arguments.textList [old, updated]) with
      confFile := some (Path.ofText conf).text }
  have hsettles : Settles (chooseFiles platform files) given (old, updated) result :=
    settles_chooseFiles hconf.file hname hgiven hentries hconf.names hconf.old hconf.updated
  obtain ⟨notes, hnotes, hchosen⟩ := hsettles (rfl : start.settings = given)
  have hchosen' : outcome (chooseFiles platform files) start' = (.ok (old, updated), start') :=
    outcome_chooseFiles hnames hconf.old hconf.updated
  have hagree : (Session.noted { start with settings := result } notes).Agree start' := by
    refine ⟨hview.symm, fun a ha => ?_⟩
    obtain ⟨hswitch, hfiles⟩ := Attribute.of_mem_checks ha
    have hvalue : result.isOn a = (given.merged entries).isOn a := by
      unfold Settings.isOn
      exact congrArg Json.isSet (if_neg hfiles)
    change result.isOn a = plain.isOn a
    rw [hvalue, Bool.eq_iff_iff, Settings.isOn_merged hgiven hswitch hentries, hon a ha]
  have hsteady : Steady (comparison platform files colors (old, updated)) := steady_comparison _
  obtain ⟨r, log, text, h, h'⟩ := hsteady hagree
  rw [outcome_run hread hcheck, outcome_run hread' hcheck', outcome_bind_of_ok _ hchosen,
    outcome_bind_of_ok _ hchosen', h, h']
  refine ⟨rfl, notes, hnotes, rfl, ?_⟩
  change ("" ++ (viewOf given).write notes) ++ text = (viewOf given).write notes ++ ("" ++ text)
  rw [String.empty_append, String.empty_append]

theorem accepted_asking {names : List String}
    (hasked : ∀ a ∈ asked, a.definition.kind = .switch) :
    (Settings.asking names asked).Accepted := by
  intro a ha
  rw [Settings.value_asking ha]
  split
  · rename_i hmem
    have hswitch := hasked a hmem
    cases a with
    | files | debugTopics => cases hswitch
    | _ => exact .inr ⟨true, rfl⟩
  · cases a with
    | files => exact absurd rfl ha
    | debugTopics => exact .inl rfl
    | _ => exact .inr ⟨false, rfl⟩

theorem isOn_asking {names : List String} {a : Attribute} (ha : a.definition.kind = .switch) :
    (Settings.asking names asked).isOn a = true ↔ a ∈ asked := by
  have hfiles : a ≠ .files := by
    rintro rfl
    cases ha
  have hinitial : Settings.initial.value a = .bool false := if_pos ha
  unfold Settings.isOn
  rw [Settings.value_asking hfiles, hinitial]
  by_cases hmem : a ∈ asked <;> simp [hmem, Json.isSet]

theorem viewOf_asking {names : List String} (hasked : ∀ a ∈ asked, a ∈ Attribute.checks) :
    viewOf (.asking names asked) = {} := by
  have hlogging : ∀ a ∈ Attribute.logging,
      (Settings.asking names asked).value a = Settings.initial.value a := by
    intro a ha
    have hother : a ≠ .files ∧ a ∉ Attribute.checks := by
      revert a
      decide
    rw [Settings.value_asking hother.1, if_neg fun hmem => hother.2 (hasked a hmem)]
  unfold viewOf Settings.isOn
  rw [hlogging .debug (by decide), hlogging .debugTopics (by decide),
    hlogging .showDebugTopics (by decide)]
  rfl

/-- Switches of the check may be given on the command line or in a configuration: a run with a
configuration comes to the same as the run on its two layouts with all these switches on. -/
theorem run_conf_of_switches (hconf : Conf.Names platform files conf entries old updated)
    (hentries : ∀ e ∈ entries, e.1 = Attribute.files.key ∨
      ∃ a ∈ Attribute.checks, e.1 = a.key ∧ (e.2 = .null ∨ ∃ b, e.2 = .bool b))
    (hargs : Arguments.Asks [conf] asked args) (hasked : ∀ a ∈ asked, a ∈ Attribute.checks)
    (hargs' : Arguments.Asks [old, updated] all args')
    (hall : ∀ a, a ∈ all ↔
      a ∈ Attribute.checks ∧ (a ∈ asked ∨ (a.key, Json.bool true) ∈ entries)) :
    SameButNotes {} (outcome (run platform files colors args) {})
      (outcome (run platform files colors args') {}) := by
  have hchecks : ∀ a ∈ all, a ∈ Attribute.checks := fun a ha => ((hall a).1 ha).1
  have hswitch {asked : List Attribute} (h : ∀ a ∈ asked, a ∈ Attribute.checks) :
      ∀ a ∈ asked, a.definition.kind = .switch := fun a ha => (Attribute.of_mem_checks (h a ha)).1
  have haccepts : ∀ e ∈ entries, Conf.AcceptsEntry e := by
    intro e he
    refine (hentries e he).imp_right ?_
    rintro ⟨a, ha, hkey, hv⟩
    exact ⟨a, hkey, (Attribute.accepts_switch_iff (Attribute.of_mem_checks ha).1).2 hv⟩
  have hon : ∀ a ∈ Attribute.checks, (Settings.asking [old, updated] all).isOn a = true ↔
      (Settings.asking [conf] asked).isOn a = true ∨ (a.key, Json.bool true) ∈ entries := by
    intro a ha
    have hkind := (Attribute.of_mem_checks ha).1
    rw [isOn_asking hkind, isOn_asking hkind, hall]
    exact and_iff_right ha
  have hread := Arguments.read_of_asks hargs (List.cons_ne_nil _ _) (hswitch hasked)
  have hread' := Arguments.read_of_asks hargs' (List.cons_ne_nil _ _) (hswitch hchecks)
  have hview : viewOf (.asking [old, updated] all) = viewOf (.asking [conf] asked) := by
    rw [viewOf_asking hasked, viewOf_asking hchecks]
  rw [← viewOf_asking hasked]
  exact sameButNotes_run hconf haccepts hread (accepted_asking (hswitch hasked)) rfl hread'
    (accepted_asking (hswitch hchecks)) rfl hon hview

/-- Two layouts without variables, and a configuration. -/
def emptyLayouts (conf : String) : Files := fun name =>
  if name = "x.conf" then .file conf true
  else if name = "a.json" ∨ name = "b.json" then
    .file "\x7b\"storage\":[],\"types\":\x7b\x7d\x7d" true
  else .nothing

theorem names_emptyLayouts {text : String}
    (hparse : platform.readRelaxed text = .ok (.obj entries))
    (hnames : Json.find? Attribute.files.key entries =
      some (Arguments.textList ["a.json", "b.json"])) :
    Conf.Names platform (emptyLayouts text) "x.conf" entries "a.json" "b.json" where
  file := ⟨rfl, rfl, text, rfl, hparse⟩
  names := hnames
  old := ⟨rfl, _, rfl⟩
  updated := ⟨rfl, _, rfl⟩

/-- A configuration with a switch on, a switch off, and a switch left open. -/
def switchesConf : String :=
  "\x7b\"summary\":true,\"files\":[\"a.json\",\"b.json\"],\"no_color\":null," ++
    "\"unsafe_skip_storage_check\":false\x7d"

theorem run_conf_of_switches_emptyLayouts :
    SameButNotes {}
      (outcome (run .standard (emptyLayouts switchesConf) false
        ["--unsafe_allow_renames", "x.conf"]) {})
      (outcome (run .standard (emptyLayouts switchesConf) false
        ["a.json", "b.json", "--summary", "--unsafe_allow_renames"]) {}) := by
  have hparse : Platform.standard.readRelaxed switchesConf = .ok (.obj [("summary", .bool true),
      ("files", Arguments.textList ["a.json", "b.json"]), ("no_color", .null),
      ("unsafe_skip_storage_check", .bool false)]) := by
    decide +kernel
  have hargs : Arguments.Asks ["x.conf"] [.allowRenames] ["--unsafe_allow_renames", "x.conf"] :=
    .between [.allowRenames] [] (List.forall_mem_singleton.2 (by decide))
  have hargs' : Arguments.Asks ["a.json", "b.json"] [.summary, .allowRenames]
      ["a.json", "b.json", "--summary", "--unsafe_allow_renames"] :=
    .between [] [.summary, .allowRenames] (by decide)
  refine run_conf_of_switches (names_emptyLayouts hparse rfl) ?_ hargs (by decide) hargs' ?_
  · intro e he
    simp only [List.mem_cons, List.not_mem_nil, or_false] at he
    rcases he with rfl | rfl | rfl | rfl
    · exact .inr ⟨.summary, by decide, rfl, .inr ⟨true, rfl⟩⟩
    · exact .inl rfl
    · exact .inr ⟨.noColor, by decide, rfl, .inl rfl⟩
    · exact .inr ⟨.skipCheck, by decide, rfl, .inr ⟨false, rfl⟩⟩
  · intro a
    cases a <;> decide

end Shell
end StorageUpgrade
