import StorageUpgrade.Proofs.Shell.Extensions
import StorageUpgrade.Proofs.Shell.Merging
import StorageUpgrade.Proofs.Shell.Writing

/-!
# Reading a configuration

A run that is given a configuration takes the two layouts from it, and goes on with the settings of
the command line merged with it (`settles_chooseFiles`).  All it says meanwhile are notes on the
configuration.

## Strategy

* `Settles x given b result`: where the settings are `given`, the run answers `b`, leaves the
  settings `result`, and adds nothing but notes on the configuration.  This goes through the steps
  of a run.
* The entries are applied one by one to accepted settings, so each of them passes, and a note can be
  made of any two values that differ (`settles_applyValue`).
-/

namespace StorageUpgrade

variable {α : Type} {a : Attribute} {v : Json} {platform : Platform} {files : Files}

/-! ### Settings and notes -/

theorem Log.View.write_append (view : Log.View) (records records' : List Log.Record) :
    view.write (records ++ records') = view.write records ++ view.write records' := by
  unfold Log.View.write
  rw [List.filter_append, List.map_append, String.join_append]

/-- The session with more records in its log, and with what is shown of them written. -/
def Session.noted (s : Session) (notes : List Log.Record) : Session :=
  s.adding notes (s.view.write notes)

theorem Session.noted_noted (s : Session) (settings settings' : Settings)
    (notes notes' : List Log.Record) :
    Session.noted { Session.noted { s with settings } notes with settings := settings' } notes' =
      Session.noted { s with settings := settings' } (notes ++ notes') := by
  unfold noted adding
  rw [Log.View.write_append]
  simp only [List.append_assoc, String.append_assoc]

namespace SessionM

variable {β : Type} {b : α} {c : β} {x : SessionM α} {f : α → SessionM β}
  {given between result : Settings}

/-- Where the settings are `given`, a run answers `b` and leaves the settings `result`, and all it
says are notes on the configuration. -/
def Settles (x : SessionM α) (given : Settings) (b : α) (result : Settings) : Prop :=
  ∀ ⦃s : Session⦄, s.settings = given → ∃ notes : List Log.Record,
    (∀ r ∈ notes, r.topic = "config") ∧
      outcome x s = (.ok b, Session.noted { s with settings := result } notes)

theorem settles_of_outcome
    (h : ∀ s : Session, s.settings = given → outcome x s = (.ok b, { s with settings := result })) :
    Settles x given b result := fun s hs =>
  ⟨[], nofun, (h s hs).trans (congrArg _ (Session.adding_nil _).symm)⟩

theorem settles_pure (b : α) : Settles (pure b) given b given :=
  settles_of_outcome fun s hs => by rw [outcome_pure, ← hs]

theorem settles_lift {r : Except Error α} (h : r = .ok b) :
    Settles (r : SessionM α) given b given :=
  settles_of_outcome fun s hs => by rw [outcome_lift, h, ← hs]

theorem settles_settings : Settles settings given given given :=
  settles_of_outcome fun s hs => by rw [outcome_settings, ← hs]

theorem settles_valueOf (a : Attribute) : Settles (valueOf a) given (given.value a) given :=
  settles_of_outcome fun s hs => by rw [outcome_valueOf, ← hs]

theorem settles_modify (g : Settings → Settings) :
    Settles (modify fun s => { s with settings := g s.settings }) given () (g given) :=
  settles_of_outcome fun s hs => by rw [outcome_modify, hs]

theorem settles_set (a : Attribute) (v : Json) : Settles (set a v) given () (given.set a v) :=
  settles_modify (·.set a v)

theorem settles_say (level : Log.Level) (message : String) :
    Settles (say "config" level message) given () given := fun s hs =>
  ⟨_, List.forall_mem_singleton.2 rfl, by rw [← hs]; rfl⟩

theorem Settles.bind (hx : Settles x given b between) (hf : Settles (f b) between c result) :
    Settles (x >>= f) given c result := by
  intro s hs
  obtain ⟨notes, hnotes, h⟩ := hx hs
  have hbetween : (Session.noted { s with settings := between } notes).settings = between := rfl
  obtain ⟨notes', hnotes', h'⟩ := hf hbetween
  refine ⟨notes ++ notes', List.forall_mem_append.2 ⟨hnotes, hnotes'⟩, ?_⟩
  rw [outcome_bind_of_ok f h, h', Session.noted_noted]

theorem Settles.tryCatch (hx : Settles x given b result) (handle : Error → SessionM α) :
    Settles (tryCatch x handle) given b result := fun _ hs =>
  (hx hs).imp fun _ h => ⟨h.1, outcome_tryCatch_of_ok handle h.2⟩

end SessionM

/-! ### Reading a configuration -/

namespace Conf

open SessionM

variable {given : Settings} {entries : List (String × Json)}

theorem settles_applyValue (hgiven : a.Accepts (given.value a)) (hv : a.Accepts v) :
    Settles (applyValue a v) given () (given.merge a v) := by
  obtain ⟨givenText, hgivenText⟩ := joined_of_accepts hgiven
  obtain ⟨text, htext⟩ := joined_of_accepts hv
  refine (settles_valueOf a).bind ?_
  unfold Settings.merge
  split
  · exact settles_set a v
  · split
    · exact (settles_lift (congrArg Json.Misuse.lift hgivenText)).bind
        ((settles_lift (congrArg Json.Misuse.lift htext)).bind (settles_say _ _))
    · exact settles_pure ()

theorem settles_applyEntry (hgiven : given.Accepted) {entry : String × Json}
    (hentry : AcceptsEntry entry) :
    Settles (applyEntry entry.1 entry.2) given () (given.mergeEntry entry) := by
  rcases hentry.cases with ⟨v, rfl⟩ | ⟨a, v, rfl, hv⟩
  · rw [Settings.mergeEntry_files]
    exact settles_pure ()
  · have hvalue := settles_applyValue (hgiven a hv.ne_files) hv
    rw [Settings.mergeEntry_key hv.ne_files]
    unfold applyEntry
    rw [Attribute.ofKey?_key]
    cases a with
    | files => exact hv.elim
    | _ => exact hvalue

theorem settles_entries (hgiven : given.Accepted) (hentries : ∀ e ∈ entries, AcceptsEntry e) :
    Settles (entries.forM fun (key, v) => applyEntry key v) given () (given.merged entries) := by
  induction entries generalizing given with
  | nil => exact settles_pure ()
  | cons entry entries ih =>
      obtain ⟨hentry, hentries⟩ := List.forall_mem_cons.1 hentries
      exact (settles_applyEntry hgiven hentry).bind (ih (hgiven.mergeEntry hentry) hentries)

theorem settles_apply {names : Json} (hgiven : given.Accepted)
    (hentries : ∀ e ∈ entries, AcceptsEntry e)
    (hnames : Json.find? Attribute.files.key entries = some names)
    (hfiles : Attribute.files.check files false names = .ok ()) :
    Settles (apply files (.obj entries)) given () ((given.merged entries).set .files names) := by
  refine (settles_entries hgiven hentries).bind ?_
  rw [hnames]
  refine (settles_set _ _).bind (settles_settings.bind (settles_lift ?_))
  exact Settings.check_of_accepted ((hgiven.merged hentries).set_files names) hfiles

/-- A file that holds a configuration of some entries, and that the program accepts. -/
structure IsFile (platform : Platform) (files : Files) (name : String)
    (entries : List (String × Json)) : Prop where
  isConf : Path.isConf name = true
  allowed : inputExtensions.allow name = true
  content : ∃ text, files name = .file text true ∧ platform.readRelaxed text = .ok (.obj entries)

theorem settles_readFile {name text : String} {readable : Bool}
    (h : files name = .file text readable) : Settles (readFile files name) given text given := by
  unfold readFile
  rw [h]
  exact settles_pure text

theorem settles_read {name : String} {names : Json} (hfile : IsFile platform files name entries)
    (hname : given.value .files = Arguments.textList [name]) (hgiven : given.Accepted)
    (hentries : ∀ e ∈ entries, AcceptsEntry e)
    (hnames : Json.find? Attribute.files.key entries = some names)
    (hfiles : Attribute.files.check files false names = .ok ()) :
    Settles (Conf.read platform files) given ()
      { (given.merged entries).set .files names with
        confFile := some (Path.ofText name).text } := by
  obtain ⟨text, htext, hparse⟩ := hfile.content
  have happlied : Settles (applyText platform files (Path.ofText name).text text) given ()
      ((given.merged entries).set .files names) := by
    unfold applyText
    rw [hparse]
    exact (settles_apply hgiven hentries hnames hfiles).tryCatch _
  have hfirst : given.value .files = .arr [.str name] := hname
  refine (settles_valueOf .files).bind ?_
  rw [hfirst]
  dsimp only
  rw [hfile.isConf]
  let withConfFile (s : Settings) : Settings := { s with confFile := some (Path.ofText name).text }
  exact (settles_readFile htext).bind (happlied.bind
    ((settles_modify withConfFile).bind (settles_say _ _)))

end Conf

namespace Shell

open SessionM

/-- A file that can be read and has the extension of a layout. -/
structure IsLayoutFile (files : Files) (name : String) : Prop where
  json : (Extensions.one Path.jsonExtension).allow name = true
  content : ∃ text, files name = .file text true

theorem check_files {names : List String} (fromArguments : Bool)
    (h : ∀ name ∈ names, inputExtensions.allow name = true ∧ ∃ text, files name = .file text true) :
    Attribute.files.check files fromArguments (Arguments.textList names) = .ok () := by
  refine forM_eq_ok ?_
  intro v hv
  obtain ⟨name, hname, rfl⟩ := List.mem_map.1 hv
  obtain ⟨hallowed, text, htext⟩ := h name hname
  have hreadable : checkReadable files inputExtensions (.str name) = .ok () := by
    rw [checkReadable_str, htext]
    exact if_pos hallowed
  unfold Attribute.checkOne Attribute.checkValue
  rw [hreadable]

theorem check_layouts {old updated : String} (fromArguments : Bool) (hold : IsLayoutFile files old)
    (hupdated : IsLayoutFile files updated) : Attribute.files.check files fromArguments
      (Arguments.textList [old, updated]) = .ok () :=
  check_files fromArguments (List.forall_mem_cons.2
    ⟨⟨inputExtensions_of_json hold.json, hold.content⟩,
      List.forall_mem_singleton.2 ⟨inputExtensions_of_json hupdated.json, hupdated.content⟩⟩)

variable {given : Settings} {entries : List (String × Json)} {conf old updated : String}

/-- Takes the two layouts to compare from the settings. -/
def layoutNames : SessionM (String × String) := do
  match ← valueOf .files with
  | .arr [.str old, .str updated] =>
    if Path.isConf old || Path.isConf updated then throw (.input .notTwoLayouts)
    return (old, updated)
  | _ => throw (.input .notTwoLayouts)

theorem chooseFiles_eq : chooseFiles platform files = (do
    if let .arr (.str first :: others) := ← valueOf .files then
      if Path.isConf first then
        if !others.isEmpty then throw (.input .confNotAlone)
        Conf.read platform files
    layoutNames) := rfl

theorem outcome_layoutNames {s : Session}
    (hnames : s.settings.value .files = Arguments.textList [old, updated])
    (hold : IsLayoutFile files old) (hupdated : IsLayoutFile files updated) :
    outcome layoutNames s = (.ok (old, updated), s) := by
  have hlayouts : s.settings.value .files = .arr [.str old, .str updated] := hnames
  unfold layoutNames
  rw [outcome_bind_of_ok _ (outcome_valueOf .files s), hlayouts]
  dsimp only
  rw [isConf_of_json hold.json, isConf_of_json hupdated.json]
  rfl

theorem settles_layoutNames (hnames : given.value .files = Arguments.textList [old, updated])
    (hold : IsLayoutFile files old) (hupdated : IsLayoutFile files updated) :
    Settles layoutNames given (old, updated) given := by
  refine settles_of_outcome fun s hs => ?_
  subst hs
  exact outcome_layoutNames hnames hold hupdated

/-- Two layouts that are named are the ones to compare. -/
theorem outcome_chooseFiles {s : Session}
    (hnames : s.settings.value .files = Arguments.textList [old, updated])
    (hold : IsLayoutFile files old) (hupdated : IsLayoutFile files updated) :
    outcome (chooseFiles platform files) s = (.ok (old, updated), s) := by
  have hlayouts : s.settings.value .files = .arr [.str old, .str updated] := hnames
  rw [chooseFiles_eq, outcome_bind_of_ok _ (outcome_valueOf .files s), hlayouts]
  dsimp only
  rw [isConf_of_json hold.json]
  exact outcome_layoutNames hnames hold hupdated

/-- The layouts that a configuration names are the ones to compare. -/
theorem settles_chooseFiles (hfile : Conf.IsFile platform files conf entries)
    (hconf : given.value .files = Arguments.textList [conf]) (hgiven : given.Accepted)
    (hentries : ∀ e ∈ entries, Conf.AcceptsEntry e)
    (hnames : Json.find? Attribute.files.key entries = some (Arguments.textList [old, updated]))
    (hold : IsLayoutFile files old) (hupdated : IsLayoutFile files updated) :
    Settles (chooseFiles platform files) given (old, updated)
      { (given.merged entries).set .files (Arguments.textList [old, updated]) with
        confFile := some (Path.ofText conf).text } := by
  have hfirst : given.value .files = .arr [.str conf] := hconf
  have hread := Conf.settles_read hfile hconf hgiven hentries hnames
    (check_layouts false hold hupdated)
  rw [chooseFiles_eq]
  refine (settles_valueOf .files).bind ?_
  rw [hfirst]
  dsimp only
  rw [hfile.isConf]
  exact hread.bind (settles_layoutNames rfl hold hupdated)

end Shell
end StorageUpgrade
