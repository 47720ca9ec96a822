import StorageUpgrade.Proofs.Json.Demands
import StorageUpgrade.Proofs.Shell.Agreement

/-!
# What a configuration must have to be read

Reading a configuration asks for a few things, one after the other: that each key names an
attribute, that two values which differ can be shown in a note, that the files are named, and that
the values of the settings that result are accepted.  `Conf.demands` lists them in their order.  A
configuration is read if it meets all of them, and otherwise the first demand that is not met is
the error.  That is a problem of the user's input, unless it `Escapes`: values are asked for what
only texts have, and a number may have too many digits to be shown (`read_cases`).

## Strategy

* `Serves x given demands result`: where the settings are `given`, the steps `x` fail at the first
  of the demands that is not met, and otherwise leave the settings `result`.  This goes through the
  entries one by one (`serves_entries`).
* Notes are made of values of the configuration and of those of the command line, which are always
  fit to be shown (`joined_of_isGiven`).
-/

namespace StorageUpgrade

/-! ### Values of the command line -/

/-- A value that the command line gives an attribute. -/
def Json.IsGiven (v : Json) : Prop :=
  v = .null ∨ (∃ b, v = .bool b) ∨ ∃ texts, v = Arguments.textList texts

/-- Settings whose values can come from the command line. -/
def Settings.Given (s : Settings) : Prop := ∀ a, (s.value a).IsGiven

theorem Settings.given_initial : Settings.initial.Given := fun a => by
  unfold initial
  dsimp only
  split
  · exact .inr (.inl ⟨false, rfl⟩)
  · exact .inl rfl

theorem Settings.Given.set {s : Settings} (hs : s.Given) (a : Attribute) {v : Json}
    (hv : v.IsGiven) : (s.set a v).Given := fun b => by
  rw [value_set]
  split
  · exact hv
  · exact hs b

namespace Arguments

theorem isGiven_textList (texts : List String) : (textList texts).IsGiven := .inr (.inr ⟨_, rfl⟩)

theorem given_takeRun (p : Progress) (hp : p.settings.Given) (run : List Token) :
    (p.takeRun run).settings.Given := by
  unfold Progress.takeRun
  dsimp only
  split
  · exact hp
  · split <;> exact hp

theorem given_readFlag {p p' : Progress} {token : Token} {run : List Token}
    (hp : p.settings.Given) (h : readFlag p token run = .ok (.run p')) : p'.settings.Given := by
  unfold readFlag at h
  split at h
  · cases h
  · cases h
  · obtain ⟨_, -, h⟩ := exists_of_bind_ok h
    cases h
  · split at h
    · cases h
      exact given_takeRun _ (hp.set _ (isGiven_textList _)) _
    · split at h
      · cases h
      · cases h
        exact given_takeRun _ (hp.set _ (isGiven_textList _)) _
    · cases h
    · cases h
      exact given_takeRun _ (hp.set _ (.inr (.inl ⟨true, rfl⟩))) _
  · cases h
    refine given_takeRun _ ?_ _
    exact hp
  · cases h
    exact given_takeRun _ hp _
  · cases h
    exact given_takeRun _ hp _

theorem given_readFlags {p p' : Progress} {rest : List (Token × List Token)}
    (hp : p.settings.Given) (h : readFlags p rest = .ok (.run p')) : p'.settings.Given := by
  induction rest generalizing p with
  | nil =>
      cases h
      exact hp
  | cons entry rest ih =>
      obtain ⟨token, run⟩ := entry
      obtain ⟨request, hflag, h⟩ := exists_of_bind_ok h
      cases request with
      | help => cases h
      | run q => exact ih (given_readFlag hp hflag) h

/-- The settings of the command line hold switches and lists of texts only. -/
theorem given_of_read {args : List String} {given : Settings}
    (h : read args = .ok (.run given)) : given.Given := by
  unfold read at h
  dsimp only at h
  obtain ⟨request, hflags, h⟩ := exists_of_bind_ok h
  cases request with
  | help => cases h
  | run p =>
      have hp : p.settings.Given :=
        given_readFlags (given_takeRun _ Settings.given_initial _) hflags
      dsimp only at h
      split at h
      · cases h
        exact hp.set .files (isGiven_textList _)
      · cases h

end Arguments

namespace Conf

open SessionM Shell

variable {platform : Platform} {files : Files} {given : Settings} {entries : List (String × Json)}

/-- A value of the command line can be shown in a note. -/
theorem joined_of_isGiven {v : Json} (h : v.IsGiven) : ∃ text, joined v = .ok text := by
  rcases h with rfl | ⟨b, rfl⟩ | ⟨texts, rfl⟩
  · exact ⟨_, rfl⟩
  · exact ⟨_, rfl⟩
  · unfold joined Arguments.textList
    refine exists_bind_ok ((exists_mapM_of_forall fun v hv => ?_).imp fun _ h => h.1)
      fun _ => ⟨_, rfl⟩
    obtain ⟨text, -, rfl⟩ := List.mem_map.1 hv
    exact ⟨_, rfl⟩

/-! ### Demands -/

/-- What a configuration is asked for while it is read. -/
inductive Demand where
  /-- A key names an attribute. -/
  | known (key : String)
  /-- A value can be shown in a note. -/
  | shown (v : Json)
  /-- The entries name the files. -/
  | named (entries : List (String × Json))
  /-- An attribute accepts a value. -/
  | accepted (a : Attribute) (v : Json)

/-- What is wrong when a demand is not met. -/
def Demand.problem? (files : Files) : Demand → Option Error
  | known key => if (Attribute.ofKey? key).isSome then none else some (.input (.confUnknown key))
  | shown v => (errorOf (joined v)).map .misuse
  | named entries =>
    if (Json.find? Attribute.files.key entries).isSome then none
    else some (.input .confWithoutFiles)
  | accepted a v => errorOf (a.checkOne files false v)

theorem problem?_shown (v : Json) :
    (Demand.shown v).problem? files = (errorOf (joined v)).map .misuse := rfl

/-- What is asked for when an attribute has a value and the configuration gives another one: a note
on both. -/
def noteDemands (given v : Json) : List Demand :=
  if Attribute.isUnset given || given.alike v then [] else [.shown given, .shown v]

/-- What an entry is asked for. -/
def entryDemands (s : Settings) (entry : String × Json) : List Demand :=
  .known entry.1 :: match Attribute.ofKey? entry.1 with
    | none | some .files => []
    | some a => noteDemands (s.value a) entry.2

/-- What the entries are asked for, one after the other. -/
def entriesDemands : Settings → List (String × Json) → List Demand
  | _, [] => []
  | s, entry :: entries => entryDemands s entry ++ entriesDemands (s.mergeEntry entry) entries

/-- What is asked for when settings are checked. -/
def checkDemands (s : Settings) : List Demand :=
  Attribute.all.flatMap fun a =>
    if Attribute.isUnset (s.value a) then [] else (a.values (s.value a)).flatMap fun v =>
      [.accepted a v]

/-- What the entries of a configuration are asked for when they are merged with some settings. -/
def demands (given : Settings) (entries : List (String × Json)) : List Demand :=
  entriesDemands given entries ++ .named entries ::
    (Json.find? Attribute.files.key entries).toList.flatMap fun names =>
      checkDemands ((given.merged entries).set .files names)

/-- Some steps of a run fail at the first demand that is not met, and leave the settings `result` if
there is none, where the settings are `given` at first. -/
def Serves (files : Files) (x : SessionM Unit) (given : Settings) (demands : List Demand)
    (result : Settings) : Prop :=
  ∀ ⦃s : Session⦄, s.settings = given →
    FailsAtFirst (Demand.problem? files) (outcome x s).1 demands ∧
      ((outcome x s).1 = .ok () → (outcome x s).2.settings = result)

theorem serves_pure : Serves files (pure ()) given [] given := fun _ hs => ⟨.pure (), fun _ => hs⟩

theorem Serves.bind {x y : SessionM Unit} {ds es : List Demand} {between result : Settings}
    (hx : Serves files x given ds between) (hy : Serves files y between es result) :
    Serves files (x >>= fun _ => y) given (ds ++ es) result := by
  intro s hs
  obtain ⟨hfails, hresult⟩ := hx hs
  unfold FailsAtFirst at hfails ⊢
  rw [outcome_bind, List.findSome?_append, ← hfails]
  cases houtcome : outcome x s with
  | mk r t =>
      cases r with
      | error e => exact ⟨rfl, nofun⟩
      | ok u =>
          rw [houtcome] at hresult
          exact hy (hresult rfl)

/-- A note on two values that differ asks that both can be shown. -/
theorem serves_note (key : String) (v w : Json) :
    Serves files (do
      let text ← (Json.Misuse.lift (joined v) : Except Error _)
      let text' ← (Json.Misuse.lift (joined w) : Except Error _)
      say "config" Log.warning (overrideNote key text text')) given [.shown v, .shown w] given := by
  intro s hs
  unfold FailsAtFirst
  rw [List.findSome?_cons, List.findSome?_singleton, problem?_shown, problem?_shown, outcome_bind,
    outcome_lift]
  cases joined v with
  | error m => exact ⟨rfl, nofun⟩
  | ok text =>
      dsimp only [Json.Misuse.lift]
      rw [outcome_bind, outcome_lift]
      cases joined w with
      | error m => exact ⟨rfl, nofun⟩
      | ok text' => exact ⟨rfl, fun _ => hs⟩

theorem serves_applyValue (a : Attribute) (v : Json) :
    Serves files (applyValue a v) given (noteDemands (given.value a) v) (given.merge a v) := by
  intro s hs
  unfold applyValue noteDemands Settings.merge
  rw [outcome_bind_of_ok _ (outcome_valueOf a s), hs]
  cases Attribute.isUnset (given.value a) with
  | true =>
      refine ⟨.pure (), fun _ => ?_⟩
      rw [← hs]
      rfl
  | false =>
      cases (given.value a).alike v with
      | true => exact ⟨.pure (), fun _ => hs⟩
      | false => exact serves_note a.key (given.value a) v hs

theorem serves_applyEntry (entry : String × Json) :
    Serves files (applyEntry entry.1 entry.2) given (entryDemands given entry)
      (given.mergeEntry entry) := by
  intro s hs
  unfold applyEntry entryDemands Settings.mergeEntry
  cases hkey : Attribute.ofKey? entry.1 with
  | none =>
      have hunknown : (Demand.known entry.1).problem? files =
          some (.input (.confUnknown entry.1)) := by
        rw [Demand.problem?, hkey]
        rfl
      exact ⟨.single hunknown, nofun⟩
  | some a =>
      have hknown : (Demand.known entry.1).problem? files = none := by
        rw [Demand.problem?, hkey]
        rfl
      rw [FailsAtFirst, List.findSome?_cons, hknown]
      cases a with
      | files => exact ⟨rfl, fun _ => hs⟩
      | _ => exact serves_applyValue _ _ hs

theorem serves_entries (entries : List (String × Json)) (given : Settings) :
    Serves files (entries.forM fun (key, v) => applyEntry key v) given
      (entriesDemands given entries) (given.merged entries) := by
  induction entries generalizing given with
  | nil => exact serves_pure
  | cons entry entries ih => exact (serves_applyEntry entry).bind (ih (given.mergeEntry entry))

/-- Checking settings asks that all values which are set are accepted. -/
theorem failsAtFirst_check (s : Settings) :
    FailsAtFirst (Demand.problem? files) (s.check files false) (checkDemands s) := by
  refine .forM fun a _ => ?_
  split
  · exact .pure ()
  · exact .forM fun v _ => .single rfl

/-- The files that the entries name are set, and then all settings are checked. -/
theorem serves_apply : Serves files (apply files (.obj entries)) given (demands given entries)
    ((given.merged entries).set .files ((Json.find? Attribute.files.key entries).getD .null)) := by
  refine (serves_entries entries given).bind ?_
  intro s hs
  rw [FailsAtFirst, List.findSome?_cons]
  cases hnames : Json.find? Attribute.files.key entries with
  | none =>
      have hmissing : (Demand.named entries).problem? files = some (.input .confWithoutFiles) := by
        rw [Demand.problem?, hnames]
        rfl
      rw [hmissing]
      exact ⟨rfl, fun hok => by cases hok⟩
  | some names =>
      have hnamed : (Demand.named entries).problem? files = none := by
        rw [Demand.problem?, hnames]
        rfl
      rw [hnamed, Option.toList_some, List.flatMap_singleton]
      have hset : outcome (SessionM.set .files names) s =
          (.ok (), { s with settings := (given.merged entries).set .files names }) := by
        rw [← hs]
        rfl
      dsimp only
      rw [outcome_bind_of_ok _ hset, outcome_bind_of_ok _ (outcome_settings _), outcome_lift]
      exact ⟨failsAtFirst_check _, fun _ => rfl⟩

/-! ### Errors that are passed on -/

/-- Whether a value is a text. -/
def isText : Json → Bool
  | .str _ | .rawText _ => true
  | _ => false

theorem isSome_fileName? (v : Json) : (fileName? v).isSome = isText v := by
  cases v <;> rfl

/-- A demand that is not met and whose error is no problem of the user's input: values are asked for
what only texts have, it may not be possible to find out what a name leads to, and a number may be
too long to be shown. -/
inductive Escapes (files : Files) (entries : List (String × Json)) : Demand → Error → Prop
  /-- A note is made of a list with an item that is no text. -/
  | listNote {key : String} {vs : List Json} (hentry : (key, .arr vs) ∈ entries)
      (htext : ∃ v ∈ vs, isText v = false) :
      Escapes files entries (.shown (.arr vs)) (.misuse .wrongKind)
  /-- A note is made of a value with a number that is too long. -/
  | numberNote {key : String} {v : Json} (hentry : (key, v) ∈ entries)
      (hlong : v.holdsTooLong = true) : Escapes files entries (.shown v) (.misuse (.badForm v))
  /-- The name of a file is no text. -/
  | fileNoText {v : Json} (htext : isText v = false) :
      Escapes files entries (.accepted .files v) (.misuse .wrongKind)
  /-- What the name of a file leads to cannot be found out: it is too long, or a directory on the way
  may not be searched, for example. -/
  | fileUnreachable {v : Json} {name : String} {problem : FileProblem}
      (hname : fileName? v = some name) (hfile : files name = .unreachable problem) :
      Escapes files entries (.accepted .files v) (.file problem)
  /-- The name of a topic is no text. -/
  | topicNoText {v : Json} (htext : isText v = false) :
      Escapes files entries (.accepted .debugTopics v) (.misuse .notObject)
  /-- A value that is no truth value holds a number that is too long to say so. -/
  | switchNumber {a : Attribute} {v : Json} (ha : a ∈ Attribute.checks)
      (hlong : v.holdsTooLong = true) :
      Escapes files entries (.accepted a v) (.misuse (.badForm v))

/-- An error of a value that is no problem of the user's input is that of the value alone. -/
theorem checkValue_of_checkOne {a : Attribute} {v : Json} {e : Error}
    (h : errorOf (a.checkOne files false v) = some e) (hinput : ∀ p, e ≠ .input p) :
    a.checkValue files v = .error e := by
  have hplain : Attribute.singleDash? false v = .ok none := by cases v <;> rfl
  unfold Attribute.checkOne at h
  rw [hplain] at h
  split at h
  · cases h
    exact absurd rfl (hinput _)
  · cases hvalue : a.checkValue files v with
    | ok u =>
        rw [hvalue] at h
        cases h
    | error e' =>
        rw [hvalue] at h
        cases h
        rfl

/-- What is found under a name is a problem of the user's input, unless it is not found out. -/
theorem eq_unreachable_of_checkTarget {extensions : Extensions} {name : String} {target : Target}
    {e : Error} (h : checkTarget extensions name target = .error e) (hinput : ∀ p, e ≠ .input p) :
    ∃ problem, target = .unreachable problem ∧ e = .file problem := by
  cases target with
  | unreachable problem => exact ⟨problem, rfl, (Except.error.inj h).symm⟩
  | file content readable =>
      cases readable with
      | false => exact absurd (Except.error.inj h).symm (hinput _)
      | true =>
          rw [checkTarget] at h
          split at h
          · cases h
          · exact absurd (Except.error.inj h).symm (hinput _)
  | _ => exact absurd (Except.error.inj h).symm (hinput _)

theorem escapes_checkReadable {v : Json} {e : Error}
    (h : checkReadable files inputExtensions v = .error e) (hinput : ∀ p, e ≠ .input p) :
    Escapes files entries (.accepted .files v) e := by
  unfold checkReadable at h
  cases hname : fileName? v with
  | some name =>
      rw [hname] at h
      obtain ⟨problem, hfile, rfl⟩ := eq_unreachable_of_checkTarget h hinput
      exact .fileUnreachable hname hfile
  | none =>
      rw [hname] at h
      cases h
      exact .fileNoText (by rw [← isSome_fileName?, hname]; rfl)

theorem escapes_checkTopic {v : Json} {e : Error} (h : checkTopic v = .error e)
    (hinput : ∀ p, e ≠ .input p) : Escapes files entries (.accepted .debugTopics v) e := by
  cases v with
  | str topic =>
      rw [checkTopic] at h
      split at h
      · cases h
      · cases h
        exact absurd rfl (hinput _)
  | rawText points =>
      cases h
      exact absurd rfl (hinput _)
  | _ =>
      cases h
      exact .topicNoText rfl

theorem escapes_checkBool {a : Attribute} {v : Json} {e : Error} (ha : a ∈ Attribute.checks)
    (h : checkBool v = .error e) (hinput : ∀ p, e ≠ .input p) :
    Escapes files entries (.accepted a v) e := by
  have hlong : v.holdsTooLong = true ∧ e = .misuse (.badForm v) := by
    unfold checkBool at h
    split at h
    · cases h
    · split at h
      · exact ⟨‹_›, (Except.error.inj h).symm⟩
      · exact absurd (Except.error.inj h).symm (hinput _)
  obtain ⟨hlong, rfl⟩ := hlong
  exact .switchNumber ha hlong

theorem escapes_accepted {a : Attribute} {v : Json} {e : Error}
    (h : (Demand.accepted a v).problem? files = some e) (hinput : ∀ p, e ≠ .input p) :
    Escapes files entries (.accepted a v) e := by
  have hvalue := checkValue_of_checkOne h hinput
  cases a with
  | files => exact escapes_checkReadable hvalue hinput
  | debugTopics => exact escapes_checkTopic hvalue hinput
  | debug | showDebugTopics => cases hvalue
  | _ => exact escapes_checkBool (by decide) hvalue hinput

/-- Only lists of texts, and values without a number that is too long, can be shown. -/
theorem escapes_joined {key : String} {v : Json} {m : Json.Misuse} (hentry : (key, v) ∈ entries)
    (h : joined v = .error m) : Escapes files entries (.shown v) (.misuse m) := by
  have hother (hlong : (if v.holdsTooLong then Except.error (Json.Misuse.badForm v)
      else .ok v.display) = .error m) : Escapes files entries (.shown v) (.misuse m) := by
    split at hlong
    · cases hlong
      exact .numberNote hentry ‹_›
    · cases hlong
  cases v with
  | arr vs =>
      have hitems : FailsAtFirst (fun w => if isText w then none else some Json.Misuse.wrongKind)
          (joined (.arr vs)) (vs.flatMap fun w => [w]) :=
        (FailsAtFirst.mapM fun w _ => .single (by cases w <;> rfl)).bind_ok fun _ => ⟨_, rfl⟩
      -- Joining the items fails at the first one that is no text, and that is one of the items.
      rcases hitems.cases with ⟨text, hok, -⟩ | ⟨w, m', herror, front, back, hvs, -, hw⟩
      · rw [h] at hok
        cases hok
      · rw [h] at herror
        cases herror
        have hmem : w ∈ vs := by
          rw [List.flatMap_singleton'] at hvs
          rw [hvs]
          exact List.mem_append_right _ List.mem_cons_self
        cases htext : isText w with
        | true => simp [htext] at hw
        | false =>
            obtain rfl : .wrongKind = m := by simpa [htext] using hw
            exact .listNote hentry ⟨w, hmem, htext⟩
  | _ => exact hother h

theorem escapes_shown {key : String} {v : Json} {e : Error} (hentry : (key, v) ∈ entries)
    (h : (Demand.shown v).problem? files = some e) : Escapes files entries (.shown v) e := by
  rw [problem?_shown] at h
  obtain ⟨m, hm, rfl⟩ := Option.map_eq_some_iff.1 h
  cases hjoined : joined v with
  | ok text =>
      rw [hjoined] at hm
      cases hm
  | error m' =>
      rw [hjoined] at hm
      cases hm
      exact escapes_joined hentry hjoined

theorem value_mergeEntry (given : Settings) (entry : String × Json) (a : Attribute) :
    (given.mergeEntry entry).value a = given.value a ∨
      (given.mergeEntry entry).value a = entry.2 := by
  have hmerge (b : Attribute) : (given.merge b entry.2).value a = given.value a ∨
      (given.merge b entry.2).value a = entry.2 := by
    unfold Settings.merge
    split
    · rw [Settings.value_set]
      split
      · exact .inr rfl
      · exact .inl rfl
    · exact .inl rfl
  unfold Settings.mergeEntry
  split
  · exact .inl rfl
  · exact .inl rfl
  · exact hmerge _

/-- A note shows values of the configuration or of the command line. -/
theorem of_mem_entriesDemands {v : Json} (h : .shown v ∈ entriesDemands given entries) :
    (∃ a, v = given.value a) ∨ ∃ key, (key, v) ∈ entries := by
  induction entries generalizing given with
  | nil => cases h
  | cons entry entries ih =>
      rcases List.mem_append.1 h with hfirst | hrest
      · have hnote (a : Attribute) (hmem : .shown v ∈ noteDemands (given.value a) entry.2) :
            v = given.value a ∨ v = entry.2 := by
          unfold noteDemands at hmem
          split at hmem
          · cases hmem
          · simpa using hmem
        unfold entryDemands at hfirst
        rcases List.mem_cons.1 hfirst with hknown | hnotes
        · cases hknown
        · split at hnotes
          · cases hnotes
          · cases hnotes
          · rcases hnote _ hnotes with rfl | rfl
            · exact .inl ⟨_, rfl⟩
            · exact .inr ⟨entry.1, List.mem_cons_self⟩
      -- A value that is set by then is one of the first settings or that of an earlier entry.
      · rcases ih hrest with ⟨a, rfl⟩ | ⟨key, hkey⟩
        · rcases value_mergeEntry given entry a with hgiven | hentry
          · exact .inl ⟨a, hgiven⟩
          · exact .inr ⟨entry.1, hentry ▸ List.mem_cons_self⟩
        · exact .inr ⟨key, List.mem_cons_of_mem _ hkey⟩

theorem shown_not_mem_checkDemands (s : Settings) (v : Json) : .shown v ∉ checkDemands s := by
  intro h
  obtain ⟨a, -, ha⟩ := List.mem_flatMap.1 h
  split at ha
  · cases ha
  · obtain ⟨w, -, hw⟩ := List.mem_flatMap.1 ha
    cases List.mem_singleton.1 hw

/-- An error that is no problem of the user's input escapes. -/
theorem escapes_of_firstUnmet {d : Demand} {e : Error} (hgiven : given.Given)
    (hfirst : FirstUnmet (Demand.problem? files) (demands given entries) d e)
    (hinput : ∀ p, e ≠ .input p) : Escapes files entries d e := by
  obtain ⟨front, back, hdemands, -, hd⟩ := hfirst
  have hmem : d ∈ demands given entries := by
    rw [hdemands]
    exact List.mem_append_right _ List.mem_cons_self
  cases d with
  | known key | named names =>
      rw [Demand.problem?] at hd
      split at hd
      · cases hd
      · cases hd
        exact absurd rfl (hinput _)
  | accepted a v => exact escapes_accepted hd hinput
  | shown v =>
      rcases List.mem_append.1 hmem with hentries | hrest
      · rcases of_mem_entriesDemands hentries with ⟨a, rfl⟩ | ⟨key, hkey⟩
        -- A value of the command line is always fit to be shown, so this demand is met.
        · obtain ⟨text, htext⟩ := joined_of_isGiven (hgiven a)
          rw [problem?_shown, htext] at hd
          cases hd
        · exact escapes_shown hkey hd
      · rcases List.mem_cons.1 hrest with hnamed | hchecked
        · cases hnamed
        · obtain ⟨names, -, hshown⟩ := List.mem_flatMap.1 hchecked
          exact absurd hshown (shown_not_mem_checkDemands _ v)

/-! ### Reading a configuration -/

/-- What reading a configuration comes to. -/
inductive ReadsAs (files : Files) (given : Settings) (path : String) :
    Json → Except Error Unit → Prop
  /-- The configuration is no object. -/
  | noObject {conf : Json} (hconf : ∀ entries, conf ≠ .obj entries) :
      ReadsAs files given path conf (.error (.input (.conf path .confNotObject)))
  /-- All demands are met. -/
  | read {entries : List (String × Json)}
      (hmet : ∀ d ∈ demands given entries, d.problem? files = none) :
      ReadsAs files given path (.obj entries) (.ok ())
  /-- The first demand that is not met is a problem of the user's input. -/
  | explained {entries : List (String × Json)} {d : Demand} {problem : InputProblem}
      (hfirst : FirstUnmet (Demand.problem? files) (demands given entries) d (.input problem)) :
      ReadsAs files given path (.obj entries) (.error (.input (.conf path problem)))
  /-- The error of the first demand that is not met escapes. -/
  | passedOn {entries : List (String × Json)} {d : Demand} {e : Error}
      (hfirst : FirstUnmet (Demand.problem? files) (demands given entries) d e)
      (hescapes : Escapes files entries d e) : ReadsAs files given path (.obj entries) (.error e)

theorem readsAs_applyText {path text : String} {conf : Json} {s : Session} (hgiven : given.Given)
    (hparse : platform.readRelaxed text = .ok conf) (hs : s.settings = given) :
    ReadsAs files given path conf (outcome (applyText platform files path text) s).1 := by
  unfold applyText
  rw [hparse]
  dsimp only
  cases conf with
  | obj entries =>
      rcases (serves_apply hs).1.cases with ⟨u, hok, hmet⟩ | ⟨d, e, herror, hfirst⟩
      · rw [outcome_tryCatch_of_ok _ (Prod.ext hok rfl)]
        exact .read hmet
      · rw [outcome_tryCatch_of_error _ (Prod.ext herror rfl)]
        cases e with
        | input problem => exact .explained hfirst
        | _ => exact .passedOn hfirst (escapes_of_firstUnmet hgiven hfirst nofun)
  | _ => exact .noObject nofun

/-- A configuration that can be opened is read from its text. -/
theorem result_read {name text : String} {others : List String} {readable : Bool} {s : Session}
    (hfiles : s.settings.value .files = Arguments.textList (name :: others))
    (hconf : Path.isConf name = true) (hfile : files name = .file text readable) :
    (outcome (Conf.read platform files) s).1 =
      (outcome (applyText platform files (Path.ofText name).text text) s).1 := by
  have hfirst : s.settings.value .files = .arr (.str name :: others.map .str) := hfiles
  have htext : outcome (readFile files name) s = (.ok text, s) := by
    unfold readFile
    rw [hfile]
    rfl
  unfold Conf.read
  rw [outcome_bind_of_ok _ (outcome_valueOf .files s), hfirst]
  dsimp only
  rw [hconf]
  simp only [Bool.not_true, Bool.false_eq_true, if_false]
  rw [outcome_bind_of_ok _ htext, outcome_bind]
  rcases outcome (applyText platform files (Path.ofText name).text text) s with ⟨_ | _, t⟩ <;> rfl

/-- A configuration is read, or it is a problem of the user's input that it is not, unless an error
escapes: whatever it holds, whatever the command line gives, and whatever the run has come to. -/
theorem read_cases {args : List String} {name text : String} {others : List String}
    {readable : Bool} {conf : Json} {s : Session} (hread : Arguments.read args = .ok (.run given))
    (hfiles : given.value .files = Arguments.textList (name :: others))
    (hconf : Path.isConf name = true) (hfile : files name = .file text readable)
    (hparse : platform.readRelaxed text = .ok conf) (hs : s.settings = given) :
    ReadsAs files given (Path.ofText name).text conf (outcome (Conf.read platform files) s).1 := by
  rw [result_read (hs ▸ hfiles) hconf hfile]
  exact readsAs_applyText (Arguments.given_of_read hread) hparse hs

/-! ### A topic that is a number -/

/-- A configuration that names a topic by a number. -/
def numberTopicConf : String :=
  "\x7b\"files\": [\"a.json\", \"b.json\"], \"debug_topics\": [1]\x7d"

/-- The entries of `numberTopicConf`. -/
def numberTopicEntries : List (String × Json) :=
  [("files", Arguments.textList ["a.json", "b.json"]), ("debug_topics", .arr [.int 1])]

theorem parse_numberTopicConf :
    Platform.standard.readRelaxed numberTopicConf = .ok (.obj numberTopicEntries) := by
  decide +kernel

theorem read_xConf : Arguments.read ["x.conf"] = .ok (.run (.asking ["x.conf"] [])) :=
  Arguments.read_of_asks (.between [] [] (by decide)) (by decide) nofun

theorem result_numberTopicConf :
    (outcome (Conf.read .standard (emptyLayouts numberTopicConf))
      { settings := .asking ["x.conf"] [] }).1 = .error (.misuse .notObject) := by
  rw [@result_read _ _ "x.conf" numberTopicConf [] true _ rfl rfl rfl]
  unfold applyText
  rw [parse_numberTopicConf]
  rfl

/-- The number is asked for what only texts have. -/
theorem read_cases_numberTopicConf :
    ReadsAs (emptyLayouts numberTopicConf) (.asking ["x.conf"] []) "x.conf"
      (.obj numberTopicEntries) (.error (.misuse .notObject)) := by
  rw [← result_numberTopicConf]
  exact read_cases read_xConf rfl rfl rfl parse_numberTopicConf rfl

/-- That a topic is a number is no problem of the user's input. -/
theorem not_explained_numberTopicConf :
    ¬ ∀ (platform : Platform) (files : Files) (args : List String) (given : Settings)
      (name text : String) (others : List String) (readable : Bool) (conf : Json) (s : Session),
      Arguments.read args = .ok (.run given) →
        given.value .files = Arguments.textList (name :: others) → Path.isConf name = true →
          files name = .file text readable → platform.readRelaxed text = .ok conf →
            s.settings = given →
              (outcome (Conf.read platform files) s).1 = .ok () ∨
                ∃ p, (outcome (Conf.read platform files) s).1 = .error (.input p) := by
  intro hclaim
  rcases hclaim .standard (emptyLayouts numberTopicConf) ["x.conf"] (.asking ["x.conf"] [])
    "x.conf" numberTopicConf [] true (.obj numberTopicEntries)
    { settings := .asking ["x.conf"] [] }
    read_xConf rfl rfl rfl parse_numberTopicConf rfl with hok | ⟨p, hp⟩
  · rw [result_numberTopicConf] at hok
    cases hok
  · rw [result_numberTopicConf] at hp
    cases hp

end Conf

end StorageUpgrade
