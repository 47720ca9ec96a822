import StorageUpgrade.Proofs.Json.Reading
import StorageUpgrade.Shell.Arguments
import StorageUpgrade.Shell.Conf

/-!
# Settings merged with a configuration

A configuration adds its values to the settings of the command line: a value that was not given is
taken over, and any other one is kept (`merged`).  So a switch is on if it was given or if the
configuration has it on, wherever the entry stands (`isOn_merged`).

Values that an attribute accepts can be shown in a note, and pass the check again; merging keeps
settings of accepted values (`Accepted.merged`).
-/

namespace StorageUpgrade

/-! ### Accepted values -/

/-- A value that an attribute accepts besides the files: a switch is on, off or not given, and
topics are known. -/
def Attribute.Accepts (a : Attribute) (v : Json) : Prop :=
  match a with
  | .files => False
  | .debugTopics => v = .null ∨ ∃ topics : List String, v = Arguments.textList topics ∧
      ∀ topic ∈ topics, Log.topics.contains (trimText topic) = true
  | .debug | .noColor | .showDebugTopics | .summary | .allowCustomTypes | .allowRenames
  | .skipCheck => v = .null ∨ ∃ b, v = .bool b

namespace Settings

/-- Settings whose values are accepted, whatever the files. -/
def Accepted (s : Settings) : Prop := ∀ a : Attribute, a ≠ .files → a.Accepts (s.value a)

/-- The settings with a value of a configuration, if no value was given. -/
def merge (s : Settings) (a : Attribute) (v : Json) : Settings :=
  if Attribute.isUnset (s.value a) then s.set a v else s

/-- The settings with an entry of a configuration; files come last. -/
def mergeEntry (s : Settings) (entry : String × Json) : Settings :=
  match Attribute.ofKey? entry.1 with
  | none | some .files => s
  | some a => s.merge a entry.2

/-- The settings with the entries of a configuration, the files excepted. -/
def merged (s : Settings) (entries : List (String × Json)) : Settings := entries.foldl mergeEntry s

end Settings

variable {a : Attribute} {v : Json} {files : Files}

theorem Attribute.check_of_accepts (h : a.Accepts v) (fromArguments : Bool) :
    Attribute.isUnset v = true ∨ a.check files fromArguments v = .ok () := by
  cases a with
  | files => exact h.elim
  | debugTopics =>
      rcases h with rfl | ⟨topics, rfl, htopics⟩
      · exact .inl rfl
      · refine .inr (forM_eq_ok ?_)
        intro w hw
        obtain ⟨topic, htopic, rfl⟩ := List.mem_map.1 hw
        have hknown : checkTopic (.str topic) = .ok () := if_pos (htopics topic htopic)
        unfold Attribute.checkOne Attribute.checkValue
        rw [hknown]
  | _ =>
      rcases h with rfl | ⟨b, rfl⟩
      · exact .inl rfl
      · exact .inr rfl

theorem Conf.joined_of_accepts (h : a.Accepts v) : ∃ text, Conf.joined v = .ok text := by
  cases a with
  | files => exact h.elim
  | debugTopics =>
      rcases h with rfl | ⟨topics, rfl, -⟩
      · exact ⟨_, rfl⟩
      · unfold Conf.joined Arguments.textList
        refine exists_bind_ok ((exists_mapM_of_forall fun w hw => ?_).imp fun _ h => h.1)
          fun _ => ⟨_, rfl⟩
        obtain ⟨topic, -, rfl⟩ := List.mem_map.1 hw
        exact ⟨_, rfl⟩
  | _ =>
      rcases h with rfl | ⟨b, rfl⟩
      · exact ⟨_, rfl⟩
      · exact ⟨_, rfl⟩

theorem Settings.check_of_accepted {s : Settings} (h : s.Accepted) {fromArguments : Bool}
    (hfiles : Attribute.files.check files fromArguments (s.value .files) = .ok ()) :
    s.check files fromArguments = .ok () := by
  refine forM_eq_ok fun a _ => ?_
  by_cases ha : a = .files
  · subst ha
    split
    · rfl
    · exact hfiles
  · rcases Attribute.check_of_accepts (h a ha) fromArguments with hunset | hcheck
    · exact if_pos hunset
    · split
      · rfl
      · exact hcheck

/-- An entry of a configuration that names the files or has a value for another attribute. -/
def Conf.AcceptsEntry (entry : String × Json) : Prop :=
  entry.1 = Attribute.files.key ∨ ∃ a : Attribute, entry.1 = a.key ∧ a.Accepts entry.2

theorem Conf.AcceptsEntry.cases {entry : String × Json} (h : AcceptsEntry entry) :
    (∃ v, entry = (Attribute.files.key, v)) ∨ ∃ (a : Attribute) (v : Json),
      entry = (a.key, v) ∧ a.Accepts v := by
  obtain ⟨key, v⟩ := entry
  rcases h with hkey | ⟨a, hkey, hv⟩
  · exact .inl ⟨v, congrArg (·, v) hkey⟩
  · exact .inr ⟨a, v, congrArg (·, v) hkey, hv⟩

theorem Attribute.key_injective {a b : Attribute} (h : a.key = b.key) : a = b := by
  have hfound := congrArg Attribute.ofKey? h
  rw [Attribute.ofKey?_key, Attribute.ofKey?_key] at hfound
  exact Option.some.inj hfound

theorem Attribute.accepts_switch_iff (ha : a.definition.kind = .switch) :
    a.Accepts v ↔ v = .null ∨ ∃ b, v = .bool b := by
  cases a with
  | files | debugTopics => cases ha
  | _ => exact Iff.rfl

theorem Attribute.Accepts.ne_files (h : a.Accepts v) : a ≠ .files := by
  rintro rfl
  exact h

/-! ### Merging -/

namespace Settings

variable {given : Settings} {entries : List (String × Json)}

theorem Accepted.set_files (hgiven : given.Accepted) (v : Json) : (given.set .files v).Accepted :=
  fun a ha => by
    rw [value_set, if_neg ha]
    exact hgiven a ha

theorem Accepted.merge (hgiven : given.Accepted) (hv : a.Accepts v) :
    (given.merge a v).Accepted := by
  unfold Settings.merge
  split
  · intro b hb
    rw [value_set]
    split
    · rename_i hba
      exact hba ▸ hv
    · exact hgiven b hb
  · exact hgiven

theorem mergeEntry_files (v : Json) : given.mergeEntry (Attribute.files.key, v) = given := by
  unfold mergeEntry
  rw [Attribute.ofKey?_key]

theorem mergeEntry_key (ha : a ≠ .files) (v : Json) :
    given.mergeEntry (a.key, v) = given.merge a v := by
  unfold mergeEntry
  rw [Attribute.ofKey?_key]
  cases a with
  | files => exact absurd rfl ha
  | _ => rfl

theorem Accepted.mergeEntry (hgiven : given.Accepted) {entry : String × Json}
    (hentry : Conf.AcceptsEntry entry) : (given.mergeEntry entry).Accepted := by
  rcases hentry.cases with ⟨v, rfl⟩ | ⟨a, v, rfl, hv⟩
  · rw [mergeEntry_files]
    exact hgiven
  · rw [mergeEntry_key hv.ne_files]
    exact hgiven.merge hv

theorem Accepted.merged (hgiven : given.Accepted)
    (hentries : ∀ e ∈ entries, Conf.AcceptsEntry e) : (given.merged entries).Accepted := by
  induction entries generalizing given with
  | nil => exact hgiven
  | cons entry entries ih =>
      obtain ⟨hentry, hentries⟩ := List.forall_mem_cons.1 hentries
      exact ih (hgiven.mergeEntry hentry) hentries

theorem isSet_of_switch (h : v = .null ∨ ∃ b, v = .bool b) :
    (v.isSet = true ↔ v = .bool true) ∧ v.isSet = !Attribute.isUnset v := by
  rcases h with rfl | ⟨b, rfl⟩
  · exact ⟨by simp [Json.isSet], rfl⟩
  · cases b with
    | true => exact ⟨by simp [Json.isSet], rfl⟩
    | false => exact ⟨by simp [Json.isSet], rfl⟩

/-- A value of a configuration switches on what was not on before if it is true. -/
theorem isOn_merge (hgiven : given.Accepted) (ha : a.definition.kind = .switch)
    {b : Attribute} (hv : b.Accepts v) :
    (given.merge b v).isOn a = true ↔ given.isOn a = true ∨ (b = a ∧ v = .bool true) := by
  unfold isOn
  by_cases hba : b = a
  · subst hba
    have hvalue := isSet_of_switch ((Attribute.accepts_switch_iff ha).1 (hgiven b hv.ne_files))
    unfold merge
    cases hunset : Attribute.isUnset (given.value b) with
    | true =>
        have hset := isSet_of_switch ((Attribute.accepts_switch_iff ha).1 hv)
        rw [if_pos rfl, value_set, if_pos rfl, hset.1, hvalue.2, hunset]
        simp
    | false =>
        rw [if_neg (by decide), hvalue.2, hunset]
        simp
  · have hother : (given.merge b v).value a = given.value a := by
      unfold merge
      split
      · rw [value_set, if_neg (Ne.symm hba)]
      · rfl
    rw [hother]
    simp [hba]

/-- A switch is on if it was given or if the configuration has it on. -/
theorem isOn_merged (hgiven : given.Accepted) (ha : a.definition.kind = .switch)
    (hentries : ∀ e ∈ entries, Conf.AcceptsEntry e) :
    (given.merged entries).isOn a = true ↔
      given.isOn a = true ∨ (a.key, Json.bool true) ∈ entries := by
  induction entries generalizing given with
  | nil => simp [merged]
  | cons entry entries ih =>
      obtain ⟨hentry, hentries⟩ := List.forall_mem_cons.1 hentries
      have hfirst : given.merged (entry :: entries) = (given.mergeEntry entry).merged entries := rfl
      rw [hfirst, ih (hgiven.mergeEntry hentry) hentries, List.mem_cons, ← or_assoc]
      refine or_congr_left ?_
      rcases hentry.cases with ⟨v, rfl⟩ | ⟨b, v, rfl, hv⟩
      · have hne : a ≠ .files := by
          rintro rfl
          cases ha
        have hkey : a.key ≠ Attribute.files.key := fun h => hne (Attribute.key_injective h)
        rw [mergeEntry_files]
        simp [hkey]
      · have hkey : (a.key, Json.bool true) = (b.key, v) ↔ b = a ∧ v = .bool true := by
          refine ⟨fun h => ?_, fun ⟨hba, hv⟩ => by rw [hba, hv]⟩
          exact ⟨(Attribute.key_injective (Prod.mk.inj h).1).symm, (Prod.mk.inj h).2.symm⟩
        rw [mergeEntry_key hv.ne_files, isOn_merge hgiven ha hv, hkey]

end Settings

end StorageUpgrade
