import MojoToolchain.Debug.Companion.Fields
import MojoToolchain.Proofs.Debug.ConfigurationFields
import MojoToolchain.Proofs.Debug.FileLaunch

/-!
# Configurations in the terms of the companion debugger

What the companion debugger is given has each key once, and is read back from what it is written
as, unless the configuration that it comes from keeps a member whose key is that of a field that
only the companion has.
-/

namespace MojoToolchain.Debug

open Json (Ascending Members Record keys lookup? sortMembers)

namespace CompanionConfiguration

/-! ### Variables -/

theorem readVariable_variableJson (v : String × String) :
  readVariable (variableJson v) = .ok v
  := rfl

@[simp]
theorem toList_readVariable (vs : List (String × String)) :
  Json.toList readVariable (.array (vs.map variableJson)) = .ok vs
  := by
  rw [Json.toList]
  induction vs with
  | nil => rfl
  | cons v rest ih =>
    rw [List.map_cons, List.mapM_cons, readVariable_variableJson, ih]
    rfl

/-! ### Drafts -/

namespace Draft

attribute [ext] Draft

/-- Each field takes back what it holds, and does not touch the members that are not known. -/
theorem holds_of_mem_fields :
  ∀ f ∈ fields, record.Holds f
  := by
  simp only [fields, List.forall_mem_cons, List.not_mem_nil, IsEmpty.forall_iff, implies_true,
    and_true]
  and_intros
  all_goals
    refine Record.holds_stored (fun a => ?_) (fun _ _ => rfl) rfl (fun _ _ => rfl) (fun _ _ => rfl)
    simp [Json.toText, Except.map]

/-- Storing in a field leaves the others as they are. -/
theorem value_store_of_mem_fields :
  ∀ f ∈ fields, ∀ v d d', f.store v d = .ok d' →
    ∀ g ∈ fields, g.key ≠ f.key → g.value d' = g.value d
  := by
  simp only [fields, List.forall_mem_cons, List.not_mem_nil, IsEmpty.forall_iff, implies_true,
    and_true]
  and_intros
  all_goals
    intro v d d' h
    obtain ⟨a, -, rfl⟩ := Json.Field.store_eq_ok.mp h
    and_intros
    all_goals first | exact fun _ => rfl | exact fun hkey => absurd rfl hkey

/-- The fields and the other members make up a draft. -/
theorem eq_of_values {d d' : Draft} (h : ∀ f ∈ fields, f.value d = f.value d')
    (hextra : d.extra = d'.extra) :
  d = d'
  := by
  simp only [fields, List.forall_mem_cons, List.not_mem_nil, IsEmpty.forall_iff, implies_true,
    and_true] at h
  obtain ⟨type, request, name, program, args, cwd, stopAtEntry, processId, environment, miMode⟩ := h
  apply Draft.ext
  case extra => exact hextra
  all_goals
    exact Json.Field.get_eq_of_value_eq (by assumption) (by simp [Json.toText, Except.map])

theorem lawful_record :
  record.Lawful
  where
  nodup_known := by decide +kernel
  extra_start := rfl
  extra_setExtra _ _ := rfl
  holds := holds_of_mem_fields
  value_store := value_store_of_mem_fields
  ext _ _ := eq_of_values

end Draft

/-! ### Reading back -/

theorem memberOf_eq_toList {α : Type} (key : String) (a : Option α) (json : α → Json) :
  Json.memberOf key a json = ((a.map json).map fun v => (key, v)).toList
  := by
  cases a <;> rfl

/-- The members of a configuration are those of its draft. -/
theorem members_draft (t : CompanionConfiguration) :
  Draft.record.members t.draft = t.members
  := by
  rw [Record.members, List.filterMap_eq_flatMap_toList]
  simp only [Draft.record, Draft.fields, List.flatMap_cons, List.flatMap_nil, members,
    memberOf_eq_toList, List.append_assoc]
  rfl

/-- A configuration is read back from its members, in whatever order they stand, when none of those
that it keeps has the key of one that is known. -/
theorem ofJson_of_perm {t : CompanionConfiguration} {members : Members}
    (ht : Draft.record.Tidy t.draft) (hperm : members.Perm t.members) :
  ofJson (.object members) = .ok t
  := by
  have hdraft : Draft.record.ofMembers members = .ok t.draft :=
    Draft.lawful_record.ofMembers_of_perm ht (members_draft t ▸ hperm)
  rw [ofJson, hdraft]
  exact finish_draft t

/-- None of the members that a configuration keeps has the key of one that is known when it was
read. -/
theorem foreign_of_ofJson {t : CompanionConfiguration} {v : Json} (h : ofJson v = .ok t) :
  ∀ m ∈ t.extra, m.1 ∉ Draft.record.known
  := by
  cases v
  case object members =>
    obtain ⟨d, hd, hfinish⟩ := (bind_eq_ok _ _ _).mp h
    have hextra : t.extra = d.extra := by
      unfold Draft.finish at hfinish
      split at hfinish
      case h_4 =>
        cases hfinish
        rfl
      all_goals cases hfinish
    rw [hextra]
    exact (Draft.lawful_record.tidy_of_ofMembers hd).foreign
  all_goals cases h

end CompanionConfiguration

/-! ### What is translated -/

/-- An entry is a name and a value with `=` between, or a name without a value. -/
def Splits (entry : String) (v : String × String) : Prop :=
  (entry = v.1 ++ "=" ++ v.2 ∧ '=' ∉ v.1.toList) ∨ ('=' ∉ entry.toList ∧ v = (entry, ""))

theorem splits_splitVariable (entry : String) :
  Splits entry (splitVariable entry)
  := by
  unfold splitVariable
  split
  case h_1 name value h =>
    obtain ⟨hentry, hname⟩ := Text.splitAtFirst_eq_some h
    refine .inl ⟨?_, by simpa using hname⟩
    apply String.toList_injective
    simp [hentry]
  case h_2 h => exact .inr ⟨Text.splitAtFirst_eq_none_iff.mp h, rfl⟩

namespace Configuration

/-- What a configuration is translated to. -/
theorem toCompanion_eq_ok {sdk : Sdk} {c : Configuration} {t : CompanionConfiguration} :
  c.toCompanion sdk = .ok t ↔ ∃ program args text, c.programOf sdk = .ok (program, args)
    ∧ quoteArguments args = .ok text
    ∧ t = ⟨CompanionConfiguration.ownType, c.requestOf, c.name, program, text, c.cwd,
        c.stopOnEntry, c.pid, (c.env.getD []).map splitVariable, CompanionConfiguration.gdb,
        c.extra⟩
  := by
  simp only [toCompanion, bind_eq_ok, pure, Except.pure, Except.ok.injEq, Prod.exists]
  constructor
  · rintro ⟨program, args, hprogram, text, htext, rfl⟩
    exact ⟨program, args, text, hprogram, htext, rfl⟩
  · rintro ⟨program, args, text, hprogram, htext, rfl⟩
    exact ⟨program, args, hprogram, text, htext, rfl⟩

/-- The keys of the fields that only the companion has. -/
def companionNames : List String := ["stopAtEntry", "processId", "environment", "MIMode"]

/-- The configuration keeps a member that the companion takes for one of its own. -/
def Shadows (c : Configuration) : Prop := ∃ m ∈ c.extra, m.1 ∈ companionNames

instance : DecidablePred Shadows := fun c =>
  inferInstanceAs (Decidable (∃ m ∈ c.extra, m.1 ∈ companionNames))

/-- A key that the companion knows is known already, or only the companion has it. -/
theorem mem_known_companion {key : String} (h : key ∈ CompanionConfiguration.Draft.record.known) :
  key ∈ names ∨ key ∈ companionNames
  := by
  have hsub : ∀ key ∈ CompanionConfiguration.Draft.record.known,
      key ∈ names ∨ key ∈ companionNames := by
    decide +kernel
  exact hsub key h

theorem companionNames_subset_known :
  companionNames ⊆ CompanionConfiguration.Draft.record.known
  := by
  decide +kernel

/-- What a configuration that was read is translated to has its variables, each split at its first
`=`.  It is read back from what it is written as exactly when no member that is kept shadows a
field of the companion; each key is there once then, with the value that was translated. -/
theorem companion_reads_back {v : Json} {c : Configuration} {sdk : Sdk}
    {t : CompanionConfiguration} (h : ofJson v = .ok c) (ht : c.toCompanion sdk = .ok t) :
  List.Forall₂ Splits (c.env.getD []) t.environment
    ∧ (CompanionConfiguration.ofJson (.object (sortMembers t.members)) = .ok t ↔ ¬ c.Shadows)
    ∧ (¬ c.Shadows → (keys t.members).Nodup
      ∧ (sortMembers t.members).Perm t.members
      ∧ CompanionConfiguration.ofJson t.json = .ok t
      ∧ lookup? "type" t.members = some (.string "cppdbg")
      ∧ lookup? "MIMode" t.members = some (.string "gdb")
      ∧ lookup? "environment" t.members = some (.array (t.environment.map fun (name, value) =>
        .object [("name", .string name), ("value", .string value)])))
  := by
  obtain ⟨program, args, text, -, -, rfl⟩ := toCompanion_eq_ok.mp ht
  have hc : record.Tidy c := by
    cases v
    case object => exact lawful_record.tidy_of_ofMembers h
    all_goals cases h
  set t : CompanionConfiguration := ⟨_, _, _, _, _, _, _, _, _, _, _⟩
  have htidy (hshadows : ¬ c.Shadows) : CompanionConfiguration.Draft.record.Tidy t.draft := by
    refine ⟨hc.ascending, fun m hm hknown => ?_⟩
    rcases mem_known_companion hknown with hname | hname
    · exact hc.foreign m hm hname
    · exact hshadows ⟨m, hm, hname⟩
  have hkeys (hshadows : ¬ c.Shadows) : (keys t.members).Nodup := by
    rw [← t.members_draft]
    exact (htidy hshadows).nodup_keys CompanionConfiguration.Draft.lawful_record
  refine ⟨?_, ⟨?_, fun hshadows => ?_⟩, fun hshadows => ?_⟩
  · apply List.forall₂_map_right_iff.mpr
    exact List.forall₂_same.mpr fun entry _ => splits_splitVariable entry
  · rintro hread ⟨m, hm, hname⟩
    exact CompanionConfiguration.foreign_of_ofJson hread m hm (companionNames_subset_known hname)
  · exact CompanionConfiguration.ofJson_of_perm (htidy hshadows)
      (Json.sortMembers_perm (hkeys hshadows))
  · have hlookup {f : Json.Field CompanionConfiguration.Draft}
        (hf : f ∈ CompanionConfiguration.Draft.fields) :
        lookup? f.key t.members = f.value t.draft := by
      rw [← t.members_draft]
      exact (htidy hshadows).lookup?_known CompanionConfiguration.Draft.lawful_record hf
    refine ⟨hkeys hshadows, Json.sortMembers_perm (hkeys hshadows),
      CompanionConfiguration.ofJson_of_perm (htidy hshadows) (List.Perm.refl _), rfl, ?_, ?_⟩
    · exact hlookup (f := CompanionConfiguration.Draft.fields[9]) (List.getElem_mem _)
    · exact hlookup (f := CompanionConfiguration.Draft.fields[8]) (List.getElem_mem _)

/-- An entry with two `=` and one without. -/
def withVariables : Members :=
  [("env", .strings ["A=b=c", "D"]), ("pid", .integer 7), ("trace", .null)]

theorem companion_reads_back_withVariables :
  ∃ c t, ofJson (.object withVariables) = .ok c
    ∧ c.toCompanion environmentSdk = .ok t
    ∧ t.environment = [("A", "b=c"), ("D", "")]
    ∧ CompanionConfiguration.ofJson (.object (sortMembers t.members)) = .ok t
    ∧ (keys t.members).Nodup
  := by
  let c : Configuration :=
    { unset with env := some ["A=b=c", "D"], pid := some 7, extra := [("trace", .null)] }
  have hread : ofJson (.object withVariables) = .ok c := by rfl
  have hsplit : ["A=b=c", "D"].map splitVariable = [("A", "b=c"), ("D", "")] := by decide +kernel
  obtain ⟨t, ht⟩ : ∃ t, c.toCompanion environmentSdk = .ok t := ⟨_, rfl⟩
  have hshadows : ¬ c.Shadows := by decide
  obtain ⟨-, hback, hfields⟩ := companion_reads_back hread ht
  refine ⟨c, t, hread, ht, ?_, hback.mpr hshadows, (hfields hshadows).1⟩
  obtain ⟨-, -, -, -, -, rfl⟩ := toCompanion_eq_ok.mp ht
  exact hsplit

/-- A mode among the members that are not known. -/
def withMode : Members := [("MIMode", .string "lldb"), ("program", .string "/bin/app")]

/-- A mode that the user writes takes the place of the one that is translated. -/
theorem companion_shadowed :
  ∃ c t, ofJson (.object withMode) = .ok c ∧ c.toCompanion environmentSdk = .ok t
    ∧ ¬ (keys t.members).Nodup
    ∧ lookup? "MIMode" (sortMembers t.members) = some (.string "lldb")
    ∧ CompanionConfiguration.ofJson (.object (sortMembers t.members)) ≠ .ok t
  := by
  refine ⟨{ unset with program := some "/bin/app", extra := [("MIMode", .string "lldb")] }, _, rfl,
    rfl, by decide, rfl, fun hread => ?_⟩
  exact CompanionConfiguration.foreign_of_ofJson hread _ List.mem_cons_self (by decide)

end Configuration

end MojoToolchain.Debug
