import MojoToolchain.Debug.Configuration.Fields
import MojoToolchain.Proofs.Json.LawfulRecord

/-!
# Configurations read and written

A value that holds a configuration is written back as it was, except that known members whose
value is null are left out and that a request is written as its name.  A configuration is read
back from what it is written as, unless it keeps a member with the key of one that is known.
-/

namespace MojoToolchain.Debug

open Json (Ascending Members Record ascending_sortMembers lookup? lookup?_eq_of_perm
  lookup?_filter lookup?_filterMap lookup?_sortMembers sortMembers sortMembers_perm)

/-! ### Requests -/

namespace Request

/-- A request as its name, also where it is the only key of an object. -/
def spelled : Json → Json
  | .object [(word, _)] => .string word
  | v => v

theorem named_name (r : Request) :
  ofJson.named r.name = .ok r
  := by
  cases r <;> rfl

@[simp]
theorem ofJson_name (r : Request) :
  ofJson (.string r.name) = .ok r
  := named_name r

@[simp]
theorem toOption_name (r : Request) :
  Json.toOption ofJson (.string r.name) = .ok (some r)
  := Json.toOption_eq_ok_some Json.noConfusion (ofJson_name r)

theorem name_of_named {word : String} {r : Request} (h : ofJson.named word = .ok r) :
  r.name = word
  := by
  unfold ofJson.named at h
  split at h
  case isTrue hword =>
    cases h
    exact (eq_of_beq hword).symm
  case isFalse =>
    split at h
    case isTrue hword =>
      cases h
      exact (eq_of_beq hword).symm
    case isFalse => cases h

/-- A request is written as the name that was read. -/
theorem name_of_ofJson {v : Json} {r : Request} (h : ofJson v = .ok r) :
  .string r.name = spelled v
  := by
  unfold ofJson at h
  split at h
  case h_1 word => exact congrArg Json.string (name_of_named h)
  case h_2 word value =>
    obtain ⟨r', hr, h⟩ := (bind_eq_ok _ _ _).mp h
    split at h
    case h_1 =>
      cases h
      exact congrArg Json.string (name_of_named hr)
    case h_2 => cases h
  case h_3 => cases h
  case h_4 => cases h

end Request

namespace Configuration

/-! ### The fields -/

attribute [ext] Configuration

/-- Each field takes back what it holds, and does not touch the members that are not known. -/
theorem holds_of_mem_fields :
  ∀ f ∈ fields, record.Holds f
  := by
  simp only [fields, List.forall_mem_cons, List.not_mem_nil, IsEmpty.forall_iff, implies_true,
    and_true]
  and_intros
  all_goals
    refine Record.holds_stored (fun a => ?_) (fun _ _ => rfl) rfl (fun _ _ => rfl) (fun _ _ => rfl)
    simp

/-- Storing in a field leaves the others as they are. -/
theorem value_store_of_mem_fields :
  ∀ f ∈ fields, ∀ v c c', f.store v c = .ok c' →
    ∀ g ∈ fields, g.key ≠ f.key → g.value c' = g.value c
  := by
  simp only [fields, List.forall_mem_cons, List.not_mem_nil, IsEmpty.forall_iff, implies_true,
    and_true]
  and_intros
  all_goals
    intro v c c' h
    obtain ⟨a, -, rfl⟩ := Json.Field.store_eq_ok.mp h
    and_intros
    -- The field itself is the only one for which the keys do not differ.
    all_goals first | exact fun _ => rfl | exact fun hkey => absurd rfl hkey

/-- The fields and the other members make up a configuration. -/
theorem eq_of_values {c c' : Configuration} (h : ∀ f ∈ fields, f.value c = f.value c')
    (hextra : c.extra = c'.extra) :
  c = c'
  := by
  simp only [fields, List.forall_mem_cons, List.not_mem_nil, IsEmpty.forall_iff, implies_true,
    and_true] at h
  obtain ⟨type, request, name, pid, mojoFile, program, args, buildArgs, env, cwd, stopOnEntry,
    initCommands, frameFormat, synthetic, summaries, escapePrefix, timeout, debugger, adapter⟩ := h
  apply Configuration.ext
  case extra => exact hextra
  all_goals exact Json.Field.get_eq_of_value_eq (by assumption) (by simp)

theorem lawful_record :
  record.Lawful
  where
  nodup_known := by decide +kernel
  extra_start := rfl
  extra_setExtra _ _ := rfl
  holds := holds_of_mem_fields
  value_store := value_store_of_mem_fields
  ext _ _ := eq_of_values

/-! ### Writing back -/

/-- The keys of the members that are known. -/
def names : List String :=
  ["type", "request", "name", "pid", "mojoFile", "program", "args", "buildArgs", "env", "cwd",
    "stopOnEntry", "initCommands", "customFrameFormat", "enableSyntheticChildDebugging",
    "enableAutoVariableSummaries", "commandEscapePrefix", "timeout", "debuggerPath",
    "debugAdapterPath"]

theorem known_record :
  record.known = names
  := rfl

/-- The value that a known member is written back with; a null is not written. -/
def respelled (key : String) : Json → Option Json
  | .null => none
  | v => some (if key = "request" then Request.spelled v else v)

/-- The member that a member is written back as; one that is not known stays as it is. -/
def writtenBack (m : String × Json) : Option (String × Json) :=
  if m.1 ∈ names then (respelled m.1 m.2).map fun v => (m.1, v) else some m

theorem key_of_writtenBack (m n : String × Json) (h : writtenBack m = some n) :
  n.1 = m.1
  := by
  unfold writtenBack at h
  split at h
  case isTrue =>
    obtain ⟨v, -, rfl⟩ := Option.map_eq_some_iff.mp h
    rfl
  case isFalse => rw [← Option.some.inj h]

theorem respelled_of_ne_null {key : String} {v : Json} (hv : v ≠ .null) :
  respelled key v = some (if key = "request" then Request.spelled v else v)
  := by
  cases v
  case null => contradiction
  all_goals rfl

/-- What an optional field holds is written as it was read, as far as single values are. -/
theorem eq_respelled_of_reads_optional {α : Type} {key : String}
    {read : Json → Except Json.Mismatch α} {write : α → Json} {get : Configuration → Option α}
    {set : Option α → Configuration → Configuration}
    (hread : ∀ v a, read v = .ok a → write a = if key = "request" then Request.spelled v else v)
    (hget : ∀ a c, get (set a c) = a) {v : Json} {x : Option Json}
    (h : (Json.Field.optional key read write get set).Reads v x) :
  x = respelled key v
  := by
  obtain ⟨a, ha, rfl⟩ := Json.Field.exists_of_reads hget h
  rcases Json.toOption_eq_ok.mp ha with ⟨rfl, rfl⟩ | ⟨hv, b, hb, rfl⟩
  · rfl
  · rw [respelled_of_ne_null hv, ← hread v b hb]
    rfl

/-- What a field holds is written as it was read. -/
theorem eq_respelled_of_reads :
  ∀ f ∈ fields, ∀ v x, f.Reads v x → x = respelled f.key v
  := by
  simp only [fields, List.forall_mem_cons, List.not_mem_nil, IsEmpty.forall_iff, implies_true,
    and_true]
  and_intros
  all_goals
    intro v x h
    refine eq_respelled_of_reads_optional (fun w a ha => ?_) (fun _ _ => rfl) h
    first
    | exact (Json.toText_eq_ok.mp ha).symm
    | exact (Json.toTexts_eq_ok.mp ha).symm
    | exact (Json.toBool_eq_ok.mp ha).symm
    | exact (Json.readWord32_eq_ok.mp ha).symm
    | exact (Json.readWord64_eq_ok.mp ha).symm
    | exact Request.name_of_ofJson ha

/-- A key of a configuration that was read has the value that its member is written back with. -/
theorem lookup?_members {members : Members} {c : Configuration}
    (h : record.ofMembers members = .ok c) (key : String) :
  lookup? key c.members
    = (lookup? key members.reverse).bind fun v => (writtenBack (key, v)).map Prod.snd
  := by
  have htidy := lawful_record.tidy_of_ofMembers h
  by_cases hkey : key ∈ names
  · obtain ⟨f, hf, rfl⟩ := List.mem_map.mp (known_record ▸ hkey)
    have hback (v : Json) : (writtenBack (f.key, v)).map Prod.snd = respelled f.key v := by
      rw [writtenBack, if_pos hkey, Option.map_map]
      exact Option.map_id'
    rw [Configuration.members, htidy.lookup?_known lawful_record hf]
    rcases lawful_record.reads_of_ofMembers h hf with ⟨hnone, hvalue⟩ | ⟨v, hv, hreads⟩
    · rw [hnone, hvalue]
      rfl
    · rw [hv, Option.bind_some, hback]
      exact eq_respelled_of_reads f hf v _ hreads
  · have hback (v : Json) : (writtenBack (key, v)).map Prod.snd = some v := by
      rw [writtenBack, if_neg hkey]
      rfl
    rw [Configuration.members, Record.lookup?_foreign hkey, lawful_record.extra_of_ofMembers h,
      lookup?_sortMembers, ← List.filter_reverse, lookup?_filter (by simp [known_record, hkey])]
    simp only [hback]
    exact (Option.bind_fun_some _).symm

/-- A value that holds a configuration is written back as it was: known members whose value is null
are left out, a request is written as its name, and all other members stay as they are.  A
configuration is read back from what it is written as, unless it keeps a member with the key of one
that is known. -/
theorem read_write_round_trip :
  (∀ v c, ofJson v = .ok c → ∃ members, v = .object members
      ∧ Json.object (sortMembers c.members)
        = .object ((sortMembers members).filterMap writtenBack)
      ∧ (Ascending members → sortMembers members = members))
    ∧ ∀ c : Configuration, Ascending c.extra → (∀ m ∈ c.extra, m.1 ∉ names) →
      ofJson (.object (sortMembers c.members)) = .ok c
  := by
  constructor
  · intro v c h
    cases v
    case object members =>
      refine ⟨members, rfl, ?_, Ascending.sortMembers_eq⟩
      congr 1
      have hc := lawful_record.tidy_of_ofMembers h
      apply (ascending_sortMembers _).ext
      · exact (ascending_sortMembers members).filterMap key_of_writtenBack
      · intro key
        rw [lookup?_sortMembers, lookup?_filterMap key_of_writtenBack
          (ascending_sortMembers members).nodup_keys, lookup?_sortMembers, ← lookup?_members h]
        exact lookup?_eq_of_perm (List.reverse_perm _) (hc.nodup_keys lawful_record)
    all_goals cases h
  · intro c hascending hforeign
    have hc : record.Tidy c := ⟨hascending, hforeign⟩
    apply lawful_record.ofMembers_of_perm hc
    exact sortMembers_perm (hc.nodup_keys lawful_record)

/-- A request as the key of an object, a null that is known, and members that are not known. -/
def mappedRequest : Members :=
  [("cwd", .null), ("notes", .object [("depth", .double .zero), ("rest", .null)]),
    ("pid", .integer 7), ("request", .object [("attach", .null)]), ("trace", .null)]

theorem read_write_round_trip_mappedRequest :
  ∃ c, ofJson (.object mappedRequest) = .ok c
    ∧ Json.object (sortMembers c.members)
      = .object [("notes", .object [("depth", .double .zero), ("rest", .null)]),
        ("pid", .integer 7), ("request", .string "attach"), ("trace", .null)]
    ∧ ofJson (.object (sortMembers c.members)) = .ok c
  := by
  let c : Configuration :=
    { unset with
      request := some .attach
      pid := some 7
      extra := [("notes", .object [("depth", .double .zero), ("rest", .null)]), ("trace", .null)] }
  have hread : ofJson (.object mappedRequest) = .ok c := by rfl
  obtain ⟨members, hmembers, hwritten, hsorted⟩ := read_write_round_trip.1 _ c hread
  obtain rfl := Json.object.inj hmembers
  refine ⟨c, hread, ?_, ?_⟩
  · rw [hwritten, hsorted (by decide)]
    rfl
  · exact read_write_round_trip.2 c (by decide) (by decide)

end Configuration

end MojoToolchain.Debug
