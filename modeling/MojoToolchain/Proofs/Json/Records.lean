import MojoToolchain.Debug.LaunchFile
import MojoToolchain.Proofs.Json.Acceptance
import MojoToolchain.Settings.Text

/-!
# Records that are read

A reader for values of a known form accepts values of RFC 8259 only, if the readers for the parts
do: a scalar value, a value or `null`, a list, and a record, whose unknown members are passed
over.  So settings and launch files are loaded only from texts whose plain text is one of
RFC 8259.
-/

namespace MojoToolchain.Json.Grammar

variable {s t u r : List Char} {α σ : Type}

/-! ### Scalars, optional values and lists -/

theorem readsValues_scalar (shape : Shape) (accept : Json → Except Mismatch α) :
  ReadsValues (Typed.scalar shape accept)
  := by
  intro s a x h
  unfold Typed.scalar at h
  split at h
  case h_1 => contradiction
  case h_2 => contradiction
  case h_3 =>
    obtain ⟨⟨v, y⟩, hy, h⟩ := (bind_eq_ok _ _ _).mp h
    simp only at h
    split at h
    case h_1 =>
      cases h
      exact .of_skipSpace rfl (value_of_readScalar hy)
    case h_2 => contradiction

theorem ReadsValues.optional {item : Typed α} (h : ReadsValues item) :
  ReadsValues item.optional
  := by
  intro s a x hx
  unfold Typed.optional at hx
  split at hx
  case h_1 =>
    obtain ⟨⟨v, y⟩, hy, hx⟩ := (bind_eq_ok _ _ _).mp hx
    cases hx
    exact .of_skipSpace rfl (value_of_readScalar hy)
  case h_2 =>
    obtain ⟨⟨b, y⟩, hy, hx⟩ := (bind_eq_ok _ _ _).mp hx
    cases hx
    exact h s b _ hy

theorem ReadsValues.list {item : Typed α} (h : ReadsValues item) :
  ReadsValues (Typed.list item)
  := by
  intro s as x hx
  unfold Typed.list at hx
  split at hx
  case h_1 r hr =>
    obtain ⟨⟨bs, y⟩, hy, hx⟩ := (bind_eq_ok _ _ _).mp hx
    cases hx
    exact .of_skipSpace hr (value_of_readList h hy)
  case h_2 => exact readsValues_scalar _ _ s as x hx

/-! ### Fields -/

/-- The fields of a record are read as values. -/
def ReadsFields (fields : List (Typed.Field σ)) : Prop :=
  ∀ field ∈ fields, ReadsValues field.read

theorem ReadsFields.nil :
  ReadsFields ([] : List (Typed.Field σ))
  := List.forall_mem_nil _

theorem ReadsFields.cons {field : Typed.Field σ} {fields : List (Typed.Field σ)}
    (h : ReadsValues field.read) (hfields : ReadsFields fields) :
  ReadsFields (field :: fields)
  := List.forall_mem_cons.mpr ⟨h, hfields⟩

/-! ### Records in a list -/

theorem consumes_of_closeItems {x : Rest s} (h : Typed.closeItems s = .ok x) :
  Consumes [.mark .closeList] s x.val
  := by
  unfold Typed.closeItems at h
  split at h
  case h_1 => contradiction
  case h_2 r hr =>
    cases h
    exact .mark .closeList hr
  case h_3 => split at h <;> contradiction
  case h_4 => contradiction

/-- What is before `r` in `s` are items and the end of a list, at its start or behind an item. -/
def Continues : Bool → List Char → List Char → Prop
  | true, s, r => ∀ q, Consumes [.mark .openList] q s → Value q r
  | false, s, r => ∀ q, Value q s → ListBody q r

theorem Continues.close (first : Bool) (h : Consumes [.mark .closeList] s r) :
  Continues first s r
  := by
  cases first with
  | true => exact fun _ hq => .emptyList hq h
  | false => exact fun _ hq => .last hq h

/-- What `nextItem` tells about the text at the start of a list or behind an item. -/
def NextItem (first : Bool) (s : List Char) : Tail s ⊕ Rest s → Prop
  | .inl item => ∀ t r, Value item.val t → Continues false t r → Continues first s r
  | .inr behind => Continues first s behind.val

theorem nextItem_of_nextItem {first : Bool} {x : Tail s ⊕ Rest s}
    (h : Typed.nextItem first s = .ok x) :
  NextItem first s x
  := by
  unfold Typed.nextItem at h
  split at h
  case h_1 => contradiction
  case h_2 r hr =>
    cases h
    exact .close first (.mark .closeList hr)
  case h_3 c w _ hw =>
    split at h
    case isTrue hfirst =>
      cases h
      rw [hfirst]
      exact fun t r ht hr q hq => .list hq (hr s (.of_skipSpace rfl ht))
    case isFalse hfirst =>
      rw [Bool.eq_false_iff.mpr hfirst]
      split at h
      case isTrue hc =>
        obtain rfl := eq_of_beq hc
        split at h
        case h_1 => contradiction
        case h_2 => contradiction
        case h_3 =>
          cases h
          exact fun t r ht hr q hq => .more hq (.mark .comma hw) (hr w (.of_skipSpace rfl ht))
      case isFalse => contradiction

theorem continues_of_items {fields : List (Typed.Field σ)} (hfields : ReadsFields fields)
    {first : Bool} {start a : σ} {x : Rest s}
    (h : Typed.items first start fields s = .ok (a, x)) :
  Continues first s x.val
  := by
  induction fields generalizing first start s with
  | nil =>
    obtain ⟨y, hy, h⟩ := (bind_eq_ok _ _ _).mp h
    cases h
    exact .close first (consumes_of_closeItems hy)
  | cons field fields ih =>
    rw [ReadsFields, List.forall_mem_cons] at hfields
    obtain ⟨next, hnext, h⟩ := (bind_eq_ok _ _ _).mp h
    have hitem := nextItem_of_nextItem hnext
    cases next with
    | inr y =>
      cases h
      exact hitem
    | inl y =>
      obtain ⟨⟨store, u⟩, hu, h⟩ := (bind_eq_ok _ _ _).mp h
      obtain ⟨⟨b, w⟩, hw, h⟩ := (bind_eq_ok _ _ _).mp h
      cases h
      exact hitem _ _ (hfields.1 _ _ _ hu) (ih hfields.2 hw)

/-! ### Records in an object -/

/-- A member of a record is read as a value: by the field of its key, or passed over. -/
theorem exists_value_of_member {β : Type} {fields : List (Typed.Field σ)}
    (hfields : ReadsFields fields) {key : String} {taken : List String} {start : σ} {b : β}
    {next : σ × List String × Rest s → Except Stop β}
    (h : (match fields.find? (·.key == key) with
      | some field => do
        let (store, u) ← field.read s
        let member ← Except.ok (store start, key :: taken, u)
        next member
      | none => do
        let u ← skipValue s
        let member ← Except.ok (start, taken, u)
        next member) = .ok b) :
  ∃ a keys, ∃ x : Rest s, Value s x.val ∧ next (a, keys, x) = .ok b
  := by
  split at h
  case h_1 field hfield =>
    obtain ⟨⟨store, u⟩, hu, h⟩ := (bind_eq_ok _ _ _).mp h
    exact ⟨_, _, u, hfields field (List.mem_of_find?_eq_some hfield) _ _ _ hu, h⟩
  case h_2 =>
    obtain ⟨u, hu, h⟩ := (bind_eq_ok _ _ _).mp h
    exact ⟨_, _, u, value_of_skipValue hu, h⟩

theorem objectBody_of_members {fields : List (Typed.Field σ)} (hfields : ReadsFields fields)
    {taken : List String} {start a : σ} {x : Rest s}
    (h : Typed.members fields taken start s = .ok (a, x)) :
  ObjectBody s x.val
  := by
  fun_induction Typed.members fields taken start s generalizing a with
  | case1 taken start s ih =>
    obtain ⟨⟨key, y⟩, hy, h⟩ := (bind_eq_ok _ _ _).mp h
    simp only at h
    split at h
    case isTrue => contradiction
    case isFalse =>
      obtain ⟨z, hz, h⟩ := (bind_eq_ok _ _ _).mp h
      obtain ⟨acc, keys, w, hw, h⟩ := exists_value_of_member hfields h
      have hkey := key_of_readKey hy (consumes_of_readColon hz)
      simp only at h
      split at h
      case h_1 => contradiction
      case h_2 r hr =>
        cases h
        exact .last hkey hw (.mark .closeObject hr)
      case h_3 r hr =>
        obtain ⟨k, hk, h⟩ := (bind_eq_ok _ _ _).mp h
        obtain ⟨⟨b, v⟩, hv, h⟩ := (bind_eq_ok _ _ _).mp h
        cases h
        have hrest := ih y z acc keys w r hr k hv
        exact .more hkey hw (.mark .comma hr) (.of_skipSpace (eq_of_nextKey hk) hrest)
      case h_4 => contradiction

/-- A record is read from a value of RFC 8259 if its fields are. -/
theorem ReadsFields.record {fields : List (Typed.Field σ)} (hfields : ReadsFields fields)
    (name : String) (start : σ) :
  ReadsValues (Typed.record name fields start)
  := by
  intro s a x h
  unfold Typed.record at h
  split at h
  case h_1 r hr =>
    obtain ⟨⟨b, y⟩, hy, h⟩ := (bind_eq_ok _ _ _).mp h
    cases h
    exact continues_of_items hfields hy s (.mark .openList hr)
  case h_2 r hr =>
    have hopen : Consumes [.mark .openObject] s r := .mark .openObject hr
    obtain ⟨first, hfirst, h⟩ := (bind_eq_ok _ _ _).mp h
    have hkey := firstKey_of_firstKey hfirst
    cases first with
    | inr y =>
      cases h
      exact .emptyObject hopen hkey
    | inl y =>
      obtain ⟨⟨b, z⟩, hz, h⟩ := (bind_eq_ok _ _ _).mp h
      cases h
      exact .object hopen (.of_skipSpace hkey (objectBody_of_members hfields hz))
  case h_3 => exact readsValues_scalar _ _ s a x h

/-! ### Settings -/

theorem ReadsValues.field {item : Typed α} (h : ReadsValues item) (key : String)
    (store : Option α → σ → σ) :
  ReadsValues (Settings.field key item store).read
  := by
  intro s a x hx
  obtain ⟨⟨b, y⟩, hy, hx⟩ := (bind_eq_ok _ _ _).mp hx
  cases hx
  exact h.optional s b _ hy

/-- A reader that changes what another one has read. -/
theorem ReadsValues.map {β : Type} {item : Typed α} (h : ReadsValues item) (f : α → β) :
  ReadsValues (fun s => do
    let (a, x) ← item s
    Except.ok (f a, x))
  := by
  intro s a x hx
  obtain ⟨⟨b, y⟩, hy, hx⟩ := (bind_eq_ok _ _ _).mp hx
  cases hx
  exact h s b _ hy

theorem readsValues_debugSettings :
  ReadsValues Settings.debugSettings
  := by
  apply ReadsFields.record
  apply ReadsFields.cons (((readsValues_scalar _ _).map _).field _ _)
  apply ReadsFields.cons ((readsValues_scalar _ _).field _ _)
  exact .nil

theorem readsValues_formatterSettings :
  ReadsValues Settings.formatterSettings
  := by
  apply ReadsFields.record
  exact .cons (((readsValues_scalar _ _).map _).field _ _) .nil

theorem readsValues_texts :
  ReadsValues Settings.texts
  := (readsValues_scalar _ _).list

theorem readsValues_serverSettings :
  ReadsValues Settings.serverSettings
  := by
  apply ReadsFields.record
  exact .cons (readsValues_texts.field _ _) .nil

theorem readsValues_extensionSettings :
  ReadsValues Settings.extensionSettings
  := by
  apply ReadsFields.record
  exact .cons (readsValues_texts.field _ _) .nil

theorem readsValues_settings :
  ReadsValues Settings.typed
  := by
  apply ReadsFields.record
  apply ReadsFields.cons ((readsValues_scalar _ _).field _ _)
  apply ReadsFields.cons ((readsValues_scalar _ _).field _ _)
  apply ReadsFields.cons (((readsValues_scalar _ _).map _).field _ _)
  apply ReadsFields.cons (readsValues_debugSettings.field _ _)
  apply ReadsFields.cons (readsValues_formatterSettings.field _ _)
  apply ReadsFields.cons (readsValues_serverSettings.field _ _)
  apply ReadsFields.cons (readsValues_extensionSettings.field _ _)
  exact .nil

/-! ### Texts that are loaded -/

/-- Settings are loaded only from a text whose plain text is one of RFC 8259. -/
theorem exists_written_of_settings {source text : String} {settings : Settings}
    (h : Settings.parse source text = .ok settings) :
  ∃ tree, Written .json tree (Json.plain text.toList)
  := by
  unfold Settings.parse at h
  simp only at h
  split at h
  case h_1 hread => exact exists_written_of_readWhole readsValues_settings hread
  case h_2 => contradiction

/-- A configuration is taken only from a launch file whose plain text is one of RFC 8259. -/
theorem exists_written_of_launchFile {text : String} {name : Option String}
    {configuration : Debug.Configuration}
    (h : Debug.LaunchFile.parse text name = .ok configuration) :
  ∃ tree, Written .json tree (Json.plain text.toList)
  := by
  unfold Debug.LaunchFile.parse at h
  simp only at h
  split at h
  case h_1 => contradiction
  case h_2 hread => exact exists_written_of_readWhole (readsValues_readValue maxDepth) hread

end MojoToolchain.Json.Grammar
