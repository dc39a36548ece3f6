import Mathlib.Data.List.Nodup
import MojoToolchain.Json.Record
import MojoToolchain.Proofs.Json.Members
import MojoToolchain.Proofs.Outcome

/-!
# Lawful records

The fields of a lawful record do not touch one another, and each takes back the values that it
can have.  What a record holds that was read is then known field by field: the last member of its
key decides (`Lawful.reads_of_ofMembers`), and the members that are not known are kept
(`Lawful.extra_of_ofMembers`).  A record is read back from its members, in whatever order they
stand (`Lawful.ofMembers_of_perm`).
-/

namespace MojoToolchain.Json

variable {σ α : Type}

/-! ### Fields -/

namespace Field

/-- Storing the value leaves `x` as the value of the field. -/
def Reads (f : Field σ) (v : Json) (x : Option Json) : Prop :=
  ∃ s s', f.store v s = .ok s' ∧ f.value s' = x

/-- The field takes every value that it can have, and has it then. -/
def TakesBack (f : Field σ) : Prop :=
  ∀ s v, f.value s = some v → ∀ t, ∃ t', f.store v t = .ok t' ∧ f.value t' = some v

variable {key : String} {read : Json → Except Mismatch (Option α)} {write : α → Json}
  {get : σ → Option α} {set : Option α → σ → σ} {v : Json} {s s' : σ}

theorem store_eq_ok :
  (stored key read write get set).store v s = .ok s' ↔ ∃ a, read v = .ok a ∧ set a s = s'
  := by
  simp only [stored, bind_eq_ok, pure, Except.pure, Except.ok.injEq]

theorem takesBack (hread : ∀ a, read (write a) = .ok (some a)) (hget : ∀ a s, get (set a s) = a) :
  (stored key read write get set).TakesBack
  := by
  intro s v hv t
  obtain ⟨a, -, rfl⟩ := Option.map_eq_some_iff.mp hv
  refine ⟨set (some a) t, store_eq_ok.mpr ⟨some a, hread a, rfl⟩, ?_⟩
  simp [stored, hget]

/-- What is read back is determined by what is written. -/
theorem get_eq_of_value_eq
    (h : (stored key read write get set).value s = (stored key read write get set).value s')
    (hread : ∀ a, read (write a) = .ok (some a)) :
  get s = get s'
  := by
  have hwrite : Function.Injective write := by
    intro a b hab
    have hread' := hread a
    rw [hab, hread b, Except.ok.injEq, Option.some.injEq] at hread'
    exact hread'.symm
  exact Option.map_injective hwrite h

/-- What a field that was read is written back as. -/
theorem exists_of_reads (hget : ∀ a s, get (set a s) = a) {x : Option Json}
    (h : (stored key read write get set).Reads v x) :
  ∃ a, read v = .ok a ∧ x = a.map write
  := by
  obtain ⟨s, s', hs, rfl⟩ := h
  obtain ⟨a, ha, rfl⟩ := store_eq_ok.mp hs
  refine ⟨a, ha, ?_⟩
  simp [stored, hget]

end Field

/-! ### Values that are read back -/

theorem toOption_eq_ok {read : Json → Except Mismatch α} {v : Json} {a : Option α} :
  toOption read v = .ok a
    ↔ (v = .null ∧ none = a) ∨ (v ≠ .null ∧ ∃ b, read v = .ok b ∧ some b = a)
  := by
  cases v <;> simp [toOption, map_eq_ok]

theorem toOption_eq_ok_some {read : Json → Except Mismatch α} {v : Json} {a : α} (hv : v ≠ .null)
    (h : read v = .ok a) :
  toOption read v = .ok (some a)
  := toOption_eq_ok.mpr (.inr ⟨hv, a, h, rfl⟩)

theorem toText_eq_ok {shape : Shape} {v : Json} {a : String} :
  toText shape v = .ok a ↔ v = .string a
  := by
  cases v <;> simp [toText]

theorem toBool_eq_ok {v : Json} {b : Bool} :
  toBool v = .ok b ↔ v = .bool b
  := by
  cases v <;> simp [toBool]

theorem toTexts_eq_ok {shape : Shape} {v : Json} {texts : List String} :
  toList (toText shape) v = .ok texts ↔ v = .strings texts
  := by
  cases v
  case array items =>
    rw [toList, strings, array.injEq]
    induction items generalizing texts with
    | nil =>
      cases texts with
      | nil => simp [pure, Except.pure]
      | cons => simp [pure, Except.pure]
    | cons item rest ih =>
      simp only [List.mapM_cons, bind_eq_ok, toText_eq_ok, ih, pure, Except.pure, Except.ok.injEq]
      cases texts with
      | nil => simp
      | cons a as =>
        simp only [List.map_cons, List.cons.injEq]
        constructor
        · rintro ⟨a, rfl, as, rfl, rfl, rfl⟩
          exact ⟨rfl, rfl⟩
        · rintro ⟨rfl, rfl⟩
          exact ⟨a, rfl, as, rfl, rfl, rfl⟩
  all_goals simp [toList, strings]

theorem toUnsigned_eq_ok {bits : Nat} {v : Json} {n : Nat} :
  toUnsigned bits v = .ok n ↔ v = .natural n ∧ n < 2 ^ bits
  := by
  cases v
  case integer k =>
    simp only [toUnsigned, natural, integer.injEq, Nat.one_shiftLeft]
    split
    case isTrue h =>
      rw [Except.ok.injEq]
      omega
    case isFalse h =>
      simp only [reduceCtorEq, false_iff]
      omega
  all_goals simp [toUnsigned, natural]

theorem readWord32_eq_ok {v : Json} {n : UInt32} :
  Field.readWord32 v = .ok n ↔ v = .natural n.toNat
  := by
  simp only [Field.readWord32, bind_eq_ok, toUnsigned_eq_ok, pure, Except.pure, Except.ok.injEq]
  constructor
  · rintro ⟨k, ⟨rfl, hk⟩, rfl⟩
    rw [UInt32.toNat_ofNat_of_lt' hk]
  · rintro rfl
    exact ⟨n.toNat, ⟨rfl, n.toNat_lt⟩, UInt32.ofNat_toNat⟩

theorem readWord64_eq_ok {v : Json} {n : UInt64} :
  Field.readWord64 v = .ok n ↔ v = .natural n.toNat
  := by
  simp only [Field.readWord64, bind_eq_ok, toUnsigned_eq_ok, pure, Except.pure, Except.ok.injEq]
  constructor
  · rintro ⟨k, ⟨rfl, hk⟩, rfl⟩
    rw [UInt64.toNat_ofNat_of_lt' hk]
  · rintro rfl
    exact ⟨n.toNat, ⟨rfl, n.toNat_lt⟩, UInt64.ofNat_toNat⟩

/-! ### Values that are written and read again -/

@[simp]
theorem toOption_text (a : String) :
  toOption (toText .text) (.string a) = .ok (some a)
  := rfl

@[simp]
theorem toOption_texts (a : List String) :
  toOption (toList (toText .text)) (.strings a) = .ok (some a)
  := toOption_eq_ok_some Json.noConfusion (toTexts_eq_ok.mpr rfl)

@[simp]
theorem toOption_bool (a : Bool) :
  toOption toBool (.bool a) = .ok (some a)
  := rfl

@[simp]
theorem toOption_word32 (a : UInt32) :
  toOption Field.readWord32 (.natural a.toNat) = .ok (some a)
  := toOption_eq_ok_some Json.noConfusion (readWord32_eq_ok.mpr rfl)

@[simp]
theorem toOption_word64 (a : UInt64) :
  toOption Field.readWord64 (.natural a.toNat) = .ok (some a)
  := toOption_eq_ok_some Json.noConfusion (readWord64_eq_ok.mpr rfl)

/-! ### Records -/

namespace Record

/-- The keys of the members that are known. -/
def known (r : Record σ) : List String := r.fields.map Field.key

/-- The field takes back what it holds, is unset at the start, and does not touch the members that
are not known. -/
structure Holds (r : Record σ) (f : Field σ) : Prop where
  value_start : f.value r.start = none
  extra_store : ∀ v s s', f.store v s = .ok s' → r.extra s' = r.extra s
  value_setExtra : ∀ members s, f.value (r.setExtra members s) = f.value s
  takesBack : f.TakesBack

/-- The fields of a record do not touch one another, and each takes back what it holds. -/
structure Lawful (r : Record σ) : Prop where
  nodup_known : r.known.Nodup
  extra_start : r.extra r.start = []
  extra_setExtra : ∀ members s, r.extra (r.setExtra members s) = members
  holds : ∀ f ∈ r.fields, r.Holds f
  value_store : ∀ f ∈ r.fields, ∀ v s s', f.store v s = .ok s' →
    ∀ g ∈ r.fields, g.key ≠ f.key → g.value s' = g.value s
  ext : ∀ s s', (∀ f ∈ r.fields, f.value s = f.value s') → r.extra s = r.extra s' → s = s'

theorem holds_stored {r : Record σ} {key : String} {read : Json → Except Mismatch (Option α)}
    {write : α → Json} {get : σ → Option α} {set : Option α → σ → σ}
    (hread : ∀ a, read (write a) = .ok (some a)) (hget : ∀ a s, get (set a s) = a)
    (hstart : get r.start = none) (hextra : ∀ a s, r.extra (set a s) = r.extra s)
    (hset : ∀ members s, get (r.setExtra members s) = get s) :
  r.Holds (.stored key read write get set)
  where
  value_start := congrArg (Option.map write) hstart
  extra_store v s s' h := by
    obtain ⟨a, -, rfl⟩ := Field.store_eq_ok.mp h
    apply hextra
  value_setExtra members s := congrArg (Option.map write) (hset members s)
  takesBack := Field.takesBack hread hget

/-- The members that are not known are in order, and none of them has the key of one that is. -/
structure Tidy (r : Record σ) (s : σ) : Prop where
  ascending : Ascending (r.extra s)
  foreign : ∀ m ∈ r.extra s, m.1 ∉ r.known

variable {r : Record σ} {members : Members} {key : String} {s : σ}

theorem ofMembers_concat (r : Record σ) (members : Members) (m : String × Json) :
  r.ofMembers (members ++ [m]) = r.ofMembers members >>= fun s => r.readMember s m
  := by
  simp [ofMembers, List.foldlM_append]

/-! ### Members of a record -/

/-- The known members of a record that are set. -/
def knownMembers (fields : List (Field σ)) (s : σ) : Members :=
  fields.filterMap fun field => (field.value s).map fun v => (field.key, v)

theorem members_eq (r : Record σ) (s : σ) :
  r.members s = knownMembers r.fields s ++ r.extra s
  := rfl

theorem keys_knownMembers_sublist (fields : List (Field σ)) (s : σ) :
  (keys (knownMembers fields s)).Sublist (fields.map Field.key)
  := by
  induction fields with
  | nil => exact .slnil
  | cons f fields ih =>
    rw [knownMembers, List.filterMap_cons, List.map_cons]
    cases f.value s with
    | none => exact ih.cons _
    | some v => exact ih.cons_cons _

theorem lookup?_knownMembers {fields : List (Field σ)} (hkeys : (fields.map Field.key).Nodup)
    {f : Field σ} (hf : f ∈ fields) (s : σ) :
  lookup? f.key (knownMembers fields s) = f.value s
  := by
  have hnodup := (keys_knownMembers_sublist fields s).nodup hkeys
  apply Option.ext
  intro v
  rw [lookup?_eq_some_iff hnodup, knownMembers, List.mem_filterMap]
  constructor
  · rintro ⟨g, hg, hv⟩
    obtain ⟨v', hv', heq⟩ := Option.map_eq_some_iff.mp hv
    obtain ⟨hkey, rfl⟩ := Prod.mk.inj heq
    rw [← List.inj_on_of_nodup_map hkeys hg hf hkey, hv']
  · intro hv
    exact ⟨f, hf, by rw [hv]; rfl⟩

theorem Tidy.nodup_keys (hr : r.Lawful) (hs : r.Tidy s) :
  (keys (r.members s)).Nodup
  := by
  rw [members_eq, keys, List.map_append]
  apply List.Nodup.append
  · exact (keys_knownMembers_sublist r.fields s).nodup hr.nodup_known
  · exact hs.ascending.nodup_keys
  · intro key hknown hextra
    obtain ⟨m, hm, rfl⟩ := List.mem_map.mp hextra
    exact hs.foreign m hm ((keys_knownMembers_sublist r.fields s).subset hknown)

/-- A known member has the value of its field. -/
theorem Tidy.lookup?_known (hr : r.Lawful) (hs : r.Tidy s) {f : Field σ} (hf : f ∈ r.fields) :
  lookup? f.key (r.members s) = f.value s
  := by
  have hknown : f.key ∈ r.known := List.mem_map_of_mem hf
  have hextra : lookup? f.key (r.extra s) = none := by
    apply lookup?_eq_none_iff.mpr
    intro h
    obtain ⟨m, hm, hkey⟩ := List.mem_map.mp h
    exact hs.foreign m hm (hkey ▸ hknown)
  rw [members_eq, lookup?_append, lookup?_knownMembers hr.nodup_known hf, hextra]
  cases f.value s <;> rfl

/-- A member that is not known has the value that is kept. -/
theorem lookup?_foreign (hkey : key ∉ r.known) (s : σ) :
  lookup? key (r.members s) = lookup? key (r.extra s)
  := by
  have hnone : lookup? key (knownMembers r.fields s) = none :=
    lookup?_eq_none_iff.mpr fun h => hkey ((keys_knownMembers_sublist r.fields s).subset h)
  rw [members_eq, lookup?_append, hnone]
  rfl

/-- The members of a record that are not known are those that are kept. -/
theorem Tidy.filter_members (hs : r.Tidy s) :
  (r.members s).filter (fun m => m.1 ∉ r.known) = r.extra s
  := by
  have hknown : (knownMembers r.fields s).filter (fun m => m.1 ∉ r.known) = [] := by
    apply List.filter_eq_nil_iff.mpr
    intro m hm
    have hkey : m.1 ∈ r.known :=
      (keys_knownMembers_sublist r.fields s).subset (List.mem_map_of_mem hm)
    simp [hkey]
  rw [members_eq, List.filter_append, hknown, List.nil_append]
  apply List.filter_eq_self.mpr
  intro m hm
  simp [hs.foreign m hm]

/-! ### Reading members -/

/-- Reading a member stores it in the field of its key, or keeps it. -/
theorem readMember_cases (r : Record σ) (s : σ) (m : String × Json) :
  (∃ f ∈ r.fields, f.key = m.1 ∧ r.readMember s m = f.store m.2 s)
    ∨ (m.1 ∉ r.known ∧ r.readMember s m = .ok (r.setExtra (insertMember m.1 m.2 (r.extra s)) s))
  := by
  unfold readMember
  split
  case h_1 f hf =>
    have hkey : f.key = m.1 := by simpa using List.find?_some hf
    exact .inl ⟨f, List.mem_of_find?_eq_some hf, hkey, rfl⟩
  case h_2 hnone =>
    refine .inr ⟨?_, rfl⟩
    intro h
    obtain ⟨f, hf, hkey⟩ := List.mem_map.mp h
    have := List.find?_eq_none.mp hnone f hf
    simp [hkey] at this

/-- The last member of its key decides what a field holds. -/
theorem Lawful.reads_of_ofMembers (hr : r.Lawful) (h : r.ofMembers members = .ok s)
    {f : Field σ} (hf : f ∈ r.fields) :
  (lookup? f.key members.reverse = none ∧ f.value s = none)
    ∨ ∃ v, lookup? f.key members.reverse = some v ∧ f.Reads v (f.value s)
  := by
  -- The member that is read last decides, so it is the one that is taken off.
  induction members using List.reverseRecOn generalizing s with
  | nil =>
    cases h
    exact .inl ⟨rfl, (hr.holds f hf).value_start⟩
  | append_singleton members m ih =>
    rw [ofMembers_concat, bind_eq_ok] at h
    obtain ⟨t, ht, h⟩ := h
    rw [List.reverse_concat, lookup?_cons]
    rcases readMember_cases r t m with ⟨g, hg, hkey, hread⟩ | ⟨hkey, hread⟩
    · rw [hread] at h
      by_cases hfg : m.1 = f.key
      · obtain rfl := List.inj_on_of_nodup_map hr.nodup_known hg hf (hkey.trans hfg)
        rw [if_pos hfg]
        exact .inr ⟨m.2, rfl, t, s, h, rfl⟩
      · rw [if_neg hfg, hr.value_store g hg _ _ _ h f hf fun h => hfg (hkey.symm.trans h.symm)]
        exact ih ht
    · rw [hread] at h
      obtain rfl := Except.ok.inj h
      have hne : m.1 ≠ f.key := fun heq => hkey (heq ▸ List.mem_map_of_mem hf)
      rw [if_neg hne, (hr.holds f hf).value_setExtra]
      exact ih ht

/-- The members that are not known are kept in order. -/
theorem Lawful.extra_of_ofMembers (hr : r.Lawful) (h : r.ofMembers members = .ok s) :
  r.extra s = sortMembers (members.filter fun m => m.1 ∉ r.known)
  := by
  induction members using List.reverseRecOn generalizing s with
  | nil =>
    cases h
    exact hr.extra_start
  | append_singleton members m ih =>
    rw [ofMembers_concat, bind_eq_ok] at h
    obtain ⟨t, ht, h⟩ := h
    rw [List.filter_append]
    rcases readMember_cases r t m with ⟨f, hf, hkey, hread⟩ | ⟨hkey, hread⟩
    · rw [hread] at h
      have hknown : m.1 ∈ r.known := hkey ▸ List.mem_map_of_mem hf
      simp [hknown, (hr.holds f hf).extra_store _ _ _ h, ih ht]
    · rw [hread] at h
      obtain rfl := Except.ok.inj h
      rw [hr.extra_setExtra, ih ht, ← sortMembers_concat]
      simp [hkey]

/-- A record that was read keeps the members that are not known, and no others. -/
theorem Lawful.tidy_of_ofMembers (hr : r.Lawful) (h : r.ofMembers members = .ok s) :
  r.Tidy s
  := by
  have hextra := hr.extra_of_ofMembers h
  constructor
  · rw [hextra]
    apply ascending_sortMembers
  · intro m hm
    rw [hextra] at hm
    simpa using (List.mem_filter.mp (mem_sortMembers hm)).2

/-- Members are read when each of them fits its field. -/
theorem exists_ofMembers
    (h : ∀ m ∈ members, ∀ f ∈ r.fields, f.key = m.1 → ∀ s, ∃ s', f.store m.2 s = .ok s') :
  ∃ s, r.ofMembers members = .ok s
  := by
  induction members using List.reverseRecOn with
  | nil => exact ⟨r.start, rfl⟩
  | append_singleton members m ih =>
    rw [List.forall_mem_append, List.forall_mem_singleton] at h
    obtain ⟨t, ht⟩ := ih h.1
    rw [ofMembers_concat, ht]
    rcases readMember_cases r t m with ⟨f, hf, hkey, hread⟩ | ⟨-, hread⟩
    · obtain ⟨s, hs⟩ := h.2 f hf hkey t
      exact ⟨s, hread.trans hs⟩
    · exact ⟨_, hread⟩

/-- A record is read back from its members, in whatever order they stand. -/
theorem Lawful.ofMembers_of_perm (hr : r.Lawful) (hs : r.Tidy s)
    (hperm : members.Perm (r.members s)) :
  r.ofMembers members = .ok s
  := by
  have hlookup (f : Field σ) (hf : f ∈ r.fields) :
      lookup? f.key members.reverse = f.value s := by
    rw [lookup?_eq_of_perm (members.reverse_perm.trans hperm) (hs.nodup_keys hr)]
    exact hs.lookup?_known hr hf
  obtain ⟨t, ht⟩ : ∃ t, r.ofMembers members = .ok t := by
    apply exists_ofMembers
    intro m hm f hf hkey t
    have hmem : (f.key, m.2) ∈ r.members s := hkey ▸ hperm.mem_iff.mp hm
    have hvalue := (lookup?_eq_some_iff (hs.nodup_keys hr)).mpr hmem
    rw [hs.lookup?_known hr hf] at hvalue
    obtain ⟨t', ht', -⟩ := (hr.holds f hf).takesBack s m.2 hvalue t
    exact ⟨t', ht'⟩
  rw [ht, Except.ok.injEq]
  apply hr.ext
  · intro f hf
    rcases hr.reads_of_ofMembers ht hf with ⟨hnone, ht⟩ | ⟨v, hv, t₁, t₂, hstore, heq⟩
    · rw [ht, ← hnone, hlookup f hf]
    · rw [hlookup f hf] at hv
      obtain ⟨t', ht', hback⟩ := (hr.holds f hf).takesBack s v hv t₁
      obtain rfl := Except.ok.inj (hstore.symm.trans ht')
      rw [← heq, hback, hv]
  · rw [hr.extra_of_ofMembers ht]
    apply sortMembers_eq_of_perm _ hs.ascending
    rw [← hs.filter_members]
    exact hperm.filter _

end Record

end MojoToolchain.Json
