import Mathlib.Data.List.Induction
import Mathlib.Data.List.Nodup
import Mathlib.Data.List.Perm.Basic
import Mathlib.Data.String.Basic
import MojoToolchain.Json.Value

/-!
# Members in ascending order

Members in ascending order of keys are determined by the values that their keys have, and
`Json.sortMembers` brings members into that order: it keeps the last value of each key, and
changes nothing that is in order already.
-/

namespace MojoToolchain.Json

variable {members others : Members} {key k : String} {value v : Json}

/-- The members stand in ascending order of keys, one for each key. -/
def Ascending (members : Members) : Prop := members.Pairwise fun m n => m.1 < n.1

instance : DecidablePred Ascending := fun members =>
  inferInstanceAs (Decidable (members.Pairwise fun m n => m.1 < n.1))

/-- The keys of members. -/
def keys (members : Members) : List String := members.map Prod.fst

theorem Ascending.nodup_keys (h : Ascending members) :
  (keys members).Nodup
  := by
  rw [keys, List.Nodup, List.pairwise_map]
  exact h.imp fun hlt => hlt.ne

theorem Ascending.nodup (h : Ascending members) :
  members.Nodup
  := h.imp fun hlt heq => hlt.ne (congrArg Prod.fst heq)

/-! ### Values of keys -/

theorem lookup?_cons (m : String × Json) (members : Members) :
  lookup? key (m :: members) = if m.1 = key then some m.2 else lookup? key members
  := by
  simp [lookup?]

theorem lookup?_append (members others : Members) :
  lookup? key (members ++ others) = (lookup? key members <|> lookup? key others)
  := by
  induction members with
  | nil => rfl
  | cons m rest ih =>
    rw [List.cons_append, lookup?_cons, lookup?_cons, ih]
    split
    · rfl
    · rfl

theorem lookup?_eq_none_iff :
  lookup? key members = none ↔ key ∉ keys members
  := by
  induction members with
  | nil => simp [lookup?, keys]
  | cons m rest ih =>
    rw [lookup?_cons]
    split
    case isTrue h => simp [keys, h]
    case isFalse h =>
      rw [ih]
      simp [keys, Ne.symm h]

theorem mem_of_lookup? (h : lookup? key members = some v) :
  (key, v) ∈ members
  := by
  induction members with
  | nil => cases h
  | cons m rest ih =>
    rw [lookup?_cons] at h
    split at h
    case isTrue hkey =>
      obtain rfl := Option.some.inj h
      rw [← hkey]
      apply List.mem_cons_self
    case isFalse => exact List.mem_cons_of_mem _ (ih h)

/-- With one value for each key, a key has the value of its member. -/
theorem lookup?_eq_some_iff (hkeys : (keys members).Nodup) :
  lookup? key members = some v ↔ (key, v) ∈ members
  := by
  constructor
  · exact mem_of_lookup?
  · intro h
    induction members with
    | nil => cases h
    | cons m rest ih =>
      obtain ⟨hm, hrest⟩ := List.nodup_cons.mp hkeys
      rw [lookup?_cons]
      rcases List.mem_cons.mp h with rfl | h
      · simp
      · have hne : m.1 ≠ key := by
          rintro rfl
          exact hm (List.mem_map.mpr ⟨_, h, rfl⟩)
        rw [if_neg hne]
        exact ih hrest h

/-- The order of members does not matter when each key has one value. -/
theorem lookup?_eq_of_perm (h : members.Perm others) (hkeys : (keys others).Nodup) :
  lookup? key members = lookup? key others
  := by
  have hkeys' : (keys members).Nodup := (h.map Prod.fst).nodup_iff.mpr hkeys
  apply Option.ext
  intro v
  rw [lookup?_eq_some_iff hkeys', lookup?_eq_some_iff hkeys, h.mem_iff]

/-- Members whose keys stay are those of the keys whose values stay. -/
theorem lookup?_filterMap {f : String × Json → Option (String × Json)}
    (hf : ∀ m n, f m = some n → n.1 = m.1) (hkeys : (keys members).Nodup) :
  lookup? key (members.filterMap f)
    = (lookup? key members).bind fun v => (f (key, v)).map Prod.snd
  := by
  induction members with
  | nil => rfl
  | cons m rest ih =>
    obtain ⟨hm, hrest⟩ := List.nodup_cons.mp hkeys
    rw [List.filterMap_cons, lookup?_cons]
    split
    case h_1 hnone =>
      rw [ih hrest]
      split
      case isTrue hkey =>
        subst hkey
        simp [lookup?_eq_none_iff.mpr hm, hnone]
      case isFalse => rfl
    case h_2 n hn =>
      rw [lookup?_cons, hf m n hn, ih hrest]
      split
      case isTrue hkey =>
        subst hkey
        simp [hn]
      case isFalse => rfl

theorem lookup?_filter {p : String × Json → Bool} (hp : ∀ v, p (key, v)) :
  lookup? key (members.filter p) = lookup? key members
  := by
  induction members with
  | nil => rfl
  | cons m rest ih =>
    rw [List.filter_cons, lookup?_cons]
    split
    case isTrue =>
      rw [lookup?_cons, ih]
    case isFalse hm =>
      have hkey : m.1 ≠ key := by
        rintro rfl
        exact hm (hp m.2)
      rw [ih, if_neg hkey]

/-! ### Putting members in order -/

theorem mem_insertMember {m : String × Json} (h : m ∈ insertMember key value members) :
  m = (key, value) ∨ m ∈ members
  := by
  induction members with
  | nil => exact .inl (List.mem_singleton.mp h)
  | cons n rest ih =>
    rw [insertMember] at h
    split_ifs at h with hlt heq
    · exact List.mem_cons.mp h
    · rcases List.mem_cons.mp h with rfl | h
      · exact .inl rfl
      · exact .inr (List.mem_cons_of_mem _ h)
    · rcases List.mem_cons.mp h with rfl | h
      · exact .inr List.mem_cons_self
      · exact (ih h).imp id (List.mem_cons_of_mem _)

theorem Ascending.insertMember (h : Ascending members) :
  Ascending (insertMember key value members)
  := by
  induction members with
  | nil => exact List.pairwise_singleton _ _
  | cons n rest ih =>
    obtain ⟨hn, hrest⟩ := List.pairwise_cons.mp h
    rw [Json.insertMember]
    split_ifs with hlt heq
    · apply List.pairwise_cons.mpr ⟨?_, h⟩
      intro m hm
      rcases List.mem_cons.mp hm with rfl | hm
      · exact hlt
      · exact hlt.trans (hn m hm)
    · obtain rfl := eq_of_beq heq
      exact List.pairwise_cons.mpr ⟨hn, hrest⟩
    · apply List.pairwise_cons.mpr ⟨?_, ih hrest⟩
      intro m hm
      rcases mem_insertMember hm with rfl | hm
      · have hne : n.1 ≠ key := fun h => heq (beq_iff_eq.mpr h.symm)
        exact lt_of_le_of_ne (not_lt.mp hlt) hne
      · exact hn m hm

theorem lookup?_insertMember (key k : String) (value : Json) (members : Members) :
  lookup? key (insertMember k value members)
    = if k = key then some value else lookup? key members
  := by
  split
  case isTrue h =>
    rw [h]
    apply lookup?_insertMember_self
  case isFalse h =>
    induction members with
    | nil => rw [insertMember, lookup?_cons, if_neg h]
    | cons n rest ih =>
      rw [insertMember]
      split_ifs with hlt heq
      · rw [lookup?_cons, if_neg h]
      · rw [lookup?_cons, if_neg h, lookup?_cons, if_neg fun hn => h ((eq_of_beq heq).trans hn)]
      · rw [lookup?_cons, ih, lookup?_cons]

theorem sortMembers_concat (members : Members) (m : String × Json) :
  sortMembers (members ++ [m]) = insertMember m.1 m.2 (sortMembers members)
  := by
  rw [sortMembers, List.foldl_append]
  rfl

theorem ascending_sortMembers (members : Members) :
  Ascending (sortMembers members)
  := by
  induction members using List.reverseRecOn with
  | nil => exact .nil
  | append_singleton members m ih =>
    rw [sortMembers_concat]
    exact ih.insertMember

theorem mem_sortMembers {m : String × Json} (h : m ∈ sortMembers members) :
  m ∈ members
  := by
  induction members using List.reverseRecOn with
  | nil => cases h
  | append_singleton members n ih =>
    rw [sortMembers_concat] at h
    rcases mem_insertMember h with rfl | h
    · simp
    · exact List.mem_append_left _ (ih h)

/-- The last value of a key stays. -/
theorem lookup?_sortMembers (key : String) (members : Members) :
  lookup? key (sortMembers members) = lookup? key members.reverse
  := by
  induction members using List.reverseRecOn with
  | nil => rfl
  | append_singleton members m ih =>
    rw [sortMembers_concat, lookup?_insertMember, ih, List.reverse_concat, lookup?_cons]

/-- Members in ascending order are determined by the values of keys. -/
theorem Ascending.ext (h : Ascending members) (hothers : Ascending others)
    (heq : ∀ key, lookup? key members = lookup? key others) :
  members = others
  := by
  have hperm : members.Perm others := by
    apply (List.perm_ext_iff_of_nodup h.nodup hothers.nodup).mpr
    rintro ⟨key, v⟩
    rw [← lookup?_eq_some_iff h.nodup_keys, ← lookup?_eq_some_iff hothers.nodup_keys, heq]
  apply hperm.eq_of_pairwise _ h hothers
  intro m n _ _ hmn hnm
  exact absurd hmn hnm.asymm

/-- Members that need only be put in order are put in order. -/
theorem sortMembers_eq_of_perm (h : members.Perm others) (hothers : Ascending others) :
  sortMembers members = others
  := by
  apply (ascending_sortMembers members).ext hothers
  intro key
  rw [lookup?_sortMembers]
  exact lookup?_eq_of_perm (members.reverse_perm.trans h) hothers.nodup_keys

/-- With one value for each key, members are only put in order. -/
theorem sortMembers_perm (hkeys : (keys members).Nodup) :
  (sortMembers members).Perm members
  := by
  have hkeys' : (keys members.reverse).Nodup :=
    (members.reverse_perm.map Prod.fst).nodup_iff.mpr hkeys
  apply (List.perm_ext_iff_of_nodup (ascending_sortMembers members).nodup
    (List.Nodup.of_map Prod.fst hkeys)).mpr
  rintro ⟨key, v⟩
  rw [← lookup?_eq_some_iff (ascending_sortMembers members).nodup_keys, lookup?_sortMembers,
    lookup?_eq_some_iff hkeys', List.mem_reverse]

theorem Ascending.sortMembers_eq (h : Ascending members) :
  sortMembers members = members
  := sortMembers_eq_of_perm (List.Perm.refl members) h

theorem Ascending.filterMap {f : String × Json → Option (String × Json)}
    (hf : ∀ m n, f m = some n → n.1 = m.1) (h : Ascending members) :
  Ascending (members.filterMap f)
  := by
  apply List.Pairwise.filterMap f _ h
  intro m n hlt m' hm n' hn
  rw [hf m m' hm, hf n n' hn]
  exact hlt

end MojoToolchain.Json
